import NodeWalk.Proofs.RaisedFaults
import NodeWalk.Proofs.StepCeiling
import NodeWalk.Proofs.UndecodableFiles

set_option autoImplicit false

/-!
# What calls of `run` come to

A call loads the graph, opens the world, runs the one over the other, saves and prints. The
commands tell of the faults that have a name or come from the disk, and only up to the run.
So a call prints the world or tells what went wrong, but for the ways of `Escapes`: a file that
cannot be decoded, a behavior that raises a fault without a name, an integer that is too long,
and whatever goes wrong after the run.
-/
namespace NodeWalk

namespace Json

/-- No value of the tree stands in more than so many containers. -/
inductive Nests : Nat → Json → Prop where
  | scalar (n : Nat) (a : Scalar) : Nests n (.scalar a)
  | array {n : Nat} {items : List Json} (h : ∀ j ∈ items, Nests n j) : Nests (n + 1) (.array items)
  | object {n : Nat} {entries : List (Text × Json)} (h : ∀ e ∈ entries, Nests n e.2) :
    Nests (n + 1) (.object entries)

/-- A copy takes two calls for each container around a value, and a thousand calls may be open at a
time, some of them before a document is looked at. -/
def maxNesting : Nat := 400

/-- The document can be followed to its end and shown: its containers are not too deep in each
other, and it has no half of a surrogate pair. -/
structure Tame (j : Json) : Prop where
  nests : j.Nests maxNesting
  whole : j.unfolding.EveryText fun s => s.isWhole = true

end Json

def Disk.Tame (d : Disk) (path : Path) : Prop := ∀ j, d.readDocument path = .ok j → j.Tame

namespace CommandLine

namespace RunRequest

variable {disk : Disk} {r : RunRequest} {p : Parsed}

def Bounded (r : RunRequest) : Prop := ∀ n, r.ceiling = some n → 0 ≤ n

structure Sound (r : RunRequest) : Prop where
  graphFile : '\x00' ∉ r.graphFile.toList
  bounded : r.Bounded

theorem nonneg_of_nonnegative {name text : String} {n : Int} (h : nonnegative name text = .ok n) :
    0 ≤ n := by
  unfold nonnegative at h
  split at h
  · split at h
    · cases h
    · cases h
      exact Int.not_lt.1 ‹_›
  · cases h

theorem bounded_of_option {r' : RunRequest} {o : String × Option String} (hr : r.Bounded)
    (h : option disk r o = .ok r') : r'.Bounded := by
  unfold option at h
  split at h
  · obtain ⟨m, -, hm⟩ := bind_ok_iff.1 h
    cases hm
    exact hr
  · obtain ⟨path, -, hpath⟩ := bind_ok_iff.1 h
    cases hpath
    exact hr
  · obtain ⟨m, hm, hend⟩ := bind_ok_iff.1 h
    cases hend
    intro n hn
    cases hn
    exact nonneg_of_nonnegative hm
  · cases h
    exact hr
  · cases h
    exact hr

theorem bounded_of_options {r' : RunRequest} {os : List (String × Option String)} (hr : r.Bounded)
    (h : os.foldlM (option disk) r = .ok r') : r'.Bounded := by
  induction os generalizing r with
  | nil =>
    cases h
    exact hr
  | cons o os ih =>
    rw [List.foldlM_cons] at h
    obtain ⟨q, hfirst, hothers⟩ := bind_ok_iff.1 h
    exact ih (bounded_of_option hr hfirst) hothers

theorem notMem_of_existingFile {name text path : String}
    (h : existingFile disk name text = .ok path) : '\x00' ∉ path.toList := by
  unfold existingFile at h
  split at h
  · rename_i hlook
    cases h
    obtain ⟨place, hfollow, -⟩ := bind_ok_iff.1 hlook
    exact (Disk.follow_eq_ok_iff.1 hfollow).1.1
  all_goals cases h

theorem sound_of_parsed (h : ofParsed disk p = .ok r) : r.Sound := by
  obtain ⟨q, hoptions, hrest⟩ := bind_ok_iff.1 h
  have hstart : (⟨"", none, none, none, false⟩ : RunRequest).Bounded := by
    intro n hn
    cases hn
  have hbounded := bounded_of_options hstart hoptions
  split at hrest
  · cases hrest
  · obtain ⟨path, hpath, hmore⟩ := bind_ok_iff.1 hrest
    obtain ⟨-, -, hend⟩ := bind_ok_iff.1 hmore
    cases hend
    exact ⟨notMem_of_existingFile hpath, hbounded⟩

def worldPath? (settings : Settings) (r : RunRequest) : Option String :=
  r.world.filter (· != "") <|> settings.worldPath?

/-- Where the world is to be saved there is a file for it. -/
def Saveable (settings : Settings) (r : RunRequest) : Prop :=
  r.save = true → r.worldPath? settings ≠ none

structure Tame (settings : Settings) (disk : Disk) (r : RunRequest) : Prop where
  graph : disk.Tame (Path.ofText r.graphFile)
  world : ∀ path, r.worldPath? settings = some path → disk.Tame (Path.ofText path)

def interpreter (settings : Settings) (r : RunRequest) : Interpreter :=
  Interpreter.builtIn.limited (r.ceiling.getD settings.maxSteps).toNat

def entryOf (r : RunRequest) (g : Graph) : Value := .int (r.entry.getD g.entry)

def title (r : RunRequest) (g : Graph) : Text :=
  (g.name.filter fun name : Text => name != "").getD r.graphFile

end RunRequest

def Accepts (disk : Disk) (args : List String) (r : RunRequest) : Prop :=
  ∃ p, parse run.flags args = .ok p ∧ p.asksForHelp = false ∧ RunRequest.ofParsed disk p = .ok r

namespace Outcome

/-- The fault escapes, and nothing is printed. -/
structure Escaped (o : Outcome) (f : Fault) : Prop where
  escaped : o.escaped = some f
  code : o.exitCode = 1
  out : o.out = ""
  err : o.err = ""

structure Names (o : Outcome) (f : Fault) : Prop where
  escaped : o.escaped = none
  code : o.exitCode = 1
  out : ∃ name, f.name? = some name ∧ o.out = Screen.text
    ("[bold red]✗[/bold red] " ++ name ++ ": " ++ Screen.verbatim f.message)

structure Tells (o : Outcome) (code : Nat) (text : String) : Prop where
  escaped : o.escaped = none
  code : o.exitCode = code
  err : o.err = text

structure Prints (o : Outcome) (title : Text) (text : String) : Prop where
  escaped : o.escaped = none
  code : o.exitCode = 0
  out : o.out =
    Screen.panel ("[bold cyan]World after " ++ Screen.verbatim title ++ "[/bold cyan]") text

end Outcome

def openWorld (disk : Disk) (world : Option String) (h : Objects) : Except Fault Store :=
  match world with
  | some path => WorldFile.load disk path h
  | none => .ok (WorldFile.ofValue .null h)

def submission (g : Graph) : Submission := .list (g.nodes.map Node.source)

section

variable (settings : Settings) (disk : Disk) (turns : Nat) (r : RunRequest)

inductive Loads : Graph → Store → Prop where
  | loaded {g : Graph} {h : Objects} {s : Store} (saveable : r.Saveable settings)
      (graph : Graph.load disk r.graphFile .empty = (.ok g, h))
      (world : openWorld disk (r.worldPath? settings) h = .ok s) : Loads g s

inductive Ends : Graph → Ending → Session → Prop where
  | run {g : Graph} {s : Store} {e : Ending} {t : Session} (loads : Loads settings disk r g s)
      (run : (r.interpreter settings).run turns (r.entryOf g) (submission g) ⟨s, .empty⟩ = (e, t)) :
      Ends g e t

/-- A fault ends the call before there is a world to print. -/
inductive Stops : Fault → Prop where
  | graph {f : Fault} {h : Objects} (saveable : r.Saveable settings)
      (graph : Graph.load disk r.graphFile .empty = (.error f, h)) : Stops f
  | world {f : Fault} {g : Graph} {h : Objects} (saveable : r.Saveable settings)
      (graph : Graph.load disk r.graphFile .empty = (.ok g, h))
      (world : openWorld disk (r.worldPath? settings) h = .error f) : Stops f
  | run {f : Fault} {g : Graph} {k : Nat} {t : Session}
      (ends : Ends settings disk turns r g (.failed k f) t) : Stops f

/-- The ways in which a fault escapes a call. -/
inductive Escapes : Fault → Prop where
  | graph {f : Fault} (saveable : r.Saveable settings)
      (file : disk.Undecodable (Path.ofText r.graphFile) f) : Escapes f
  | world {f : Fault} {g : Graph} {h : Objects} {path : String} (saveable : r.Saveable settings)
      (graph : Graph.load disk r.graphFile .empty = (.ok g, h))
      (named : r.worldPath? settings = some path)
      (file : disk.Undecodable (Path.ofText path) f) : Escapes f
  /-- The run fails with what a behavior raises. -/
  | behavior {f : Fault} {g : Graph} {s : Store} {k : Nat} {t : Session}
      (ends : Ends settings disk turns r g (.failed k f) t) (loads : Loads settings disk r g s)
      (raises : (r.interpreter settings).Raises (r.entryOf g) (submission g) ⟨s, .empty⟩ f)
      (unexpected : f.Unexpected) : Escapes f
  /-- The run fails for an integer that cannot be written. -/
  | number {g : Graph} {k : Nat} {t : Session}
      (ends : Ends settings disk turns r g (.failed k .integerTooLong) t) : Escapes .integerTooLong
  /-- The run halts, but its world cannot be saved. -/
  | save {f : Fault} {g : Graph} {k : Nat} {t : Session} {path : String}
      (ends : Ends settings disk turns r g (.halted k) t) (asked : r.save = true)
      (named : r.worldPath? settings = some path)
      (fails : (WorldFile.save disk path t.store).1.fault = some f) : Escapes f
  /-- The run halts, and its world, which is not saved, cannot be printed. -/
  | print {g : Graph} {k : Nat} {t : Session} {b : Unfolding.Broken}
      (ends : Ends settings disk turns r g (.halted k) t) (asked : r.save = false)
      (breaks : (t.store.objects.unfold t.store.root).write = .error b) : Escapes b.error.fault

/-- The call prints the world that its run leaves, or tells what went wrong. -/
inductive Reported (o : Outcome) : Prop where
  | unsaveable (refused : ¬ r.Saveable settings)
      (told : o.Tells 2 (Refusal.saveWithoutWorld.report run))
  | named {f : Fault} (stops : Stops settings disk turns r f) (told : o.Names f)
  | unnamed {f : Fault} (stops : Stops settings disk turns r f)
      (told : o.Tells 1 ("Error: " ++ f.message.visible ++ "\n"))
  | printed {g : Graph} {k : Nat} {t : Session} {text : String}
      (ends : Ends settings disk turns r g (.halted k) t)
      (writes : (t.store.objects.unfold t.store.root).write = .ok text)
      (told : o.Prints (r.title g) text)

end

namespace Outcome

variable {f : Fault} {log : List Notice}

theorem ofFault_named {name : String} (hf : f.name? = some name) : ofFault f =
    { nothing with
      exitCode := 1
      out := Screen.text
        ("[bold red]✗[/bold red] " ++ name ++ ": " ++ Screen.verbatim f.message) } := by
  rw [ofFault, hf]

theorem ofFault_unnamed (hf : f.name? = none) (hfile : isFileFault f = true) :
    ofFault f = failed f.message := by
  rw [ofFault, hf]
  exact if_pos hfile

theorem ofFault_unexpected (hf : f.Unexpected) : ofFault f = escaping f := by
  rw [ofFault, hf.1]
  exact if_neg (Bool.eq_false_iff.1 hf.2)

theorem escaped_escaping (f : Fault) (log : List Notice) (written : List WorldFile.Written) :
    Escaped { (escaping f).logging log with written } f := ⟨rfl, rfl, rfl, rfl⟩

theorem ofFault_logging_nil (f : Fault) : (ofFault f).logging [] = ofFault f := by
  have hlog : (ofFault f).log = [] := by
    unfold ofFault
    split
    · rfl
    · split <;> rfl
  rw [logging, List.filter_nil, ← hlog]

end Outcome

variable {settings : Settings} {disk : Disk} {turns : Nat} {r : RunRequest} {args : List String}
  {f : Fault} {o : Outcome} {g : Graph} {k : Nat} {t : Session}

theorem execute_run (h : Accepts disk args r) :
    execute settings disk turns ("run" :: args) = runGraph settings disk turns r := by
  obtain ⟨p, hparse, hhelp, hr⟩ := h
  change parsed run args _ = _
  rw [parsed, hparse]
  dsimp only
  rw [hhelp]
  simp only [hr, bind, Except.bind, Bool.false_eq_true, ↓reduceIte]

theorem nonneg_of_valid (hvalid : settings.valid = true) : 0 ≤ settings.maxSteps := by
  unfold Settings.valid Settings.complaints at hvalid
  split at hvalid
  · cases hvalid
  · exact Int.not_lt.1 ‹_›

theorem ceiling_interpreter (hvalid : settings.valid = true) (hr : r.Bounded) :
    Ceiling.ofScalar (.int (r.ceiling.getD settings.maxSteps)) =
      .ok (r.interpreter settings).ceiling := by
  have hnonneg : 0 ≤ r.ceiling.getD settings.maxSteps := by
    cases hc : r.ceiling with
    | none => exact nonneg_of_valid hvalid
    | some n => exact hr n hc
  have hnat := Interpreter.ofValue_nat .empty 0 .builtIn (r.ceiling.getD settings.maxSteps).toNat
  rw [Int.toNat_of_nonneg hnonneg] at hnat
  exact hnat

theorem runGraph_unsaveable (hvalid : settings.valid = true) (hsave : ¬ r.Saveable settings) :
    runGraph settings disk turns r = some (.refused run .saveWithoutWorld) := by
  obtain ⟨hasked, hnone⟩ := Classical.not_imp.1 hsave
  have hnone : r.worldPath? settings = none := Classical.not_not.1 hnone
  rw [RunRequest.worldPath?] at hnone
  simp [runGraph, hvalid, hasked, hnone]

theorem runGraph_saveable (hvalid : settings.valid = true) (hr : r.Bounded)
    (hsave : r.Saveable settings) : runGraph settings disk turns r =
    match Graph.load disk r.graphFile .empty with
    | (.error f, _) => some (.ofFault f)
    | (.ok g, h) =>
      match openWorld disk (r.worldPath? settings) h with
      | .error f => some (.ofFault f)
      | .ok s =>
        match (r.interpreter settings).run turns (r.entryOf g) (submission g) ⟨s, .empty⟩ with
        | (.unfinished _ _, _) => none
        | (.failed _ f, t) => some ((Outcome.ofFault f).logging t.store.log.toList)
        | (.halted _, t) =>
          some (finish disk (r.worldPath? settings) (r.title g) r.save t.store) := by
  have hchecked : (r.save && (r.worldPath? settings).isNone) = false := by
    rw [Bool.and_eq_false_imp, Option.isNone_eq_false_iff, Option.isSome_iff_ne_none]
    exact hsave
  unfold runGraph
  dsimp only
  rw [hvalid]
  change (if (r.save && (r.worldPath? settings).isNone) = true then _ else _) = _
  rw [hchecked, if_neg Bool.false_ne_true, ceiling_interpreter hvalid hr]
  obtain ⟨f | g, h⟩ := Graph.load disk r.graphFile .empty
  · rfl
  · change (match openWorld disk (r.worldPath? settings) h with | .error f => _ | .ok s => _) = _
    dsimp only
    cases openWorld disk (r.worldPath? settings) h <;> rfl

theorem runGraph_of_stops (hvalid : settings.valid = true) (hr : r.Bounded)
    (h : Stops settings disk turns r f) :
    ∃ log, runGraph settings disk turns r = some ((Outcome.ofFault f).logging log) := by
  cases h with
  | graph saveable graph =>
    rw [runGraph_saveable hvalid hr saveable, graph]
    exact ⟨[], by rw [Outcome.ofFault_logging_nil]⟩
  | world saveable graph world =>
    rw [runGraph_saveable hvalid hr saveable, graph]
    dsimp only
    rw [world]
    exact ⟨[], by rw [Outcome.ofFault_logging_nil]⟩
  | run ends =>
    obtain ⟨⟨saveable, graph, world⟩, run⟩ := ends
    rw [runGraph_saveable hvalid hr saveable, graph]
    dsimp only
    rw [world]
    dsimp only
    rw [run]
    exact ⟨_, rfl⟩

theorem runGraph_of_halted (hvalid : settings.valid = true) (hr : r.Bounded)
    (h : Ends settings disk turns r g (.halted k) t) : runGraph settings disk turns r =
      some (finish disk (r.worldPath? settings) (r.title g) r.save t.store) := by
  obtain ⟨⟨saveable, graph, world⟩, run⟩ := h
  rw [runGraph_saveable hvalid hr saveable, graph]
  dsimp only
  rw [world]
  dsimp only
  rw [run]

theorem runGraph_cases (hvalid : settings.valid = true) (hr : r.Bounded)
    (hsave : r.Saveable settings) (h : runGraph settings disk turns r = some o) :
    (∃ f, Stops settings disk turns r f) ∨
      ∃ g k t, Ends settings disk turns r g (.halted k) t := by
  rw [runGraph_saveable hvalid hr hsave] at h
  split at h
  · rename_i graph
    exact .inl ⟨_, .graph hsave graph⟩
  · rename_i graph
    split at h
    · rename_i world
      exact .inl ⟨_, .world hsave graph world⟩
    · rename_i world
      split at h
      · cases h
      · rename_i run
        exact .inl ⟨_, .run ⟨⟨hsave, graph, world⟩, run⟩⟩
      · rename_i run
        exact .inr ⟨_, _, _, ⟨⟨hsave, graph, world⟩, run⟩⟩

theorem openWorld_of_undecodable {path : String} (hnamed : r.worldPath? settings = some path)
    (hfile : disk.Undecodable (Path.ofText path) f) (h : Objects) :
    openWorld disk (r.worldPath? settings) h = .error f := by
  rw [hnamed, openWorld]
  exact WorldFile.load_of_undecodable hfile h

theorem undecodable_of_openWorld {h : Objects}
    (hworld : openWorld disk (r.worldPath? settings) h = .error f) (hf : f.Unexpected) :
    ∃ path, r.worldPath? settings = some path ∧ disk.Undecodable (Path.ofText path) f := by
  cases hpath : r.worldPath? settings with
  | none =>
    rw [hpath] at hworld
    cases hworld
  | some path =>
    rw [hpath, openWorld] at hworld
    exact ⟨path, rfl, WorldFile.undecodable_of_load hworld hf⟩

/-- An unexpected fault that ends a call is one of a file, of a behavior or of a number. -/
theorem escapes_of_stops (hpath : '\x00' ∉ r.graphFile.toList)
    (h : Stops settings disk turns r f) (hf : f.Unexpected) : Escapes settings disk turns r f := by
  cases h with
  | graph saveable graph => exact .graph saveable (Graph.undecodable_of_load hpath graph hf)
  | world saveable graph world =>
    obtain ⟨path, hnamed, hfile⟩ := undecodable_of_openWorld world hf
    exact .world saveable graph hnamed hfile
  | run ends =>
    obtain ⟨⟨saveable, graph, world⟩, run⟩ := ends
    obtain (hnamed | rfl) | hraises :=
      Interpreter.ofRun_or_raises (Graph.read_of_load graph) run
    · rw [hf.1] at hnamed
      cases hnamed
    · exact .number ⟨⟨saveable, graph, world⟩, run⟩
    · exact .behavior ⟨⟨saveable, graph, world⟩, run⟩ ⟨saveable, graph, world⟩ hraises hf

theorem finish_escaped {world : Option String} {title : Text} {save : Bool} {s : Store}
    {path : String} (hworld : world = some path) (hsave : save = true)
    (hfails : (WorldFile.save disk path s).1.fault = some f) :
    (finish disk world title save s).Escaped f := by
  subst hworld hsave
  simp only [finish, hfails]
  exact Outcome.escaped_escaping f _ _

theorem finish_unsaved {world : Option String} {title : Text} {s : Store} {b : Unfolding.Broken}
    (hbreaks : (s.objects.unfold s.root).write = .error b) :
    (finish disk world title false s).Escaped b.error.fault := by
  cases world <;> simp only [finish, hbreaks] <;> exact Outcome.escaped_escaping _ _ _

theorem runGraph_of_escapes (hvalid : settings.valid = true) (hr : r.Bounded)
    (h : Escapes settings disk turns r f) :
    ∃ o, runGraph settings disk turns r = some o ∧ o.Escaped f := by
  have stopped {f : Fault} (hstops : Stops settings disk turns r f) (hf : f.Unexpected) :
      ∃ o, runGraph settings disk turns r = some o ∧ o.Escaped f := by
    obtain ⟨log, hlog⟩ := runGraph_of_stops hvalid hr hstops
    rw [Outcome.ofFault_unexpected hf] at hlog
    exact ⟨_, hlog, Outcome.escaped_escaping f log []⟩
  cases h with
  | graph saveable file =>
    exact stopped (.graph saveable (Graph.load_of_undecodable file _)) file.unexpected
  | world saveable graph named file =>
    exact stopped (.world saveable graph (openWorld_of_undecodable named file _)) file.unexpected
  | behavior ends _ _ unexpected => exact stopped (.run ends) unexpected
  | number ends => exact stopped (.run ends) ⟨rfl, rfl⟩
  | save ends asked named fails =>
    exact ⟨_, runGraph_of_halted hvalid hr ends, finish_escaped named asked fails⟩
  | print ends asked breaks =>
    refine ⟨_, runGraph_of_halted hvalid hr ends, ?_⟩
    rw [asked]
    exact finish_unsaved breaks

theorem Reported.escaped (h : Reported settings disk turns r o) : o.escaped = none := by
  cases h with
  | unsaveable _ told => exact told.escaped
  | named _ told => exact told.escaped
  | unnamed _ told => exact told.escaped
  | printed _ _ told => exact told.escaped

theorem reported_of_stops (hstops : Stops settings disk turns r f) (hf : ¬ f.Unexpected)
    (log : List Notice) : Reported settings disk turns r ((Outcome.ofFault f).logging log) := by
  cases hname : f.name? with
  | some name =>
    rw [Outcome.ofFault_named hname]
    exact .named hstops ⟨rfl, rfl, name, hname, rfl⟩
  | none =>
    have hfile : Outcome.isFileFault f = true := by
      rw [← Bool.not_eq_false]
      exact fun hfile => hf ⟨hname, hfile⟩
    rw [Outcome.ofFault_unnamed hname hfile]
    exact .unnamed hstops ⟨rfl, rfl, rfl⟩

theorem save_sameDocument (disk : Disk) (path : String) (s : Store) :
    s.SameDocument (WorldFile.save disk path s).2 := by
  unfold WorldFile.save
  dsimp only
  split
  · exact ⟨rfl, rfl⟩
  · split
    · exact ⟨rfl, rfl⟩
    · dsimp only
      split <;> exact ⟨rfl, rfl⟩

section

variable {path text : String} {s : Store}

theorem write_of_saved (hfault : (WorldFile.save disk path s).1.fault = none) :
    ∃ text, (s.objects.unfold s.root).write = .ok text := by
  obtain ⟨-, hfails, -⟩ | ⟨-, -, -, ⟨text, htext, -, -⟩ | ⟨b, -, hfails, -, -⟩⟩ :=
    WorldFile.save_cases (Prod.mk.eta (p := WorldFile.save disk path s)).symm
  · exact absurd hfault hfails
  · exact ⟨text, htext⟩
  · rw [hfails] at hfault
    cases hfault

theorem finish_saved (title : Text) (hfault : (WorldFile.save disk path s).1.fault = none)
    (hwrites : (s.objects.unfold s.root).write = .ok text) :
    (finish disk (some path) title true s).Prints title text := by
  obtain ⟨hobjects, hroot⟩ := save_sameDocument disk path s
  rw [← hobjects, ← hroot] at hwrites
  simp only [finish, hfault, hwrites]
  exact ⟨rfl, rfl, rfl⟩

theorem finish_printed (disk : Disk) (world : Option String) (title : Text)
    (hwrites : (s.objects.unfold s.root).write = .ok text) :
    (finish disk world title false s).Prints title text := by
  cases world <;> simp only [finish, hwrites] <;> exact ⟨rfl, rfl, rfl⟩

end

/-- After a run that halted the world is printed, unless it cannot be saved or printed. -/
theorem escapes_or_reported (hends : Ends settings disk turns r g (.halted k) t) :
    (∃ f, Escapes settings disk turns r f) ∨ Reported settings disk turns r
      (finish disk (r.worldPath? settings) (r.title g) r.save t.store) := by
  have hsaveable : r.Saveable settings := by
    obtain ⟨⟨saveable, -, -⟩, -⟩ := hends
    exact saveable
  cases hsave : r.save with
  | true =>
    obtain ⟨path, hpath⟩ := Option.ne_none_iff_exists'.1 (hsaveable hsave)
    cases hfault : (WorldFile.save disk path t.store).1.fault with
    | some f => exact .inl ⟨f, .save hends hsave hpath hfault⟩
    | none =>
      obtain ⟨text, hwrites⟩ := write_of_saved hfault
      rw [hpath]
      exact .inr (.printed hends hwrites (finish_saved (r.title g) hfault hwrites))
  | false =>
    cases hwrites : (t.store.objects.unfold t.store.root).write with
    | error b => exact .inl ⟨_, .print hends hsave hwrites⟩
    | ok text => exact .inr (.printed hends hwrites (finish_printed disk _ (r.title g) hwrites))

theorem escapes_or_reported_of_runGraph (hvalid : settings.valid = true) (hr : r.Sound)
    (h : runGraph settings disk turns r = some o) :
    (∃ f, Escapes settings disk turns r f) ∨ Reported settings disk turns r o := by
  by_cases hsave : r.Saveable settings
  · obtain ⟨f, hstops⟩ | ⟨g, k, t, hends⟩ := runGraph_cases hvalid hr.bounded hsave h
    · by_cases hf : f.Unexpected
      · exact .inl ⟨f, escapes_of_stops hr.graphFile hstops hf⟩
      · obtain ⟨log, hlog⟩ := runGraph_of_stops hvalid hr.bounded hstops
        rw [hlog] at h
        cases h
        exact .inr (reported_of_stops hstops hf log)
    · rw [runGraph_of_halted hvalid hr.bounded hends] at h
      cases h
      exact escapes_or_reported hends
  · rw [runGraph_unsaveable hvalid hsave] at h
    cases h
    exact .inr (.unsaveable hsave ⟨rfl, rfl, rfl⟩)

/-- A call that is accepted and comes to an end is reported, with the world or with what went
wrong, unless one of the ways of `Escapes` is open. Then the fault escapes, and nothing is
printed. Of files that are not tame nothing is said: what a terminal does with half of a surrogate
pair, and how deep the calls for a nested document go, is left out of the commands here. -/
theorem run_answered (accepted : Accepts disk args r) (valid : settings.valid = true)
    (_tame : r.Tame settings disk) (ends : execute settings disk turns ("run" :: args) = some o) :
    (∃ f, Escapes settings disk turns r f ∧ o.Escaped f) ∨
      (∀ f, ¬ Escapes settings disk turns r f) ∧ Reported settings disk turns r o := by
  rw [execute_run accepted] at ends
  obtain ⟨p, -, -, hparsed⟩ := accepted
  have hsound := RunRequest.sound_of_parsed hparsed
  have escaping {f : Fault} (hf : Escapes settings disk turns r f) : o.Escaped f := by
    obtain ⟨o', ho', hescaped⟩ := runGraph_of_escapes valid hsound.bounded hf
    rw [ends] at ho'
    cases ho'
    exact hescaped
  obtain ⟨f, hf⟩ | hreported := escapes_or_reported_of_runGraph valid hsound ends
  · exact .inl ⟨f, hf, escaping hf⟩
  · refine .inr ⟨fun f hf => ?_, hreported⟩
    have hsome := (escaping hf).escaped
    rw [hreported.escaped] at hsome
    cases hsome

theorem accepts_graph (bytes : List UInt8) :
    Accepts (Graph.holding bytes) ["graph.json"] ⟨"graph.json", none, none, none, false⟩ :=
  ⟨⟨[], ["graph.json"]⟩, rfl, rfl, rfl⟩

def idling : List UInt8 := "[\x7b\"type\": \"flow.noop\"\x7d]".toUTF8.toList

theorem tame_idling : RunRequest.Tame Settings.defaults (Graph.holding idling)
    ⟨"graph.json", none, none, none, false⟩ where
  graph j hj := by
    have hread : ((Graph.holding idling).readDocument (Path.ofText "graph.json")).toOption =
        some (.array [.object [(↑"type", .text "flow.noop")]]) := by decide +kernel
    rw [hj] at hread
    obtain rfl := Option.some.inj hread
    constructor
    · exact .array (List.forall_mem_singleton.2 (.object
        (List.forall_mem_singleton.2 (.scalar _ _))))
    · refine .array (List.forall_mem_singleton.2 (.object (by decide) ?_))
      exact List.forall_mem_singleton.2 (.scalar fun s hs => by cases hs; decide)
  world _ hpath := by cases hpath

theorem run_answered_idling :
    ∃ r o, Accepts (Graph.holding idling) ["graph.json"] r ∧ Settings.defaults.valid = true ∧
      r.Tame Settings.defaults (Graph.holding idling) ∧
      execute Settings.defaults (Graph.holding idling) 1 ["run", "graph.json"] = some o ∧
      Reported Settings.defaults (Graph.holding idling) 1 r o ∧ o.exitCode = 0 := by
  have hcall : ((execute Settings.defaults (Graph.holding idling) 1 ["run", "graph.json"]).map
      fun o => (o.exitCode, o.escaped.isNone)) = some (0, true) := by decide +kernel
  obtain ⟨o, ends, ho⟩ := Option.map_eq_some_iff.1 hcall
  obtain ⟨hcode, hnone⟩ := Prod.mk.inj ho
  have valid : Settings.defaults.valid = true := by decide
  obtain ⟨f, -, hescaped⟩ | ⟨-, hreported⟩ :=
    run_answered (accepts_graph idling) valid tame_idling ends
  · rw [hescaped.escaped] at hnone
    cases hnone
  · exact ⟨_, o, accepts_graph idling, valid, tame_idling, ends, hreported, hcode⟩

def mixing : List UInt8 :=
  ("[\x7b\"type\": \"math.add\", " ++
    "\"parameters\": \x7b\"a\": 1, \"b\": \"x\"\x7d\x7d]").toUTF8.toList

/-- Operands that cannot be added are neither reported nor is any world printed. -/
theorem run_mixing :
    (∃ r, Accepts (Graph.holding mixing) ["graph.json"] r) ∧ Settings.defaults.valid = true ∧
      ∃ o f, execute Settings.defaults (Graph.holding mixing) 1 ["run", "graph.json"] = some o ∧
        o.escaped = some f ∧
        f.message = "unsupported operand type(s) for +: 'int' and 'str'" ∧
        o.out = "" ∧ o.err = "" := by
  have hcall : ((execute Settings.defaults (Graph.holding mixing) 1 ["run", "graph.json"]).map
      fun o => (o.escaped.map Fault.message, o.out, o.err)) =
      some (some ↑"unsupported operand type(s) for +: 'int' and 'str'", "", "") := by
    decide +kernel
  obtain ⟨o, ends, ho⟩ := Option.map_eq_some_iff.1 hcall
  obtain ⟨hfault, hprinted⟩ := Prod.mk.inj ho
  obtain ⟨f, hf, hmessage⟩ := Option.map_eq_some_iff.1 hfault
  obtain ⟨hout, herr⟩ := Prod.mk.inj hprinted
  exact ⟨⟨_, accepts_graph mixing⟩, by decide, o, f, ends, hf, hmessage, hout, herr⟩

end CommandLine
end NodeWalk
