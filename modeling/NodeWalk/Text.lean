set_option autoImplicit false

/-!
# Texts

A text is a row of code points: characters, and the halves of surrogate pairs. A
half stands alone; no two of them make a character, whatever their order.
-/
namespace NodeWalk

inductive CodePoint where
  | char (c : Char)
  | high (n : Fin 0x400)
  | low (n : Fin 0x400)
deriving DecidableEq, Inhabited

namespace CodePoint

instance : Coe Char CodePoint := ⟨.char⟩

def toNat : CodePoint → Nat
  | .char c => c.toNat
  | .high n => 0xD800 + n
  | .low n => 0xDC00 + n

def ofNat (n : Nat) : CodePoint :=
  if 0xD800 ≤ n ∧ n < 0xDC00 then .high (Fin.ofNat 0x400 (n - 0xD800))
  else if 0xDC00 ≤ n ∧ n < 0xE000 then .low (Fin.ofNat 0x400 (n - 0xDC00))
  else .char (Char.ofNat n)

/-- The character that a pair stands for, by the numbers of its halves. -/
def ofPair (high low : Nat) : CodePoint :=
  .char (Char.ofNat (0x10000 + (high - 0xD800) * 0x400 + (low - 0xDC00)))

/-- A high half with a low one behind it becomes their character. -/
def joined : List CodePoint → List CodePoint
  | .high h :: .low l :: rest => .ofPair (high h).toNat (low l).toNat :: joined rest
  | c :: rest => c :: joined rest
  | [] => []

def isHalf : CodePoint → Bool
  | .char _ => false
  | .high _ | .low _ => true

def isDigit : CodePoint → Bool
  | .char c => c.isDigit
  | .high _ | .low _ => false

@[simp] theorem toNat_char (c : Char) : (char c).toNat = c.toNat := rfl

theorem toNat_inj {a b : CodePoint} : a.toNat = b.toNat ↔ a = b := by
  refine ⟨fun h => ?_, congrArg toNat⟩
  -- the numbers of the halves are left out by the characters
  have hchar (c : Char) : c.toNat < 0xD800 ∨ 0xE000 ≤ c.toNat := by
    have hc := c.valid
    simp only [UInt32.isValidChar, Nat.isValidChar] at hc
    have hn : c.toNat = c.val.toNat := rfl
    omega
  cases a <;> cases b <;> simp only [toNat] at h
  case char.char c d => exact congrArg char (Char.toNat_inj.1 h)
  case high.high m n => exact congrArg high (Fin.ext (by omega))
  case low.low m n => exact congrArg low (Fin.ext (by omega))
  case char.high c n | char.low c n => have := hchar c; omega
  case high.char n c | low.char n c => have := hchar c; omega
  case high.low m n | low.high m n => omega

instance : Ord CodePoint := ⟨compareOn toNat⟩

end CodePoint

@[ext]
structure Text where
  points : List CodePoint
deriving DecidableEq, Inhabited

namespace Text

def ofString (s : String) : Text := ⟨s.toList.map .char⟩

instance : Coe String Text := ⟨ofString⟩

instance : Append Text := ⟨fun s t => ⟨s.points ++ t.points⟩⟩

def length (s : Text) : Nat := s.points.length

/-- Texts are ordered as rows of numbers. -/
instance : Ord Text := ⟨compareOn points⟩

def isWhole (s : Text) : Bool := s.points.all fun c => !c.isHalf

/-- The text where only characters can be shown: each half is replaced. -/
def visible (s : Text) : String :=
  String.ofList <| s.points.map fun
    | .char c => c
    | .high _ | .low _ => '\ufffd'

@[simp] theorem points_append (s t : Text) : (s ++ t).points = s.points ++ t.points := rfl

@[simp] theorem points_ofString (s : String) : (ofString s).points = s.toList.map .char := rfl

@[simp] theorem ofString_inj {s t : String} : ofString s = ofString t ↔ s = t := by
  simp only [ofString, mk.injEq]
  rw [List.map_inj_right fun _ _ h => CodePoint.char.inj h, String.toList_inj]

end Text
end NodeWalk
