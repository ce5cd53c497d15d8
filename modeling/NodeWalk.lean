import NodeWalk.Logger
import NodeWalk.Main
import NodeWalk.Proofs.ArithmeticLaws
import NodeWalk.Proofs.CoherentOrder
import NodeWalk.Proofs.CommutingWrites
import NodeWalk.Proofs.CopiesApart
import NodeWalk.Proofs.DocumentLaws
import NodeWalk.Proofs.FailedSave
import NodeWalk.Proofs.ForwardGraph
import NodeWalk.Proofs.Isolation
import NodeWalk.Proofs.LoadedGraph
import NodeWalk.Proofs.PointerFaults
import NodeWalk.Proofs.PointerText
import NodeWalk.Proofs.Reading
import NodeWalk.Proofs.RecordViews
import NodeWalk.Proofs.RegistryViews
import NodeWalk.Proofs.ReportedCalls
import NodeWalk.Proofs.Reporting
import NodeWalk.Proofs.Submitting
import NodeWalk.Proofs.Undisturbed
import NodeWalk.Proofs.WriteElsewhere
import NodeWalk.Proofs.WritingRuns
import NodeWalk.Service
