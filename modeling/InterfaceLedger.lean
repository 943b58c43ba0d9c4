import InterfaceLedger.Value
import InterfaceLedger.Declaration
import InterfaceLedger.Entry
import InterfaceLedger.MethodTable.Basic
import InterfaceLedger.MethodTable.View
import InterfaceLedger.Ledger.Basic
import InterfaceLedger.Ledger.Define
import InterfaceLedger.Ledger.Dispatch
import InterfaceLedger.Ledger.Conformance
import InterfaceLedger.Operation
import InterfaceLedger.Registry
import InterfaceLedger.History
import InterfaceLedger.Session
import InterfaceLedger.Inspect
import InterfaceLedger.Proofs.Rows
import InterfaceLedger.Proofs.Bindings
import InterfaceLedger.Proofs.Effect
import InterfaceLedger.Proofs.Names
import InterfaceLedger.Proofs.Edits
import InterfaceLedger.Proofs.Lineage
import InterfaceLedger.Proofs.Tables
import InterfaceLedger.Proofs.Composition
import InterfaceLedger.Proofs.Growth
import InterfaceLedger.Proofs.Lookup
import InterfaceLedger.Proofs.Calls
import InterfaceLedger.Proofs.Sending
import InterfaceLedger.Proofs.Refusals
import InterfaceLedger.Proofs.Gaps
import InterfaceLedger.Proofs.Walks
import InterfaceLedger.Proofs.Instances
import InterfaceLedger.Proofs.Resolution
import InterfaceLedger.Proofs.Untouched
import InterfaceLedger.Proofs.StandIns
import InterfaceLedger.Proofs.Dependence
import InterfaceLedger.Proofs.Labels
import InterfaceLedger.Proofs.Representation
import InterfaceLedger.Proofs.Refinement
import InterfaceLedger.Proofs.Sessions
import InterfaceLedger.Proofs.Directory
import InterfaceLedger.Proofs.Permanence
import InterfaceLedger.Proofs.Sealing
import InterfaceLedger.Proofs.Attachment
import InterfaceLedger.Proofs.Precedence
import InterfaceLedger.Proofs.Inheritance
import InterfaceLedger.Proofs.Redefinition
import InterfaceLedger.Proofs.Shadowing
import InterfaceLedger.Proofs.OwnMethods
import InterfaceLedger.Proofs.Strangers
import InterfaceLedger.Proofs.Answers
import InterfaceLedger.Proofs.Likeness
import InterfaceLedger.Proofs.Mirror
import InterfaceLedger.Proofs.Reflection
import InterfaceLedger.Proofs.Lockstep
import InterfaceLedger.Proofs.Numbering
import InterfaceLedger.Proofs.Accumulation
import InterfaceLedger.Proofs.Interchange
import InterfaceLedger.Proofs.LateBinding
import InterfaceLedger.Proofs.Withdrawal
import InterfaceLedger.Proofs.Imitation
import InterfaceLedger.Proofs.Linking
import InterfaceLedger.Proofs.Provenance
import InterfaceLedger.Proofs.Typing
