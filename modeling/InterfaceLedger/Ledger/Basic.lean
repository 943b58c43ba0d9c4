import InterfaceLedger.MethodTable.Basic

/-!
Ledgers. A ledger is the row of everything it has given a symbol to, and the symbol is the place
in the row: texts, classes and modules share one numbering, and nothing is ever taken out. A class
or a module carries the symbol of its name, which is a text further up. All that is asked about
names is read off the row.
-/
namespace InterfaceLedger

structure ClassRecord where
  name : Symbol
  parent : Option Symbol := none
  table : MethodTable := ∅
  includes : List Symbol := []
  handler : Option Handler := none

inductive Role where
  | capability | interface
  deriving DecidableEq, Repr, Inhabited

structure ModuleRecord where
  name : Symbol
  role : Role := .capability
  table : MethodTable := ∅

namespace ModuleRecord

def isInterface (m : ModuleRecord) : Bool := m.role = .interface

/-- The methods that a class has to answer to when the module is its interface. -/
def declared (m : ModuleRecord) : List Symbol := m.table.publicNames

end ModuleRecord

inductive Binding where
  | text (value : String)
  | ofClass (record : ClassRecord)
  | ofModule (record : ModuleRecord)

namespace Binding

def text? : Binding → Option String
  | text x => some x
  | _ => none

def nameSymbol? : Binding → Option Symbol
  | text _ => none
  | ofClass c => some c.name
  | ofModule m => some m.name

end Binding

structure Ledger where
  bindings : List Binding := []

namespace Ledger

instance : EmptyCollection Ledger := ⟨{}⟩

instance : Inhabited Ledger := ⟨∅⟩

def size (L : Ledger) : Nat := L.bindings.length

def textAt? (L : Ledger) (s : Symbol) : Option String := L.bindings[s]?.bind Binding.text?

def nameOfBinding? (L : Ledger) : Binding → Option String
  | .text x => some x
  | .ofClass c => L.textAt? c.name
  | .ofModule m => L.textAt? m.name

def nameOf? (L : Ledger) (s : Symbol) : Option String := L.bindings[s]?.bind L.nameOfBinding?

/-- The name of a symbol for a message; a symbol without a name is shown as a number. -/
def describe (L : Ledger) (s : Symbol) : String := (L.nameOf? s).getD s!"#<symbol {s}>"

def textSymbol? (L : Ledger) (x : String) : Option Symbol :=
  L.bindings.findIdx? (·.text? == some x)

def entity? (L : Ledger) (x : String) : Option Symbol :=
  L.bindings.findIdx? fun b => b.nameSymbol?.bind L.textAt? == some x

def isClass (L : Ledger) (s : Symbol) : Bool :=
  match L.bindings[s]? with
  | some (.ofClass _) => true
  | _ => false

def isModule (L : Ledger) (s : Symbol) : Bool :=
  match L.bindings[s]? with
  | some (.ofModule _) => true
  | _ => false

def classAt (L : Ledger) (s : Symbol) : Except Fault ClassRecord :=
  match L.bindings[s]? with
  | some (.ofClass c) => .ok c
  | some _ => .error (.notAClass (L.describe s))
  | none => .error (.unknownSymbol s)

def moduleAt (L : Ledger) (s : Symbol) : Except Fault ModuleRecord :=
  match L.bindings[s]? with
  | some (.ofModule m) => .ok m
  | some _ => .error (.notAModule (L.describe s))
  | none => .error (.unknownSymbol s)

def isInterface (L : Ledger) (s : Symbol) : Bool :=
  match L.bindings[s]? with
  | some (.ofModule m) => m.isInterface
  | _ => false

/-- The method table of an owner. Singleton methods belong to their instance, not to a ledger. -/
def tableOf (L : Ledger) : Owner → MethodTable
  | .ofClass s =>
    match L.bindings[s]? with
    | some (.ofClass c) => c.table
    | _ => ∅
  | .ofModule s =>
    match L.bindings[s]? with
    | some (.ofModule m) => m.table
    | _ => ∅
  | .singleton => ∅

/-- The same table for a search, which is refused where the owner is not what it says it is. -/
def tableAt (L : Ledger) : Owner → Except Fault MethodTable
  | .ofClass s => (·.table) <$> L.classAt s
  | .ofModule s => (·.table) <$> L.moduleAt s
  | .singleton => .ok ∅

def push (L : Ledger) (b : Binding) : Ledger := ⟨L.bindings ++ [b]⟩

def modifyClass (L : Ledger) (s : Symbol) (f : ClassRecord → ClassRecord) : Ledger :=
  ⟨L.bindings.modify s fun
    | .ofClass c => .ofClass (f c)
    | b => b⟩

def modifyModule (L : Ledger) (s : Symbol) (f : ModuleRecord → ModuleRecord) : Ledger :=
  ⟨L.bindings.modify s fun
    | .ofModule m => .ofModule (f m)
    | b => b⟩

def listing (L : Ledger) : List (String × Binding) :=
  L.bindings.filterMap fun b => (L.nameOfBinding? b).map (·, b)

end Ledger

end InterfaceLedger
