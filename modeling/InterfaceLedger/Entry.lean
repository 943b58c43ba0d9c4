import InterfaceLedger.Declaration

/-!
Entries: methods as a ledger holds them, with the symbol of the name in place of the name and with
an owner. A symbol is a number that a ledger gives out, from zero upward, to texts, classes and
modules alike. An entry is run on arguments that agree with its parameter types, one for one; the
first disagreement is the one that is reported, and a wrong number of arguments comes before any
type. A fault says why something is refused; names stand in its message as they are, without escapes.
-/
namespace InterfaceLedger

abbrev Symbol := Nat

inductive Owner where
  | ofClass (cls : Symbol)
  | ofModule (mod : Symbol)
  | singleton
  deriving DecidableEq, Repr, Inhabited

inductive Fault where
  | unknownSymbol (symbol : Symbol)
  | unknownName (name : String)
  | notAModule (name : String)
  | notAClass (name : String)
  | notAnInterface (name : String)
  | duplicateDefinition (name : String)
  | interfaceSealed (name : String)
  | noMethod (cls method : String)
  | privateMethod (cls method : String)
  | arityMismatch (method : String) (expected found : Nat)
  | typeMismatch (method : String) (index : Nat) (expected found : Ty)
  deriving DecidableEq, Repr, Inhabited

def Fault.message : Fault → String
  | unknownSymbol s => s!"symbol {s} is not bound"
  | unknownName x => s!"no class or module named `{x}`"
  | notAModule x => s!"`{x}` is not a module"
  | notAClass x => s!"`{x}` is not a class"
  | notAnInterface x => s!"`{x}` is not an interface"
  | duplicateDefinition x => s!"`{x}` is already defined"
  | interfaceSealed x => s!"interface `{x}` cannot gain new methods"
  | noMethod c m => s!"undefined method `{m}` for {c}"
  | privateMethod c m => s!"private method `{m}` called for {c}"
  | arityMismatch m e f => s!"wrong number of arguments for `{m}` (given {f}, expected {e})"
  | typeMismatch m i e f =>
    s!"argument {i} of `{m}` should be {e.name}, found {f.name}"

structure Entry where
  name : Symbol
  owner : Owner
  params : List Ty
  result : Ty
  visibility : Visibility
  body : Body

/-- The entry for a declared method, once its name has a symbol and it has an owner. -/
def MethodDecl.toEntry (m : MethodDecl) (name : Symbol) (owner : Owner) : Entry where
  name := name
  owner := owner
  params := m.signature.params
  result := m.signature.result
  visibility := m.visibility
  body := m.body

/-- The first place, counted from `start`, where the types of `args` leave `params`. -/
def firstMismatch (method : String) : Nat → List Ty → List Value → Option Fault
  | start, p :: params, a :: args =>
    if p = a.ty then firstMismatch method (start + 1) params args
    else some (.typeMismatch method start p a.ty)
  | _, _, _ => none

namespace Entry

def isPublic (e : Entry) : Bool := e.visibility = .pub

def checkArguments (e : Entry) (method : String) (args : List Value) : Except Fault Unit :=
  if args.length ≠ e.params.length then
    .error (.arityMismatch method e.params.length args.length)
  else
    match firstMismatch method 0 e.params args with
    | some fault => .error fault
    | none => .ok ()

def invoke (e : Entry) (args : List Value) : Value := e.body.run args

end Entry

end InterfaceLedger
