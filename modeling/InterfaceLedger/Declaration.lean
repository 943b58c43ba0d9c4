import InterfaceLedger.Value

/-!
Declarations: methods, modules and classes as they are written down, by name, before a ledger
knows anything of them. A method that is only declared has the body `blank`; it still has a
signature and can be run, and then it does nothing. A class may also carry a catch-all handler: it is
asked about method names that nothing else answers to, and answers with a reply of its own. Bodies and
handlers are functions of their arguments alone; canned ones are given as data.
-/
namespace InterfaceLedger

inductive Visibility where
  | pub | priv
  deriving DecidableEq, Repr, Inhabited

inductive Body where
  | blank
  | native (run : List Value → Value)

namespace Body

def isBlank : Body → Bool
  | blank => true
  | native _ => false

def run : Body → List Value → Value
  | blank, _ => .void
  | native f, args => f args

end Body

/-- The result type of a method, then the types of its arguments. The empty list is a signature
    too: it means the same as `nullary` and is still a different signature. -/
structure Signature where
  types : List Ty
  deriving DecidableEq, Repr, Inhabited

namespace Signature

def nullary : Signature := ⟨[.void]⟩

def result (s : Signature) : Ty := s.types.headD .void

def params (s : Signature) : List Ty := s.types.tail

def arity (s : Signature) : Nat := s.params.length

end Signature

structure MethodDecl where
  name : String
  signature : Signature := .nullary
  visibility : Visibility := .pub
  body : Body := .blank

structure ModuleDecl where
  name : String
  methods : List MethodDecl := []

def ModuleDecl.declaring (d : ModuleDecl) (names : List String) : ModuleDecl :=
  { d with methods := d.methods ++ names.map fun name => { name } }

def ModuleDecl.adding (d : ModuleDecl) (methods : List MethodDecl) : ModuleDecl :=
  { d with methods := d.methods ++ methods }

def ModuleDecl.methodNames (d : ModuleDecl) : List String := d.methods.map (·.name)

structure ClassDecl where
  name : String
  parent : Option String := none
  methods : List MethodDecl := []

structure Handler where
  accepts : String → Bool → Bool
  reply : String → List Value → Value

/-- An accepted name stays accepted when private ones are let in. -/
def Handler.Monotone (h : Handler) : Prop :=
  ∀ name, h.accepts name false = true → h.accepts name true = true

inductive Reply where
  | const (value : Value)
  | arg (index : Nat)
  | count
  | name

/-- An argument that is not there is `void`. -/
def Reply.give : Reply → String → List Value → Value
  | const v, _, _ => v
  | arg i, _, args => args.getD i .void
  | count, _, args => .u64 (UInt64.ofNat args.length)
  | name, method, _ => .str method

def Reply.body (r : Reply) (method : String) : Body := .native (r.give method)

structure Rule where
  all : Bool := false
  names : List String := []
  privateNames : List String := []
  stems : List String := []
  reply : Reply := .name

namespace Rule

def accepts (r : Rule) (method : String) (inside : Bool) : Bool :=
  r.all
    || r.names.contains method
    || r.stems.any (fun stem => stem.toList.isPrefixOf method.toList)
    || (inside && r.privateNames.contains method)

def handler (r : Rule) : Handler where
  accepts := r.accepts
  reply := r.reply.give

end Rule

end InterfaceLedger
