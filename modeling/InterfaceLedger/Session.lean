import InterfaceLedger.Registry

/-!
Sessions: several machines and a shelf of instances that have names. A machine is what keeps the
classes and modules, be it a registry or a ledger. A command refers to classes and modules by symbol
or by name; a name is first looked for among the classes and modules and then among the texts. A
command whose names cannot all be made out does nothing, and a command that is refused does not end
the session.
-/
namespace InterfaceLedger

/-- What a session asks of its machines. -/
class Machine (Λ : Type) extends EmptyCollection Λ where
  textSymbol? : Λ → String → Option Symbol
  entity? : Λ → String → Option Symbol
  run : Operation Symbol → EStateM Fault Λ Answer
  answer : Λ → Question Symbol → Except Fault Answer
  answerFor : Λ → Instance → InstanceQuestion Symbol → Except Fault Answer
  instantiate : Λ → Symbol → Except Fault Instance
  addSingleton : Λ → Instance → MethodDecl → Instance × Λ

instance : Machine Ledger where
  textSymbol? := Ledger.textSymbol?
  entity? := Ledger.entity?
  run := Operation.run
  answer L q := q.run L
  answerFor L o q := q.run L o
  instantiate := Ledger.instantiate
  addSingleton := Ledger.addSingleton

instance : Machine Registry where
  textSymbol? := Registry.textSymbol?
  entity? := Registry.entity?
  run := Registry.run
  answer := Registry.answer
  answerFor R o q := q.run R.row o
  instantiate := Registry.instantiate
  addSingleton := Registry.addSingleton

inductive Ref where
  | symbol (s : Symbol)
  | name (x : String)

/-- The symbol that is meant, or the name that means nothing here. -/
def Ref.find {Λ : Type} [Machine Λ] (L : Λ) : Ref → Except String Symbol
  | symbol s => .ok s
  | name x =>
    match (Machine.entity? L x).or (Machine.textSymbol? L x) with
    | some s => .ok s
    | none => .error x

inductive Command (ρ : Type) where
  | change (op : Operation ρ)
  | ask (q : Question ρ)
  | instantiate (cls : ρ) (shelf : String)
  | addSingleton (shelf : String) (method : MethodDecl)
  | askInstance (shelf : String) (q : InstanceQuestion ρ)

inductive Outcome where
  | answered (a : Answer)
  | refused (f : Fault)
  | unresolved (name : String)

def Outcome.ofExcept : Except Fault Answer → Outcome
  | .ok a => answered a
  | .error f => refused f

structure Session (Λ : Type) where
  machines : List Λ
  instances : List (String × Instance) := []

namespace Session

variable {Λ : Type}

def start [Machine Λ] (n : Nat) : Session Λ := ⟨List.replicate n ∅, []⟩

def find? (S : Session Λ) (shelf : String) : Option Instance := S.instances.lookup shelf

def keep (S : Session Λ) (shelf : String) (o : Instance) : Session Λ :=
  { S with instances := (shelf, o) :: S.instances.filter (·.1 != shelf) }

def setMachine (S : Session Λ) (i : Nat) (L : Λ) : Session Λ :=
  { S with machines := S.machines.set i L }

section Exec

variable [Machine Λ] {ρ : Type} (find : Λ → ρ → Except String Symbol)

/-- Carries a command out on `L`, the machine at place `i`; `find` says what a reference means. -/
def execOn (S : Session Λ) (i : Nat) (L : Λ) : Command ρ → Except String (Outcome × Session Λ)
  | .change op => do
    match Machine.run (← op.mapRefs (find L)) L with
    | .ok a L' => return (.answered a, S.setMachine i L')
    | .error f L' => return (.refused f, S.setMachine i L')
  | .ask q => return (.ofExcept (Machine.answer L (← q.mapRefs (find L))), S)
  | .instantiate c shelf => do
    match Machine.instantiate L (← find L c) with
    | .ok o => return (.answered (.symbol o.cls), S.keep shelf o)
    | .error f => return (.refused f, S)
  | .addSingleton shelf m =>
    match S.find? shelf with
    | none => throw shelf
    | some o =>
      let (o, L) := Machine.addSingleton L o m
      return (.answered .done, (S.setMachine i L).keep shelf o)
  | .askInstance shelf q => do
    match S.find? shelf with
    | none => throw shelf
    | some o => return (.ofExcept (Machine.answerFor L o (← q.mapRefs (find L))), S)

def exec (S : Session Λ) (i : Nat) (c : Command ρ) : Option (Outcome × Session Λ) :=
  S.machines[i]?.map fun L =>
    match S.execOn find i L c with
    | .ok r => r
    | .error x => (.unresolved x, S)

end Exec

end Session

end InterfaceLedger
