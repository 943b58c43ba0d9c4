import InterfaceLedger.Ledger.Define

/-!
Where a method is looked for, and calls. The lineage of a class is the class, its superclass and so
on; a superclass has a smaller symbol than its subclasses, so the lineage ends. The ancestors are the
owners in the order of the search: each class of the lineage, followed by the modules attached to
it from front to back. The first ancestor whose table has the name wins, and a method of the
instance itself comes before all of them.

`call` comes from outside and reaches public methods, `send` reaches private ones too. A method that
is found decides the call, even when it turns out to be private or the arguments do not fit; only a
name that is not found at all goes to the catch-all handler.
-/
namespace InterfaceLedger

namespace Ledger

def lineage (L : Ledger) (s : Symbol) : Except Fault (List (Symbol × ClassRecord)) := do
  let c ← L.classAt s
  match c.parent with
  | none => return [(s, c)]
  | some p =>
    if p < s then return (s, c) :: (← L.lineage p)
    else return [(s, c)]
termination_by s

def ownersOf : Symbol × ClassRecord → List Owner
  | (s, c) => .ofClass s :: c.includes.map .ofModule

def ancestors (L : Ledger) (cls : Symbol) : Except Fault (List Owner) :=
  (·.flatMap ownersOf) <$> L.lineage cls

def search (L : Ledger) (s : Symbol) : List Owner → Except Fault (Option Entry)
  | [] => .ok none
  | o :: owners => do
    match (← L.tableAt o).get? s with
    | some e => return some e
    | none => L.search s owners

/-- The entry for `s` in the table of an instance, or else the one that its class leads to. A hit in
    the table of the instance stands whatever the class is. -/
def lookup (L : Ledger) (cls : Symbol) (own : MethodTable) (s : Symbol) :
    Except Fault (Option Entry) :=
  match own.get? s with
  | some e => .ok (some e)
  | none => do L.search s (← L.ancestors cls)

/-- The same by name. A name that is no text yet is the name of nothing. -/
def lookupName (L : Ledger) (cls : Symbol) (own : MethodTable) (name : String) :
    Except Fault (Option Entry) :=
  match L.textSymbol? name with
  | some s => L.lookup cls own s
  | none => do
    let _ ← L.classAt cls
    return none

def classResolve (L : Ledger) (cls : Symbol) (name : String) : Except Fault (Option Entry) :=
  L.lookupName cls ∅ name

def resolve (L : Ledger) (o : Instance) (name : String) : Except Fault (Option Entry) :=
  L.lookupName o.cls o.own name

def handlerFor (L : Ledger) (cls : Symbol) : Except Fault (Option Handler) :=
  (·.findSome? (·.2.handler)) <$> L.lineage cls

/-- Whether a call of `name` would be taken, with private methods let in if `inside` says so. -/
def respondsTo (L : Ledger) (o : Instance) (name : String) (inside : Bool) :
    Except Fault Bool := do
  if (← L.resolve o name).any fun e => inside || e.isPublic then return true
  return (← L.handlerFor o.cls).any (·.accepts name inside)

def answerOf (L : Ledger) (o : Instance) (e : Entry) (name : String) (args : List Value)
    (inside : Bool) : Except Fault Value := do
  unless inside || e.isPublic do throw (.privateMethod (L.describe o.cls) name)
  e.checkArguments name args
  return e.invoke args

def answerMissing (L : Ledger) (o : Instance) (name : String) (args : List Value)
    (inside : Bool) : Except Fault Value := do
  match (← L.handlerFor o.cls).filter (·.accepts name inside) with
  | some h => return h.reply name args
  | none => throw (.noMethod (L.describe o.cls) name)

def deliver (L : Ledger) (o : Instance) (name : String) (args : List Value) (inside : Bool) :
    Except Fault Value := do
  match ← L.resolve o name with
  | some e => L.answerOf o e name args inside
  | none => L.answerMissing o name args inside

def call (L : Ledger) (o : Instance) (name : String) (args : List Value) : Except Fault Value :=
  L.deliver o name args false

def send (L : Ledger) (o : Instance) (name : String) (args : List Value) : Except Fault Value :=
  L.deliver o name args true

end Ledger

end InterfaceLedger
