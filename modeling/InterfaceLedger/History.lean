import InterfaceLedger.Registry

/-!
Histories. A ledger or a registry starts empty and is changed by events, one after the other:
operations, which may be refused, and singleton methods, which only bring in a name. What the empty
ledger has and every event keeps holds of every reachable ledger. An instance belongs to a ledger if
the ledger made it and gave it all the singleton methods it has; an instance from elsewhere carries
symbols of another numbering.
-/
namespace InterfaceLedger

inductive Event where
  | operation (op : Operation Symbol)
  | singleton (o : Instance) (m : MethodDecl)

namespace Ledger

def after (L : Ledger) : Event → Ledger
  | .operation op =>
    match op.run L with
    | .ok _ L' => L'
    | .error _ L' => L'
  | .singleton o m => (L.addSingleton o m).2

def afterAll (L : Ledger) (events : List Event) : Ledger := events.foldl after L

end Ledger

namespace Registry

def after (R : Registry) : Event → Registry
  | .operation op =>
    match run op R with
    | .ok _ R' => R'
    | .error _ R' => R'
  | .singleton o m => (R.addSingleton o m).2

def afterAll (R : Registry) (events : List Event) : Registry := events.foldl after R

end Registry

inductive Reachable : Ledger → Prop where
  | empty : Reachable ∅
  | step {L : Ledger} (e : Event) : Reachable L → Reachable (L.after e)

theorem Reachable.afterAll {L : Ledger} (h : Reachable L) (events : List Event) :
    Reachable (L.afterAll events) := by
  induction events generalizing L with
  | nil => exact h
  | cons e rest ih => exact ih (h.step e)

def householdEvents : List Event :=
  [.operation (.defineModule { name := "Remote", methods :=
      [{ name := "on" }, { name := "off" }, { name := "wire", visibility := .priv }] }),
    .operation (.defineModule { name := "Switch", methods :=
      [{ name := "off" }, { name := "toggle" }] }),
    .operation (.defineClass { name := "Device", methods :=
      [{ name := "on", body := .native fun _ => .bool true }] }),
    .operation (.declare 9 [1, 6]),
    .operation (.defineClass { name := "Lamp", parent := some "Device" }),
    .operation (.setHandler 11
      { accepts := fun name _ => name == "toggle", reply := fun name _ => .str name })]

/-- Two interfaces, a class with one of their methods and a subclass that catches another one. -/
def household : Ledger := (∅ : Ledger).afterAll householdEvents

theorem reachable_household : Reachable household := Reachable.empty.afterAll householdEvents

inductive BelongsTo : Ledger → Instance → Prop where
  | made {L : Ledger} {cls : Symbol} {o : Instance} (reachable : Reachable L)
      (made : L.instantiate cls = .ok o) : BelongsTo L o
  | later {L : Ledger} {o : Instance} (e : Event) : BelongsTo L o → BelongsTo (L.after e) o
  | extended {L : Ledger} {o : Instance} (m : MethodDecl) :
      BelongsTo L o → BelongsTo (L.addSingleton o m).2 (L.addSingleton o m).1

theorem BelongsTo.reachable {L : Ledger} {o : Instance} (h : BelongsTo L o) : Reachable L := by
  induction h with
  | made reachable _ => exact reachable
  | later e _ ih => exact ih.step e
  | @extended L o m _ ih => exact ih.step (.singleton o m)

end InterfaceLedger
