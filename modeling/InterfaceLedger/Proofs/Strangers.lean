import InterfaceLedger.Proofs.Calls
import InterfaceLedger.Proofs.Resolution
import Mathlib

/-!
Instances that do not belong here. The symbol that an instance carries for its class may be nothing
in a ledger that did not make it, or something else. Whatever gets as far as the class is refused for
that symbol. A method of its own is looked for before, under the symbol that the name happens to have
here, and then the class is never asked; so an instance of no class can be found to have a method,
and be called.
-/
namespace InterfaceLedger

namespace Ledger

variable {L : Ledger} {o : Instance} {name : String} {f : Fault} {e : Entry}

/-- Whatever is asked about the name, the answer is this fault. -/
structure Refuses (L : Ledger) (o : Instance) (name : String) (f : Fault) : Prop where
  resolve : L.resolve o name = .error f
  respondsTo : ∀ inside, L.respondsTo o name inside = .error f
  call : ∀ args, L.call o name args = .error f
  send : ∀ args, L.send o name args = .error f

/-- The entry is found and answers for the name. A private one leaves open, from outside, whether the
    class has a handler for the name, and that is refused with this fault. -/
structure Admits (L : Ledger) (o : Instance) (name : String) (e : Entry) (f : Fault) : Prop where
  resolve : L.resolve o name = .ok (some e)
  respondsTo : ∀ inside, L.respondsTo o name inside =
    if inside || e.isPublic then .ok true else .error f
  call : ∀ args, L.call o name args = L.answerOf o e name args false
  send : ∀ args, L.send o name args = L.answerOf o e name args true

theorem respondsTo_of_error (refused : L.resolve o name = .error f) (inside : Bool) :
    L.respondsTo o name inside = .error f := by
  rw [respondsTo, refused]
  rfl

theorem deliver_of_error (refused : L.resolve o name = .error f) (args : List Value)
    (inside : Bool) : L.deliver o name args inside = .error f := by
  rw [deliver, refused]
  rfl

theorem refuses_of_error (refused : L.resolve o name = .error f) : Refuses L o name f where
  resolve := refused
  respondsTo := respondsTo_of_error refused
  call args := deliver_of_error refused args false
  send args := deliver_of_error refused args true

theorem admits_of_own (bad : L.classAt o.cls = .error f)
    (own : L.ownMethod? o.own name = some e) : Admits L o name e f := by
  have found : L.resolve o name = .ok (some e) := lookupName_of_own own
  refine
    { resolve := found
      respondsTo := fun inside => ?_
      call := fun args => deliver_found found
      send := fun args => deliver_found found }
  rw [respondsTo, found, handlerFor_of_error bad]
  change (if (inside || e.isPublic) = true then _ else _) = _
  cases inside || e.isPublic <;> rfl

theorem Admits.not_refuses (h : Admits L o name e f) : ¬ Refuses L o name f := by
  intro refused
  cases h.resolve.symm.trans refused.resolve

/-- An instance whose class symbol is no class of the ledger is refused for that symbol, whatever is
    asked, exactly if it has no method of its own under the symbol that the name has here. If it has
    one, that is found and answers. -/
theorem stranger_refused_iff_no_own {L : Ledger} {o : Instance} (h : Reachable L)
    (stranger : L.isClass o.cls = false) (name : String) :
    ∃ f, ClassFault L o.cls f ∧ (Refuses L o name f ↔ L.ownMethod? o.own name = none) ∧
      ∀ e, L.ownMethod? o.own name = some e → Admits L o name e f := by
  obtain ⟨f, bad⟩ : ∃ f, L.classAt o.cls = .error f := by
    cases found : L.classAt o.cls with
    | error f => exact ⟨f, rfl⟩
    | ok c =>
      rw [isClass_iff_classAt.2 ⟨c, found⟩] at stranger
      cases stranger
  refine ⟨f, h.named.classAt_eq_error_iff.1 bad, ?_, fun e own => admits_of_own bad own⟩
  constructor
  · intro refused
    cases own : L.ownMethod? o.own name with
    | none => rfl
    | some e => exact absurd refused (admits_of_own bad own).not_refuses
  · exact fun absent => refuses_of_error (lookupName_of_error bad absent)

def remoteOnly : Ledger := (∅ : Ledger).afterAll (householdEvents.take 1)

theorem reachable_remoteOnly : Reachable remoteOnly := Reachable.empty.afterAll _

theorem stranger_refused_iff_no_own_remoteOnly :
    Reachable remoteOnly ∧ remoteOnly.isClass lamp.cls = false ∧ MadeBy household lamp ∧
      Refuses remoteOnly lamp "on" (.unknownSymbol 11) := by
  have stranger : remoteOnly.isClass lamp.cls = false := by cbv
  have absent : remoteOnly.ownMethod? lamp.own "on" = none := by cbv
  have outside : remoteOnly.size ≤ 11 := by decide +kernel
  obtain ⟨f, fault, refused, -⟩ := stranger_refused_iff_no_own reachable_remoteOnly stranger "on"
  cases fault with
  | unknown => exact ⟨reachable_remoteOnly, stranger, lamp_belongs.madeBy, refused.2 absent⟩
  | other given => exact absurd given (Nat.not_lt.2 outside)

/-- But `off` has the same symbol in both, so the `off` that the lamp has of its own is found and
    called. -/
theorem foreign_off_answered :
    Reachable remoteOnly ∧ remoteOnly.isClass lamp.cls = false ∧ MadeBy household lamp ∧
      remoteOnly.resolve lamp "off" = .ok (some (offEntry .singleton)) ∧
      remoteOnly.respondsTo lamp "off" false = .ok true ∧
      remoteOnly.call lamp "off" [] = .ok .void ∧ remoteOnly.send lamp "off" [] = .ok .void := by
  have stranger : remoteOnly.isClass lamp.cls = false := by cbv
  have resolved : remoteOnly.resolve lamp "off" = .ok (some (offEntry .singleton)) := by cbv
  have answer : remoteOnly.respondsTo lamp "off" false = .ok true := by cbv
  have called : remoteOnly.call lamp "off" [] = .ok .void := by cbv
  have sent : remoteOnly.send lamp "off" [] = .ok .void := by cbv
  exact ⟨reachable_remoteOnly, stranger, lamp_belongs.madeBy, resolved, answer, called, sent⟩

end Ledger

end InterfaceLedger
