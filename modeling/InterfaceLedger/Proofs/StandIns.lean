import InterfaceLedger.Proofs.Gaps
import InterfaceLedger.Proofs.Resolution
import InterfaceLedger.Proofs.Sending
import Mathlib

/-!
What runs when a declared method is not missing. Whatever an interface of the class declares is
resolved to something, so a call always runs the entry that is found and never asks a handler. A
name can still be kept out of the gap by the handler alone; then the stand-in of the interface is
what runs, although the gap counts the method as served.
-/
namespace InterfaceLedger

namespace Ledger

variable {L : Ledger} {o : Instance} {cls face s : Symbol} {owners : List Owner}
  {own : MethodTable} {handler : Option Handler} {name : String} {args : List Value} {v : Value}

theorem send_eq_ok_of_resolved {e : Entry} (resolved : L.resolve o name = .ok (some e))
    (sent : L.send o name args = .ok v) : v = e.invoke args := by
  have ending : Ending L o name args (some e) true (L.send o name args) := ending_of_found resolved
  rw [sent] at ending
  cases ending
  rfl

theorem Sound.exists_hit_of_declares (h : L.Sound) (attached : .ofModule face ∈ owners)
    (declared : L.Declares face name) (text : L.textAt? s = some name) :
    ∃ e, L.hit owners s = some e :=
  h.exists_hit_of_holds attached declared.holds text

theorem mem_lacking_of_lacks (declared : s ∈ (L.tableOf (.ofModule face)).publicNames)
    (text : L.textAt? s = some name) (lacks : L.lacks owners own handler face s = true) :
    name ∈ L.lacking owners own handler face := by
  rw [lacking, List.mem_mergeSort, List.mem_map]
  exact ⟨s, List.mem_filter.2 ⟨declared, lacks⟩, describe_of_text text⟩

theorem served_of_not_lacks {e : Entry} (text : L.textAt? s = some name)
    (found : (own.get? s).or (L.hit owners s) = some e)
    (nearest : ∀ g, handler = some g ↔ NearestHandler L cls g)
    (served : ¬ L.lacks owners own handler face s = true) :
    e.owner ≠ .ofModule face ∨ ∃ g, NearestHandler L cls g ∧ g.accepts name true = true := by
  rw [lacks, found, describe_of_text text, Bool.not_eq_true', Bool.not_eq_false,
    Bool.or_eq_true] at served
  rcases served with other | caught
  · exact .inl (of_decide_eq_true other)
  · obtain ⟨g, here, accepted⟩ := (Option.any_eq_true _ _).1 caught
    exact .inr ⟨g, (nearest g).1 here, accepted⟩

/-- The value comes from something other than the interface: from an entry of another owner that the
    name resolves to, or from the nearest handler. -/
inductive ServedElsewhere (L : Ledger) (o : Instance) (face : Symbol) (name : String)
    (args : List Value) (v : Value) : Prop where
  | entry {e : Entry} (resolved : L.resolve o name = .ok (some e))
      (other : e.owner ≠ .ofModule face) (value : v = e.invoke args)
  | handler {h : Handler} (near : NearestHandler L o.cls h) (value : v = h.reply name args)

/-- The handler of a lamp takes `toggle`, so a lamp lacks nothing of a switch; but `toggle` runs the
    blank stand-in of the switch and not the handler. -/
theorem toggle_runs_standIn :
    MadeBy household lamp ∧ household.interfaces lamp.cls = .ok [1, 6] ∧
      household.Declares 6 "toggle" ∧ household.gap lamp.cls lamp.own 6 = .ok [] ∧
      household.send lamp "toggle" [] = .ok .void ∧
      ¬ ServedElsewhere household lamp 6 "toggle" [] .void := by
  have faces : household.interfaces lamp.cls = .ok [1, 6] := by cbv
  have gap : household.gap lamp.cls lamp.own 6 = .ok [] := by cbv
  have sent : household.send lamp "toggle" [] = .ok .void := by cbv
  have resolved : household.resolve lamp "toggle" =
      .ok (some (({ name := "toggle" } : MethodDecl).toEntry 7 (.ofModule 6))) := by cbv
  have handled : household.handlerFor lamp.cls =
      .ok (some { accepts := fun name _ => name == "toggle", reply := fun name _ => .str name }) := by
    cbv
  have names : (household.tableOf (.ofModule 6)).publicNames = [3, 7] := by cbv
  have declared : household.Declares 6 "toggle" :=
    reachable_household.sound.declares_iff.2 ⟨7, by rw [names]; decide, by cbv⟩
  obtain ⟨handler, handled', nearest⟩ :=
    reachable_household.sound.exists_handlerFor lamp_belongs.madeBy.isClass
  cases handled.symm.trans handled'
  refine ⟨lamp_belongs.madeBy, faces, declared, gap, sent, ?_⟩
  rintro (⟨again, other, -⟩ | ⟨near, value⟩)
  · cases resolved.symm.trans again
    exact other rfl
  · cases (nearest _).2 near
    cases value

/-- A call of a method that an interface of the class declares, and that is not missing from the
    instance, runs the entry that the name resolves to. That entry is not the stand-in of the
    interface unless the nearest handler takes the name. -/
theorem unlisted_method_runs_resolved {L : Ledger} {o : Instance} (made : MadeBy L o) :
    ∃ faces, L.interfaces o.cls = .ok faces ∧ ∀ face ∈ faces,
      ∃ gap, L.gap o.cls o.own face = .ok gap ∧
        ∀ name args v, L.Declares face name → name ∉ gap → L.send o name args = .ok v →
          ∃ e, L.resolve o name = .ok (some e) ∧ v = e.invoke args ∧
            (e.owner ≠ .ofModule face ∨
              ∃ h, NearestHandler L o.cls h ∧ h.accepts name true = true) := by
  have sound := made.reachable.sound
  obtain ⟨owners, walk⟩ := sound.exists_ancestors made.isClass
  obtain ⟨handler, handled, nearest⟩ := sound.exists_handlerFor made.isClass
  have faces : L.interfaces o.cls = .ok (L.interfacesAmong owners) := by
    rw [interfaces, walk]
    rfl
  refine ⟨_, faces, ?_⟩
  intro face mem
  obtain ⟨attached, interface⟩ := mem_interfacesAmong_iff.1 mem
  refine ⟨_, sound.gap_eq interface walk handled, ?_⟩
  intro name args v declared unlisted sent
  obtain ⟨s, place, text⟩ := sound.declares_iff.1 declared
  obtain ⟨e, found⟩ : ∃ e, (o.own.get? s).or (L.hit owners s) = some e := by
    obtain ⟨e, hit⟩ := sound.exists_hit_of_declares attached declared text
    cases own : o.own.get? s with
    | some e' => exact ⟨e', rfl⟩
    | none => exact ⟨e, hit⟩
  have resolved : L.resolve o name = .ok (some e) := by
    rw [resolve, sound.lookupName_eq walk, sound.named.textSymbol?_eq_some_iff.2 text,
      Option.bind_some, found]
  refine ⟨e, resolved, send_eq_ok_of_resolved resolved sent, ?_⟩
  exact served_of_not_lacks text found nearest fun lacks =>
    unlisted (mem_lacking_of_lacks place text lacks)

theorem unlisted_method_runs_resolved_household :
    MadeBy household lamp ∧ household.interfaces lamp.cls = .ok [1, 6] ∧
      household.gap lamp.cls lamp.own 1 = .ok [] ∧ household.Declares 1 "on" ∧
      household.send lamp "on" [] = .ok (.bool true) ∧
      ∃ e, household.resolve lamp "on" = .ok (some e) ∧ .bool true = e.invoke [] ∧
        (e.owner ≠ .ofModule 1 ∨
          ∃ h, NearestHandler household lamp.cls h ∧ h.accepts "on" true = true) := by
  have faces : household.interfaces lamp.cls = .ok [1, 6] := by cbv
  have gap : household.gap lamp.cls lamp.own 1 = .ok [] := by cbv
  have sent : household.send lamp "on" [] = .ok (.bool true) := by cbv
  have names : (household.tableOf (.ofModule 1)).publicNames = [2, 3] := by cbv
  have declared : household.Declares 1 "on" :=
    reachable_household.sound.declares_iff.2 ⟨2, by rw [names]; decide, by cbv⟩
  obtain ⟨faces', there, each⟩ := unlisted_method_runs_resolved lamp_belongs.madeBy
  cases faces.symm.trans there
  obtain ⟨gap', listed, runs⟩ := each 1 (by simp)
  cases gap.symm.trans listed
  exact ⟨lamp_belongs.madeBy, faces, gap, declared, sent, runs "on" [] _ declared (by simp) sent⟩

end Ledger

end InterfaceLedger
