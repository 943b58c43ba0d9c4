import InterfaceLedger.Proofs.Calls
import InterfaceLedger.Proofs.Growth
import InterfaceLedger.Proofs.Sealing
import Mathlib

/-!
What an attached interface is good for. The class, and every class below it, answers to each name in
the table of the interface, private ones included. Methods may be redefined or removed and handlers
taken away: the interface itself stays among the ancestors with the table that it was sealed with, so
there is always something to be found, be it no more than a stand-in.
-/
namespace InterfaceLedger

namespace Ledger

variable {L : Ledger} {cls : Symbol} {o : Owner} {owners : List Owner} {name : String}

/-- The class resolves the name, and every instance of it answers to the name from inside, whatever
    methods of its own it carries. -/
structure Answers (L : Ledger) (cls : Symbol) (name : String) : Prop where
  resolved : ∃ e, L.classResolve cls name = .ok (some e)
  responds : ∀ i : Instance, i.cls = cls → L.respondsTo i name true = .ok true

theorem Sound.exists_lookupName (h : L.Sound) (walk : L.ancestors cls = .ok owners)
    (mem : o ∈ owners) (held : L.holds name o = true) (own : MethodTable) :
    ∃ e, L.lookupName cls own name = .ok (some e) := by
  obtain ⟨s, text⟩ := h.text_of_holds held
  obtain ⟨e, hit⟩ := h.exists_hit_of_holds mem held text
  rw [h.lookupName_eq walk, h.named.textSymbol?_eq_some_iff.2 text, Option.bind_some, hit]
  cases own.get? s with
  | some e' => exact ⟨e', rfl⟩
  | none => exact ⟨e, rfl⟩

theorem Sound.answers_of_holds (h : L.Sound) (walk : L.ancestors cls = .ok owners)
    (mem : o ∈ owners) (held : L.holds name o = true) : L.Answers cls name where
  resolved := h.exists_lookupName walk mem held ∅
  responds := by
    rintro i rfl
    obtain ⟨c, found⟩ := exists_class_of_ancestors walk
    obtain ⟨e, resolved⟩ := h.exists_lookupName walk mem held i.own
    obtain ⟨handler, handled, -⟩ := h.exists_handlerFor (isClass_iff_classAt.2 ⟨c, found⟩)
    rw [respondsTo_eq resolved handled]
    rfl

/-- Once a class has an interface, it has the names in the table of the interface answered for good,
    and so has every class below it. -/
theorem attached_interface_stays_answered {L : Ledger} {cls face : Symbol} {faces : List Symbol}
    (h : Reachable L) (listed : L.interfaces cls = .ok faces) (attached : face ∈ faces)
    (events : List Event) {sub : Symbol} (below : Descends (L.afterAll events) cls sub)
    (name : String) :
    (L.afterAll events).holds name (.ofModule face) = L.holds name (.ofModule face) ∧
      (L.holds name (.ofModule face) = true → Answers (L.afterAll events) sub name) := by
  have edits := h.afterAll_edits events
  have sound : (L.afterAll events).Sound := (h.afterAll events).sound
  obtain ⟨owners, walk, rfl⟩ := interfaces_eq_ok_iff.1 listed
  obtain ⟨mem, interface⟩ := mem_interfacesAmong_iff.1 attached
  obtain ⟨contract, now⟩ := h.sound.exists_sealed interface
  have same : (L.afterAll events).holds name (.ofModule face) = L.holds name (.ofModule face) := by
    rw [Bool.eq_iff_iff, (now.edits edits).holds_iff, now.holds_iff]
  refine ⟨same, ?_⟩
  intro held
  -- from here on only the later ledger counts: the interface is among the ancestors there
  rw [← same] at held
  obtain ⟨owners', walk'⟩ := sound.exists_ancestors below.isClass
  exact sound.answers_of_holds walk' (h.named.mem_ancestors_below walk mem edits below walk') held

def strippedEvents : List Event :=
  [.operation (.clearHandler 11),
    .operation (.removeMethod 9 "on"),
    .operation (.removeMethod 1 "on"),
    .operation (.defineClass { name := "Bulb", parent := some "Lamp" })]

theorem attached_interface_stays_answered_household :
    Reachable household ∧ household.interfaces 9 = .ok [1, 6] ∧
      Descends (household.afterAll strippedEvents) 9 13 ∧
      household.holds "on" (.ofModule 1) = true ∧ household.holds "wire" (.ofModule 1) = true ∧
      Answers (household.afterAll strippedEvents) 13 "on" ∧
      Answers (household.afterAll strippedEvents) 13 "wire" := by
  have faces : household.interfaces 9 = .ok [1, 6] := by cbv
  have isClass : (household.afterAll strippedEvents).isClass 9 = true := by cbv
  have bulb : (household.afterAll strippedEvents).parentAt? 13 = some 11 := by cbv
  have lamp : (household.afterAll strippedEvents).parentAt? 11 = some 9 := by cbv
  have below : Descends (household.afterAll strippedEvents) 9 13 :=
    .sub bulb (.sub lamp (.self isClass))
  have on : household.holds "on" (.ofModule 1) = true := by cbv
  have wire : household.holds "wire" (.ofModule 1) = true := by cbv
  have answered := attached_interface_stays_answered reachable_household faces
    (List.mem_cons_self : 1 ∈ [1, 6]) strippedEvents below
  exact ⟨reachable_household, faces, below, on, wire, (answered "on").2 on, (answered "wire").2 wire⟩

end Ledger

end InterfaceLedger
