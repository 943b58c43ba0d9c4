import InterfaceLedger.Proofs.Directory
import InterfaceLedger.Proofs.Growth
import Mathlib

/-!
What stays for good. A ledger extends another if everything that has been defined there is still what
it was: symbols keep their kind and name, look-ups that found something find it again, classes keep
their superclass and interfaces stay interfaces. Modules come in front of a class, and none of them
ever goes or changes places with another.
-/
namespace InterfaceLedger

structure ClassRecord.Grows (c d : ClassRecord) : Prop where
  name : d.name = c.name
  parent : d.parent = c.parent
  includes : c.includes <:+ d.includes

theorem ClassRecord.Grows.refl (c : ClassRecord) : c.Grows c := ⟨rfl, rfl, List.suffix_rfl⟩

theorem ClassRecord.Grows.trans {c d e : ClassRecord} (h : c.Grows d) (h' : d.Grows e) :
    c.Grows e where
  name := h'.name.trans h.name
  parent := h'.parent.trans h.parent
  includes := h.includes.trans h'.includes

namespace Ledger

variable {L M : Ledger} {s : Symbol} {x : String} {c : ClassRecord}

/-- Everything that is defined in `L` is still the same in `M`. -/
structure Extends (L M : Ledger) : Prop where
  bound : ∀ {s}, s < L.size → s < M.size
  name : ∀ {s}, s < L.size → ∃ x, L.nameOf? s = some x ∧ M.nameOf? s = some x
  isClass : ∀ {s}, s < L.size → M.isClass s = L.isClass s
  isModule : ∀ {s}, s < L.size → M.isModule s = L.isModule s
  text : ∀ {x s}, L.textSymbol? x = some s → M.textSymbol? x = some s
  entity : ∀ {x s}, L.entity? x = some s → M.entity? x = some s
  record : ∀ {s c}, L.classAt s = .ok c → ∃ d, M.classAt s = .ok d ∧ c.Grows d
  interface : ∀ {s}, L.isInterface s = true → M.isInterface s = true

theorem Named.twin_self (h : L.Named) (edits : Edits L M) (given : s < L.size) : Twin L M s s := by
  obtain ⟨l, label⟩ := h.exists_label given
  exact ⟨l, label, edits.keeps_label label⟩

theorem Twin.isEntity {t : Symbol} (h : Twin L M s t) : M.isEntity t = L.isEntity s := by
  rw [Ledger.isEntity, Ledger.isEntity, h.isClass, h.isModule]

theorem Alike.exists_record (alike : Alike L M) (found : L.classAt? s = some c) :
    ∃ d, M.classAt? s = some d ∧ d.name = c.name ∧ d.parent = c.parent := by
  obtain ⟨d, found'⟩ := isClass_iff.1 ((alike.isClass s).trans (isClass_iff.2 ⟨c, found⟩))
  have name := alike.name s
  have parent := alike.parent s
  rw [nameSymbolAt?_of_class found, nameSymbolAt?_of_class found', Option.some.injEq] at name
  rw [parentAt?_of_class found, parentAt?_of_class found'] at parent
  exact ⟨d, found', name, parent⟩

theorem Edit.grows (edit : Edit L M) (found : L.classAt? s = some c) :
    ∃ d, M.classAt? s = some d ∧ c.Grows d := by
  have attached := edit.includes_suffix s
  rcases edit.alike_or_push with alike | ⟨b, rfl⟩
  · obtain ⟨d, found', name, parent⟩ := alike.exists_record found
    rw [includesOf_of_class found, includesOf_of_class found'] at attached
    exact ⟨d, found', name, parent, attached⟩
  · exact ⟨c, classAt?_push_of_some b found, .refl c⟩

theorem Edits.grows (edits : Edits L M) (found : L.classAt? s = some c) :
    ∃ d, M.classAt? s = some d ∧ c.Grows d := by
  apply edits.keep (P := fun N => ∃ d, N.classAt? s = some d ∧ c.Grows d)
  · rintro N N' edit ⟨d, here, grown⟩
    obtain ⟨e, there, more⟩ := edit.grows here
    exact ⟨e, there, grown.trans more⟩
  · exact ⟨c, found, .refl c⟩

/-- Whatever happens, refused or not, what has been defined stays as it was defined. -/
theorem definitions_only_grow {L : Ledger} (h : Reachable L) (events : List Event) :
    Extends L (L.afterAll events) := by
  have edits := h.afterAll_edits events
  have later : (L.afterAll events).Named := (h.afterAll events).named
  have twin : ∀ {s}, s < L.size → Twin L (L.afterAll events) s s := h.named.twin_self edits
  constructor
  · intro s given
    obtain ⟨l, -, label⟩ := twin given
    exact lt_size_of_label label
  · intro s given
    obtain ⟨x, named⟩ := h.named.exists_name given
    exact ⟨x, named, edits.keeps_name named⟩
  · intro s given
    exact (twin given).isClass
  · intro s given
    exact (twin given).isModule
  · intro x s found
    obtain ⟨named, plain⟩ := h.named.textSymbol?_iff.1 found
    have same := (twin (lt_size_of_bind named)).isEntity
    exact later.textSymbol?_iff.2 ⟨edits.keeps_name named, same.trans plain⟩
  · intro x s found
    obtain ⟨named, entity⟩ := h.named.entity?_iff.1 found
    have same := (twin (lt_size_of_bind named)).isEntity
    exact later.entity?_iff.2 ⟨edits.keeps_name named, same.trans entity⟩
  · intro s c found
    obtain ⟨d, found', grown⟩ := edits.grows (classAt_eq_ok_iff.1 found)
    exact ⟨d, classAt_eq_ok_iff.2 found', grown⟩
  · intro s interface
    exact edits.keeps_interface interface

def turmoilEvents : List Event :=
  [.operation (.defineModule { name := "Timer", methods := [{ name := "Lamp" }] }),
    .operation (.declare 9 [6, 13]),
    .operation (.clearHandler 11),
    .operation (.removeMethod 9 "on"),
    .operation (.defineClass { name := "Lamp", parent := some "Timer" }),
    .operation (.defineClass { name := "Bulb", parent := some "Timer" })]

theorem definitions_only_grow_household :
    Reachable household ∧ household.entity? "Lamp" = some 11 ∧ household.includesOf 9 = [1, 6] ∧
      (household.afterAll turmoilEvents).entity? "Lamp" = some 11 ∧
      (household.afterAll turmoilEvents).includesOf 9 = [13, 1, 6] ∧
      Extends household (household.afterAll turmoilEvents) := by
  have lamp : household.entity? "Lamp" = some 11 := by cbv
  have before : household.includesOf 9 = [1, 6] := by cbv
  have after : (household.afterAll turmoilEvents).includesOf 9 = [13, 1, 6] := by cbv
  have extended := definitions_only_grow reachable_household turmoilEvents
  exact ⟨reachable_household, lamp, before, extended.entity lamp, after, extended⟩

end Ledger

end InterfaceLedger
