import InterfaceLedger.Proofs.Growth
import InterfaceLedger.Proofs.Lookup
import Mathlib

/-!
Interfaces of a class and of its superclass. A class has the interfaces that are attached to it and
after them those of its superclass, each of them once. A module may have been attached to the class
before it came to a superclass; then the search passes by it twice, and the list still has it only
where the search meets it first.
-/
namespace InterfaceLedger

theorem eraseDups_concat {α : Type} [BEq α] [LawfulBEq α] (l : List α) (s : α) :
    (l ++ [s]).eraseDups = if s ∈ l then l.eraseDups else l.eraseDups ++ [s] := by
  rw [List.eraseDups_append, List.removeAll]
  split
  · rename_i again
    simp [again]
  · rename_i new
    simp [new, List.eraseDups_cons]

theorem eraseDups_of_nodup {l : List Symbol} (distinct : l.Nodup) : l.eraseDups = l := by
  induction l using List.reverseRecOn with
  | nil => rfl
  | append_singleton l s ih =>
    have new : s ∉ l := fun mem =>
      List.disjoint_of_nodup_append distinct mem (List.mem_singleton_self s)
    rw [eraseDups_concat, if_neg new, ih distinct.of_append_left]

theorem eraseDups_filter (keep : Symbol → Bool) (l : List Symbol) :
    (l.filter keep).eraseDups = l.eraseDups.filter keep := by
  induction l using List.reverseRecOn with
  | nil => rfl
  | append_singleton l s ih =>
    rw [List.filter_append, eraseDups_concat]
    cases kept : keep s with
    | true =>
      rw [List.filter_cons_of_pos kept, List.filter_nil, eraseDups_concat, ih]
      by_cases again : s ∈ l
      · rw [if_pos again, if_pos (List.mem_filter.2 ⟨again, kept⟩)]
      · rw [if_neg again, if_neg fun mem => again (List.mem_filter.1 mem).1, List.filter_append,
          List.filter_cons_of_pos kept, List.filter_nil]
    | false =>
      have gone : [s].filter keep = [] := by simp [kept]
      rw [gone, List.append_nil, ih]
      split
      · rfl
      · rw [List.filter_append, gone, List.append_nil]

namespace Ledger

variable {L : Ledger} {cls s t p m : Symbol} {c : ClassRecord} {above owners : List Owner}

theorem interfacesAmong_append (L : Ledger) (first rest : List Owner) :
    L.interfacesAmong (first ++ rest) =
      L.interfacesAmong first ++ (L.interfacesAmong rest).filter (· ∉ L.interfacesAmong first) := by
  rw [interfacesAmong, List.filterMap_append, List.eraseDups_append, List.removeAll,
    eraseDups_filter]
  apply congrArg (L.interfacesAmong first ++ ·)
  apply List.filter_congr
  intro m _
  simp [interfacesAmong, List.mem_eraseDups, -List.mem_filterMap]

theorem Composed.interfacesAmong_ownersOf (h : L.Composed) (found : L.classAt? s = some c) :
    L.interfacesAmong (ownersOf (s, c)) = c.includes := by
  have attached : L.includesOf s = c.includes := includesOf_of_class found
  have distinct : c.includes.Nodup := attached ▸ h.nodup s
  have faces : ∀ m ∈ c.includes, L.isInterface m = true := fun m mem => h.faces (attached ▸ mem)
  rw [interfacesAmong, ownersOf, List.filterMap_cons_none rfl, List.filterMap_map]
  refine (congrArg List.eraseDups ?_).trans (eraseDups_of_nodup distinct)
  calc
    _ = c.includes.filterMap some := List.filterMap_congr fun m mem => if_pos (faces m mem)
    _ = c.includes := List.filterMap_some

theorem Sound.interfaces_above (h : L.Sound) (descends : Descends L t cls)
    (walk : L.ancestors cls = .ok owners) :
    ∃ more, L.interfaces t = .ok more ∧ more ⊆ L.interfacesAmong owners := by
  obtain ⟨above, walk'⟩ := h.exists_ancestors descends.isClass_above
  refine ⟨_, interfaces_eq_ok_iff.2 ⟨above, walk', rfl⟩, fun m mem => ?_⟩
  obtain ⟨place, face⟩ := mem_interfacesAmong_iff.1 mem
  obtain ⟨u, higher, attached⟩ := (h.named.ofModule_mem_ancestors_iff walk').1 place
  exact mem_interfacesAmong_iff.2
    ⟨(h.named.ofModule_mem_ancestors_iff walk).2 ⟨u, higher.trans descends, attached⟩, face⟩

theorem two_le_count (attached : m ∈ c.includes) (again : .ofModule m ∈ above) :
    2 ≤ (ownersOf (s, c) ++ above).count (.ofModule m) := by
  have own : Owner.ofModule m ∈ ownersOf (s, c) :=
    List.mem_cons_of_mem _ (List.mem_map_of_mem attached)
  rw [List.count_append]
  exact Nat.add_le_add (List.count_pos_iff.2 own) (List.count_pos_iff.2 again)

/-- How the interfaces of a class come about from its own and from those of the classes above it. -/
structure Inherits (L : Ledger) (cls : Symbol) (c : ClassRecord) (owners : List Owner)
    (faces : List Symbol) : Prop where
  distinct : faces.Nodup
  top : c.parent = none → faces = c.includes
  step : ∀ p, c.parent = some p → ∃ above, L.interfaces p = .ok above ∧
    faces = c.includes ++ above.filter (· ∉ c.includes) ∧
    ∀ m ∈ c.includes, m ∈ above → 2 ≤ owners.count (.ofModule m)
  all : ∀ t, Descends L t cls → ∃ more, L.interfaces t = .ok more ∧ more ⊆ faces

/-- The interfaces of a class are those attached to it and then, without these, the interfaces of its
    superclass. None comes twice, also where the search meets a module twice. -/
theorem interfaces_inherit {L : Ledger} {cls : Symbol} {c : ClassRecord} (h : Reachable L)
    (found : L.classAt cls = .ok c) :
    ∃ owners faces, L.ancestors cls = .ok owners ∧ L.interfaces cls = .ok faces ∧
      Inherits L cls c owners faces := by
  have sound := h.sound
  have record : L.classAt? cls = some c := classAt_eq_ok_iff.1 found
  obtain ⟨owners, walk⟩ := sound.exists_ancestors (isClass_iff.2 ⟨c, record⟩)
  refine ⟨owners, _, walk, interfaces_eq_ok_iff.2 ⟨owners, walk, rfl⟩, ?_⟩
  constructor
  · exact nodup_interfacesAmong owners
  · intro top
    cases (sound.named.ancestors_root record top).symm.trans walk
    exact sound.composed.interfacesAmong_ownersOf record
  · intro p super
    obtain ⟨-, isClass⟩ := sound.named.super_of_class record super
    obtain ⟨above, walk'⟩ := sound.exists_ancestors isClass
    cases (sound.named.ancestors_step record super walk').symm.trans walk
    refine ⟨_, interfaces_eq_ok_iff.2 ⟨above, walk', rfl⟩, ?_, ?_⟩
    · rw [interfacesAmong_append, sound.composed.interfacesAmong_ownersOf record]
    · intro m attached mem
      exact two_le_count attached (mem_interfacesAmong_iff.1 mem).1
  · intro t descends
    exact sound.interfaces_above descends walk

def twiceTimedHousehold : Ledger :=
  household.afterAll
    [.operation (.defineModule { name := "Timer", methods := [{ name := "start" }] }),
      .operation (.declare 11 [13]), .operation (.declare 9 [13])]

theorem interfaces_inherit_twiceTimedHousehold :
    Reachable twiceTimedHousehold ∧ ∃ c owners, twiceTimedHousehold.classAt 11 = .ok c ∧
      owners.count (.ofModule 13) = 2 ∧ Inherits twiceTimedHousehold 11 c owners [13, 1, 6] := by
  have reachable : Reachable twiceTimedHousehold := reachable_household.afterAll _
  have isClass : twiceTimedHousehold.isClass 11 = true := by cbv
  have walk : twiceTimedHousehold.ancestors 11 = .ok [.ofClass 11, .ofModule 13, .ofClass 9,
      .ofModule 13, .ofModule 1, .ofModule 6] := by cbv
  have faces : twiceTimedHousehold.interfaces 11 = .ok [13, 1, 6] := by cbv
  obtain ⟨c, found⟩ := isClass_iff_classAt.1 isClass
  obtain ⟨owners, faces', walk', listed, inherits⟩ := interfaces_inherit reachable found
  cases walk.symm.trans walk'
  cases faces.symm.trans listed
  exact ⟨reachable, c, _, found, by decide, inherits⟩

end Ledger

end InterfaceLedger
