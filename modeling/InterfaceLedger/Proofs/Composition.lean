import InterfaceLedger.Proofs.Edits
import InterfaceLedger.Proofs.Lineage

/-!
What is attached to a class. `Composed` says that nothing is attached twice and that everything
that is attached is an interface. A module is only attached once it is marked and not among the
ancestors, and a mark never goes away: no edit changes anything about an interface.
-/
namespace InterfaceLedger

namespace Ledger

variable {L M : Ledger} {s : Symbol}

structure Composed (L : Ledger) : Prop where
  nodup : ∀ s, (L.includesOf s).Nodup
  faces : ∀ {s m}, m ∈ L.includesOf s → L.isInterface m = true

theorem composed_empty : (∅ : Ledger).Composed where
  nodup _ := List.nodup_nil
  faces mem := by cases mem

theorem includesOf_push {b : Binding} (blank : b.includes?.getD [] = []) (L : Ledger)
    (t : Symbol) : (L.push b).includesOf t = L.includesOf t := by
  rw [includesOf, includesOf, bind_push]
  split
  · rename_i here
    rw [blank, List.getElem?_eq_none (Nat.le_of_eq here.symm)]
    rfl
  · rfl

theorem includesOf_modifyClass_of_keeps {f : ClassRecord → ClassRecord}
    (keeps : ∀ c, (f c).includes = c.includes) (L : Ledger) (s t : Symbol) :
    (L.modifyClass s f).includesOf t = L.includesOf t := by
  rw [includesOf, bind_modifyClass Binding.includes? f fun c => congrArg some (keeps c)]
  rfl

theorem includesOf_modifyModule (g : ModuleRecord → ModuleRecord) (L : Ledger) (s t : Symbol) :
    (L.modifyModule s g).includesOf t = L.includesOf t := by
  rw [includesOf, bind_modifyModule Binding.includes? g fun _ => rfl]
  rfl

theorem includesOf_attach {c : ClassRecord} (found : L.classAt? s = some c) (mod t : Symbol) :
    (L.modifyClass s fun c => { c with includes := mod :: c.includes }).includesOf t =
      if t = s then mod :: L.includesOf t else L.includesOf t := by
  by_cases here : t = s
  · subst here
    have changed : (L.modifyClass t fun c => { c with includes := mod :: c.includes }).classAt? t =
        some { c with includes := mod :: c.includes } := by simp [found]
    rw [if_pos rfl, includesOf_of_class found, includesOf_of_class changed]
  · have apart : s ≠ t := fun same => here same.symm
    rw [if_neg here, includesOf, getElem?_modifyClass_of_ne apart]
    rfl

theorem Edit.keeps_face (edit : Edit L M) {r : ModuleRecord} (found : L.moduleAt? s = some r)
    (role : r.role = .interface) : M.moduleAt? s = some r := by
  cases edit with
  | text => exact moduleAt?_push_of_some _ found
  | newClass => exact moduleAt?_push_of_some _ found
  | newModule => exact moduleAt?_push_of_some _ found
  | @place e named unsealed =>
    rw [Ledger.place]
    cases owner : e.owner with
    | ofClass t => simpa using found
    | ofModule t =>
      rw [owner] at unsealed
      obtain ⟨r', found', plain⟩ := unsealed
      -- new methods only go to modules that are no interfaces yet
      have apart : t ≠ s := by
        rintro rfl
        rw [found] at found'
        cases found'
        rw [role] at plain
        cases plain
      simp [found, apart]
    | singleton => exact found
  | remove => simpa using found
  | handle => simpa using found
  | mark t =>
    have same : { r with role := .interface } = r := by rw [← role]
    simp [found, same]
  | attach => simpa using found

theorem Edits.keeps_face (edits : Edits L M) {r : ModuleRecord} (found : L.moduleAt? s = some r)
    (role : r.role = .interface) : M.moduleAt? s = some r :=
  edits.keep (P := fun N => N.moduleAt? s = some r) (fun edit found => edit.keeps_face found role)
    found

theorem Edit.keeps_interface (edit : Edit L M) {t : Symbol} (h : L.isInterface t = true) :
    M.isInterface t = true := by
  obtain ⟨r, found, role⟩ := isInterface_iff.1 h
  exact isInterface_iff.2 ⟨r, edit.keeps_face found role, role⟩

theorem Edits.keeps_interface (edits : Edits L M) (h : L.isInterface s = true) :
    M.isInterface s = true :=
  edits.keep (P := fun N => N.isInterface s = true) (fun edit => edit.keeps_interface) h

theorem includesOf_place (L : Ledger) (e : Entry) (t : Symbol) :
    (L.place e).includesOf t = L.includesOf t := by
  rw [place]
  cases e.owner with
  | ofClass s => exact includesOf_modifyClass_of_keeps (by intro; rfl) L s t
  | ofModule s => exact includesOf_modifyModule _ L s t
  | singleton => rfl

/-- An edit leaves all lists of attached modules alone, or it puts an interface in front of one list,
    where it was not among the ancestors. -/
theorem Edit.includes_cases (edit : Edit L M) :
    (∀ t, M.includesOf t = L.includesOf t) ∨
      ∃ cls mod owners, L.isInterface mod = true ∧ L.ancestors cls = .ok owners ∧
        .ofModule mod ∉ owners ∧
        ∀ t, M.includesOf t = if t = cls then mod :: L.includesOf t else L.includesOf t := by
  cases edit with
  | text => exact .inl (includesOf_push rfl L)
  | newClass => exact .inl (includesOf_push rfl L)
  | newModule => exact .inl (includesOf_push rfl L)
  | place => exact .inl (includesOf_place L _)
  | remove => exact .inl (includesOf_modifyClass_of_keeps (by intro; rfl) L _)
  | handle => exact .inl (includesOf_modifyClass_of_keeps (by intro; rfl) L _)
  | mark => exact .inl (includesOf_modifyModule _ L _)
  | attach face walk absent =>
    obtain ⟨c, found⟩ := exists_class_of_ancestors walk
    rw [classAt_eq_ok_iff] at found
    exact .inr ⟨_, _, _, face, walk, absent, includesOf_attach found _⟩

theorem Composed.edit (named : L.Named) (h : L.Composed) (edit : Edit L M) : M.Composed := by
  have faces : ∀ {t}, L.isInterface t = true → M.isInterface t = true := edit.keeps_interface
  rcases edit.includes_cases with same | ⟨cls, mod, owners, face, walk, absent, front⟩
  · constructor
    · intro t
      rw [same]
      exact h.nodup t
    · intro t m mem
      rw [same] at mem
      exact faces (h.faces mem)
  · have new : mod ∉ L.includesOf cls := fun mem => absent (named.ofModule_mem_ancestors walk mem)
    constructor
    · intro t
      rw [front]
      split
      · rename_i here
        exact List.nodup_cons.2 ⟨here ▸ new, h.nodup t⟩
      · exact h.nodup t
    · intro t m mem
      rw [front] at mem
      split at mem
      · rcases List.mem_cons.1 mem with same | old
        · exact same ▸ faces face
        · exact faces (h.faces old)
      · exact faces (h.faces mem)

theorem Composed.isInterface_of_mem (h : L.Composed) (named : L.Named) {owners : List Owner}
    {m : Symbol} (walk : L.ancestors s = .ok owners) (mem : .ofModule m ∈ owners) :
    L.isInterface m = true := by
  obtain ⟨chain, lineage, rfl⟩ := named.ancestors_eq_ok_iff.1 walk
  obtain ⟨t, c, place, attached⟩ := ofModule_mem_owners_iff.1 mem
  rw [← includesOf_of_class (lineage.found place)] at attached
  exact h.faces attached

theorem mem_interfacesAmong_iff {owners : List Owner} {m : Symbol} :
    m ∈ L.interfacesAmong owners ↔ .ofModule m ∈ owners ∧ L.isInterface m = true := by
  rw [interfacesAmong, List.mem_eraseDups, List.mem_filterMap]
  constructor
  · rintro ⟨o, mem, kept⟩
    cases o with
    | ofModule k =>
      simp only [Option.ite_none_right_eq_some, Option.some.injEq] at kept
      obtain ⟨face, rfl⟩ := kept
      exact ⟨mem, face⟩
    | ofClass => cases kept
    | singleton => cases kept
  · rintro ⟨mem, face⟩
    exact ⟨.ofModule m, mem, if_pos face⟩

theorem interfaces_eq_ok_iff {faces : List Symbol} :
    L.interfaces s = .ok faces ↔
      ∃ owners, L.ancestors s = .ok owners ∧ faces = L.interfacesAmong owners := by
  rw [interfaces]
  cases L.ancestors s with
  | error f => simp [Functor.map, Except.map]
  | ok owners => simp [Functor.map, Except.map, eq_comm]

theorem interfaces_of_error {f : Fault} (bad : L.classAt s = .error f) :
    L.interfaces s = .error f := by
  rw [interfaces, ancestors_of_error bad]
  rfl

theorem nodup_eraseDups {α : Type} [BEq α] [LawfulBEq α] (l : List α) :
    l.eraseDups.Nodup := by
  induction h : l.length using Nat.strongRecOn generalizing l with
  | ind n ih =>
    cases l with
    | nil => exact List.nodup_nil
    | cons a rest =>
      have shorter : (rest.filter fun b => !b == a).length < n := by
        rw [← h]
        exact Nat.lt_succ_of_le (List.length_filter_le _ rest)
      rw [List.eraseDups_cons, List.nodup_cons]
      refine ⟨?_, ih _ shorter _ rfl⟩
      intro mem
      have kept := List.mem_filter.1 (List.mem_eraseDups.1 mem)
      simp at kept

theorem nodup_interfacesAmong (owners : List Owner) : (L.interfacesAmong owners).Nodup :=
  nodup_eraseDups _

end Ledger

theorem Reachable.composed {L : Ledger} (h : Reachable L) : L.Composed :=
  h.of_edit Ledger.composed_empty fun named composed edit => composed.edit named edit

end InterfaceLedger
