import InterfaceLedger.Proofs.Composition

/-!
What only grows. Under every edit a class keeps its superclass, and the list of the modules attached
to it stays as it was or gets longer in front. So a class has its superclasses and the modules among
its ancestors for good, and whatever class comes below it has them too.
-/
namespace InterfaceLedger

namespace Ledger

variable {L M : Ledger} {cls sub mod s t p : Symbol} {chain : List (Symbol × ClassRecord)}
  {owners below : List Owner}

theorem isClass_of_parent (super : L.parentAt? s = some p) : L.isClass s = true := by
  obtain ⟨b, found, parent⟩ := Option.bind_eq_some_iff.1 super
  cases b with
  | ofClass c => exact isClass_iff.2 ⟨c, classAt?_eq_some_iff.2 found⟩
  | text => cases parent
  | ofModule => cases parent

/-- The class `sub` is `cls` itself or has it among its superclasses. -/
inductive Descends (L : Ledger) (cls : Symbol) : Symbol → Prop where
  | self (isClass : L.isClass cls = true) : Descends L cls cls
  | sub {sub p : Symbol} (super : L.parentAt? sub = some p) (above : Descends L cls p) :
      Descends L cls sub

theorem Descends.isClass (h : Descends L cls sub) : L.isClass sub = true := by
  cases h with
  | self isClass => exact isClass
  | sub super _ => exact isClass_of_parent super

theorem Descends.isClass_above (h : Descends L cls sub) : L.isClass cls = true := by
  induction h with
  | self isClass => exact isClass
  | sub _ _ ih => exact ih

theorem Descends.trans (h : Descends L t cls) (h' : Descends L cls sub) : Descends L t sub := by
  induction h' with
  | self => exact h
  | sub super _ ih => exact .sub super ih

theorem Lineage.exists_mem_iff (walk : Lineage L s chain) :
    (∃ c, (t, c) ∈ chain) ↔ Descends L t s := by
  have isClass := walk.isClass
  induction walk with
  | @root s c found top =>
    constructor
    · rintro ⟨c', mem⟩
      cases List.mem_singleton.1 mem
      exact .self isClass
    · intro h
      cases h with
      | self => exact ⟨c, List.mem_singleton_self _⟩
      | sub super _ => simp [parentAt?_of_class found, top] at super
  | @step s p c rest found super tail ih =>
    have parent : L.parentAt? s = some p := (parentAt?_of_class found).trans super
    constructor
    · rintro ⟨c', mem⟩
      rcases List.mem_cons.1 mem with here | above
      · cases here
        exact .self isClass
      · exact .sub parent ((ih tail.isClass).1 ⟨c', above⟩)
    · intro h
      cases h with
      | self => exact ⟨c, List.mem_cons_self⟩
      | sub again above =>
        cases parent.symm.trans again
        obtain ⟨c', mem⟩ := (ih tail.isClass).2 above
        exact ⟨c', List.mem_cons_of_mem _ mem⟩

theorem Named.ofModule_mem_ancestors_iff (h : L.Named) (walk : L.ancestors cls = .ok owners) :
    .ofModule mod ∈ owners ↔ ∃ t, Descends L t cls ∧ mod ∈ L.includesOf t := by
  obtain ⟨chain, lineage, rfl⟩ := h.ancestors_eq_ok_iff.1 walk
  rw [ofModule_mem_owners_iff]
  constructor
  · rintro ⟨t, c, place, attached⟩
    rw [← includesOf_of_class (lineage.found place)] at attached
    exact ⟨t, lineage.exists_mem_iff.1 ⟨c, place⟩, attached⟩
  · rintro ⟨t, h', attached⟩
    obtain ⟨c, place⟩ := lineage.exists_mem_iff.2 h'
    rw [includesOf_of_class (lineage.found place)] at attached
    exact ⟨t, c, place, attached⟩

theorem Named.ofClass_mem_ancestors_iff (h : L.Named) (walk : L.ancestors sub = .ok owners) :
    .ofClass cls ∈ owners ↔ Descends L cls sub := by
  obtain ⟨chain, lineage, rfl⟩ := h.ancestors_eq_ok_iff.1 walk
  exact ofClass_mem_owners_iff.trans lineage.exists_mem_iff

theorem Edit.keeps_parent (edit : Edit L M) (h : L.parentAt? s = some p) :
    M.parentAt? s = some p := by
  rcases edit.alike_or_push with alike | ⟨b, rfl⟩
  · exact (alike.parent s).trans h
  · simp [Nat.ne_of_lt (lt_size_of_bind h), h]

theorem Descends.edit (h : Descends L cls sub) (edit : Edit L M) : Descends M cls sub := by
  induction h with
  | self isClass => exact .self (edit.keeps_isClass isClass)
  | sub super _ ih => exact .sub (edit.keeps_parent super) ih

theorem Edit.includes_suffix (edit : Edit L M) (s : Symbol) :
    L.includesOf s <:+ M.includesOf s := by
  rcases edit.includes_cases with same | ⟨cls, mod, owners, -, -, -, front⟩
  · exact same s ▸ List.suffix_rfl
  · rw [front]
    split
    · exact List.suffix_cons mod _
    · exact List.suffix_rfl

theorem Descends.edits (h : Descends L cls sub) (edits : Edits L M) : Descends M cls sub :=
  edits.keep (P := fun N => Descends N cls sub) (fun edit h => h.edit edit) h

theorem Edits.includes_suffix (edits : Edits L M) (s : Symbol) :
    L.includesOf s <:+ M.includesOf s :=
  edits.keep (P := fun N => L.includesOf s <:+ N.includesOf s)
    (fun edit grown => grown.trans (edit.includes_suffix s)) List.suffix_rfl

theorem Named.mem_ancestors_below (h : L.Named) (walk : L.ancestors cls = .ok owners)
    (mem : .ofModule mod ∈ owners) (edits : Edits L M) (descends : Descends M cls sub)
    (walk' : M.ancestors sub = .ok below) : .ofModule mod ∈ below := by
  obtain ⟨t, above, attached⟩ := (h.ofModule_mem_ancestors_iff walk).1 mem
  -- the class that it is attached to keeps it, and is still above everything that it was above
  have still : mod ∈ M.includesOf t := (edits.includes_suffix t).subset attached
  exact ((h.edits edits).ofModule_mem_ancestors_iff walk').2
    ⟨t, (above.edits edits).trans descends, still⟩

end Ledger

end InterfaceLedger
