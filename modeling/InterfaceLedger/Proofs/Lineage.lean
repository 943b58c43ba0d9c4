import InterfaceLedger.Ledger.Dispatch
import InterfaceLedger.Proofs.Names

/-!
The walk up from a class. `Lineage` says what it is, one superclass after the other up to a class
without one, and `NearestHandler` which catch-all handler is met first. In a named ledger the walk
of `lineage` is exactly this and ends for every class; for any other symbol it is refused at once.
-/
namespace InterfaceLedger

namespace Ledger

variable {L : Ledger} {s : Symbol} {chain : List (Symbol × ClassRecord)}

inductive Lineage (L : Ledger) : Symbol → List (Symbol × ClassRecord) → Prop where
  | root {s : Symbol} {c : ClassRecord} (found : L.classAt? s = some c) (top : c.parent = none) :
      Lineage L s [(s, c)]
  | step {s p : Symbol} {c : ClassRecord} {rest : List (Symbol × ClassRecord)}
      (found : L.classAt? s = some c) (super : c.parent = some p) (tail : Lineage L p rest) :
      Lineage L s ((s, c) :: rest)

inductive NearestHandler (L : Ledger) : Symbol → Handler → Prop where
  | own {s : Symbol} {c : ClassRecord} {h : Handler} (found : L.classAt? s = some c)
      (here : c.handler = some h) : NearestHandler L s h
  | inherited {s p : Symbol} {c : ClassRecord} {h : Handler} (found : L.classAt? s = some c)
      (none : c.handler = none) (super : c.parent = some p) (above : NearestHandler L p h) :
      NearestHandler L s h

theorem lineage_of_error {f : Fault} (h : L.classAt s = .error f) : L.lineage s = .error f := by
  rw [lineage, h]
  rfl

theorem lineage_root {c : ClassRecord} (found : L.classAt? s = some c) (top : c.parent = none) :
    L.lineage s = .ok [(s, c)] := by
  rw [lineage, classAt_eq_ok_iff.2 found]
  dsimp only [bind, Except.bind]
  rw [top]
  rfl

theorem Named.super_of_class (h : L.Named) {c : ClassRecord} {p : Symbol}
    (found : L.classAt? s = some c) (super : c.parent = some p) : p < s ∧ L.isClass p = true :=
  h.parents ((parentAt?_of_class found).trans super)

theorem Named.lineage_step (h : L.Named) {c : ClassRecord} {p : Symbol}
    (found : L.classAt? s = some c) (super : c.parent = some p) :
    L.lineage s = ((s, c) :: ·) <$> L.lineage p := by
  obtain ⟨smaller, -⟩ := h.super_of_class found super
  rw [lineage, classAt_eq_ok_iff.2 found]
  dsimp only [bind, Except.bind]
  rw [super]
  dsimp only
  rw [if_pos smaller]
  cases L.lineage p <;> rfl

theorem Named.lineage_eq_of_walk (h : L.Named) (walk : Lineage L s chain) :
    L.lineage s = .ok chain := by
  induction walk with
  | root found top => exact lineage_root found top
  | step found super _ ih =>
    rw [h.lineage_step found super, ih]
    rfl

theorem Named.exists_lineage (h : L.Named) (isClass : L.isClass s = true) :
    ∃ chain, Lineage L s chain := by
  induction s using Nat.strongRecOn with
  | ind s ih =>
    obtain ⟨c, found⟩ := isClass_iff.1 isClass
    cases super : c.parent with
    | none => exact ⟨_, .root found super⟩
    | some p =>
      obtain ⟨smaller, class'⟩ := h.super_of_class found super
      obtain ⟨rest, tail⟩ := ih p smaller class'
      exact ⟨_, .step found super tail⟩

theorem Named.lineage_eq_ok_iff (h : L.Named) : L.lineage s = .ok chain ↔ Lineage L s chain := by
  constructor
  · intro run
    cases found : L.classAt s with
    | error f =>
      rw [lineage_of_error found] at run
      cases run
    | ok c =>
      have isClass := isClass_iff.2 ⟨c, classAt_eq_ok_iff.1 found⟩
      obtain ⟨walked, walk⟩ := h.exists_lineage isClass
      rw [h.lineage_eq_of_walk walk] at run
      cases run
      exact walk
  · exact h.lineage_eq_of_walk

theorem Lineage.isClass (walk : Lineage L s chain) : L.isClass s = true := by
  cases walk with
  | root found _ => exact isClass_iff.2 ⟨_, found⟩
  | step found _ _ => exact isClass_iff.2 ⟨_, found⟩

theorem Lineage.mem_self (walk : Lineage L s chain) : ∃ c, (s, c) ∈ chain := by
  cases walk with
  | root => exact ⟨_, List.mem_cons_self⟩
  | step => exact ⟨_, List.mem_cons_self⟩

theorem Lineage.found (walk : Lineage L s chain) {t : Symbol} {c : ClassRecord}
    (mem : (t, c) ∈ chain) : L.classAt? t = some c := by
  induction walk with
  | root found _ =>
    rw [List.mem_singleton] at mem
    cases mem
    exact found
  | step found _ _ ih =>
    rcases List.mem_cons.1 mem with here | above
    · cases here
      exact found
    · exact ih above

theorem nearestHandler_iff {c : ClassRecord} (found : L.classAt? s = some c) {h : Handler} :
    NearestHandler L s h ↔
      c.handler = some h ∨ c.handler = none ∧ ∃ p, c.parent = some p ∧ NearestHandler L p h := by
  constructor
  · intro near
    cases near with
    | own again here =>
      rw [found] at again
      cases again
      exact .inl here
    | inherited again none super above =>
      rw [found] at again
      cases again
      exact .inr ⟨none, _, super, above⟩
  · rintro (here | ⟨none, p, super, above⟩)
    · exact .own found here
    · exact .inherited found none super above

theorem Lineage.findSome?_handler (walk : Lineage L s chain) {h : Handler} :
    chain.findSome? (·.2.handler) = some h ↔ NearestHandler L s h := by
  induction walk with
  | @root s c found top =>
    rw [nearestHandler_iff found, top]
    simp
  | @step s p c rest found super tail ih =>
    rw [nearestHandler_iff found, super, List.findSome?_cons]
    cases own : c.handler with
    | some g => simp
    | none => simpa using ih

/-- What a walk gives to those who take it: the owners in the order of the search, and the handler
    that is met first. -/
theorem Named.ancestors_eq (h : L.Named) (walk : Lineage L s chain) :
    L.ancestors s = .ok (chain.flatMap ownersOf) := by
  rw [ancestors, h.lineage_eq_of_walk walk]
  rfl

theorem Named.handlerFor_eq (h : L.Named) (walk : Lineage L s chain) :
    L.handlerFor s = .ok (chain.findSome? (·.2.handler)) := by
  rw [handlerFor, h.lineage_eq_of_walk walk]
  rfl

theorem ancestors_of_error {f : Fault} (h : L.classAt s = .error f) :
    L.ancestors s = .error f := by
  rw [ancestors, lineage_of_error h]
  rfl

theorem handlerFor_of_error {f : Fault} (h : L.classAt s = .error f) :
    L.handlerFor s = .error f := by
  rw [handlerFor, lineage_of_error h]
  rfl

theorem Named.ancestors_eq_ok_iff (h : L.Named) {owners : List Owner} :
    L.ancestors s = .ok owners ↔ ∃ chain, Lineage L s chain ∧ owners = chain.flatMap ownersOf := by
  constructor
  · intro run
    cases walk : L.lineage s with
    | error f =>
      rw [ancestors, walk] at run
      cases run
    | ok chain =>
      rw [ancestors, walk] at run
      cases run
      exact ⟨chain, h.lineage_eq_ok_iff.1 walk, rfl⟩
  · rintro ⟨chain, walk, rfl⟩
    exact h.ancestors_eq walk

theorem ofModule_mem_owners_iff {m : Symbol} :
    .ofModule m ∈ chain.flatMap ownersOf ↔ ∃ t c, (t, c) ∈ chain ∧ m ∈ c.includes := by
  simp [ownersOf]

theorem ofClass_mem_owners_iff {t : Symbol} :
    .ofClass t ∈ chain.flatMap ownersOf ↔ ∃ c, (t, c) ∈ chain := by
  simp [ownersOf]

theorem Named.ancestors_root (h : L.Named) {c : ClassRecord} (found : L.classAt? s = some c)
    (top : c.parent = none) : L.ancestors s = .ok (ownersOf (s, c)) := by
  rw [h.ancestors_eq (.root found top), List.flatMap_singleton]

theorem Named.ancestors_step (h : L.Named) {c : ClassRecord} {p : Symbol} {owners : List Owner}
    (found : L.classAt? s = some c) (super : c.parent = some p)
    (walk : L.ancestors p = .ok owners) : L.ancestors s = .ok (ownersOf (s, c) ++ owners) := by
  obtain ⟨chain, lineage, rfl⟩ := h.ancestors_eq_ok_iff.1 walk
  exact h.ancestors_eq (.step found super lineage)

theorem Named.exists_above (h : L.Named) {c : ClassRecord} {owners : List Owner}
    (run : L.ancestors s = .ok owners) (found : L.classAt? s = some c) :
    ∃ above, owners = ownersOf (s, c) ++ above := by
  obtain ⟨chain, walk, rfl⟩ := h.ancestors_eq_ok_iff.1 run
  cases walk with
  | root again _ =>
    cases found.symm.trans again
    exact ⟨[], rfl⟩
  | step again _ _ =>
    cases found.symm.trans again
    exact ⟨_, rfl⟩

theorem Named.ofModule_mem_ancestors (h : L.Named) {owners : List Owner} {m : Symbol}
    (run : L.ancestors s = .ok owners) (mem : m ∈ L.includesOf s) : .ofModule m ∈ owners := by
  obtain ⟨chain, walk, rfl⟩ := h.ancestors_eq_ok_iff.1 run
  rw [ofModule_mem_owners_iff]
  cases walk with
  | root found _ =>
    rw [includesOf_of_class found] at mem
    exact ⟨s, _, List.mem_cons_self, mem⟩
  | step found _ _ =>
    rw [includesOf_of_class found] at mem
    exact ⟨s, _, List.mem_cons_self, mem⟩

end Ledger

end InterfaceLedger
