import InterfaceLedger.Proofs.Edits
import InterfaceLedger.Proofs.Lineage
import Mathlib

/-!
Refused operations. Every check comes before the first change, so a refused operation leaves the
ledger as it was. Declaring is the one operation with work left to do that could be refused on its
own account; once all its symbols have been found good, none of that work is.
-/
namespace InterfaceLedger

namespace Ledger

variable {α β : Type} {L M : Ledger} {cls mod : Symbol} {mods : List Symbol} {f : Fault}

/-- The fault of the first symbol of a declaration that is no good: the class comes first, then the
    modules in the order of the list. -/
inductive FirstFault (L : Ledger) (cls : Symbol) (mods : List Symbol) : Fault → Prop where
  | ofClass {f : Fault} (bad : ClassFault L cls f) : FirstFault L cls mods f
  | ofModule {f : Fault} {before after : List Symbol} {mod : Symbol}
      (good : L.isClass cls = true) (split : mods = before ++ mod :: after)
      (earlier : ∀ m ∈ before, L.isModule m = true) (bad : ModuleFault L mod f) :
      FirstFault L cls mods f

theorem Named.attach_ok (h : L.Named) (isClass : L.isClass cls = true)
    (isModule : L.isModule mod = true) : ∃ M, attach cls mod L = .ok () M := by
  obtain ⟨m, found⟩ := isModule_iff_moduleAt.1 isModule
  have mark : Edit L _ := .mark mod
  have marked := h.edit mark
  obtain ⟨chain, walk⟩ := marked.exists_lineage (mark.keeps_isClass isClass)
  rw [attach_apply, found]
  dsimp only
  rw [marked.ancestors_eq walk]
  dsimp only
  split
  · exact ⟨_, rfl⟩
  · exact ⟨_, rfl⟩

theorem Named.forM_attach_ok (h : L.Named) (isClass : L.isClass cls = true)
    (modules : ∀ m ∈ mods, L.isModule m = true) : ∃ M, mods.forM (attach cls) L = .ok () M := by
  induction mods generalizing L with
  | nil => exact ⟨L, rfl⟩
  | cons m rest ih =>
    obtain ⟨M, done⟩ := h.attach_ok isClass (modules m List.mem_cons_self)
    have edits : Edits L M := by
      have all := attach_edits L cls m
      rwa [done] at all
    obtain ⟨N, others⟩ := ih (h.edits edits) (edits.keeps_isClass isClass) fun k mem =>
      edits.keeps_isModule (modules k (List.mem_cons_of_mem m mem))
    refine ⟨N, ?_⟩
    change EStateM.bind (attach cls m) (fun _ => rest.forM (attach cls)) L = _
    rw [EStateM.bind, done]
    exact others

theorem moduleFault?_eq_none_iff_isModule : L.moduleFault? mod = none ↔ L.isModule mod = true := by
  rw [moduleFault?_eq_none_iff, isModule_iff_moduleAt]

theorem declare_eq_forM (isClass : L.isClass cls = true)
    (modules : ∀ m ∈ mods, L.isModule m = true) :
    declare cls mods L = mods.reverse.forM (attach cls) L := by
  obtain ⟨c, found⟩ := isClass_iff_classAt.1 isClass
  have good : mods.findSome? L.moduleFault? = none := by
    rw [List.findSome?_eq_none_iff]
    intro m mem
    exact moduleFault?_eq_none_iff_isModule.2 (modules m mem)
  rw [declare_apply, found, good]

theorem Named.declare_ok (h : L.Named) (isClass : L.isClass cls = true)
    (modules : ∀ m ∈ mods, L.isModule m = true) : ∃ M, declare cls mods L = .ok () M := by
  rw [declare_eq_forM isClass modules]
  exact h.forM_attach_ok isClass fun m mem => modules m (List.mem_reverse.1 mem)

theorem arguments_of_declare (done : declare cls mods L = .ok () M) :
    L.isClass cls = true ∧ ∀ m ∈ mods, L.isModule m = true := by
  rw [declare_apply] at done
  cases found : L.classAt cls with
  | error f =>
    rw [found] at done
    cases done
  | ok c =>
    cases fault : mods.findSome? L.moduleFault? with
    | some f =>
      rw [found, fault] at done
      cases done
    | none =>
      refine ⟨isClass_iff_classAt.2 ⟨c, found⟩, fun m mem => ?_⟩
      exact moduleFault?_eq_none_iff_isModule.1 (List.findSome?_eq_none_iff.1 fault m mem)

theorem Named.firstFault_iff (h : L.Named) :
    FirstFault L cls mods f ↔
      L.classAt cls = .error f ∨
        L.isClass cls = true ∧ mods.findSome? L.moduleFault? = some f := by
  rw [h.classAt_eq_error_iff, List.findSome?_eq_some_iff]
  simp only [moduleFault?_eq_some_iff, moduleFault?_eq_none_iff_isModule, h.moduleAt_eq_error_iff]
  constructor
  · rintro (bad | ⟨good, split, earlier, bad⟩)
    · exact .inl bad
    · exact .inr ⟨good, _, _, _, split, bad, earlier⟩
  · rintro (bad | ⟨good, before, mod, after, split, bad, earlier⟩)
    · exact .ofClass bad
    · exact .ofModule good split earlier bad

theorem Named.declare_eq_error_iff (h : L.Named) :
    declare cls mods L = .error f M ↔ M = L ∧ FirstFault L cls mods f := by
  rw [h.firstFault_iff]
  cases found : L.classAt cls with
  | error g =>
    have notClass : ¬ L.isClass cls = true := by simp [isClass_iff_classAt, found]
    rw [declare_apply, found]
    simp [notClass, eq_comm, and_comm]
  | ok c =>
    have isClass : L.isClass cls = true := isClass_iff_classAt.2 ⟨c, found⟩
    cases fault : mods.findSome? L.moduleFault? with
    | some g =>
      rw [declare_apply, found, fault]
      simp [isClass, eq_comm, and_comm]
    | none =>
      rw [List.findSome?_eq_none_iff] at fault
      have modules : ∀ m ∈ mods, L.isModule m = true := fun m mem =>
        moduleFault?_eq_none_iff_isModule.1 (fault m mem)
      obtain ⟨N, done⟩ := h.declare_ok isClass modules
      rw [done]
      simp

theorem map_eq_error_iff (g : α → β) (u : Update α) :
    (g <$> u) L = .error f M ↔ u L = .error f M := by
  change EStateM.map g u L = _ ↔ _
  rw [EStateM.map]
  cases u L <;> simp

theorem defineClass_refused {d : ClassDecl} (h : defineClass d L = .error f M) : M = L := by
  rw [defineClass_apply] at h
  split at h
  · cases h
  · cases h
    rfl
  · cases h
    rfl

theorem defineModule_refused {d : ModuleDecl} (h : defineModule d L = .error f M) : M = L := by
  rw [defineModule_apply] at h
  split at h
  · cases h
  · cases h
    rfl

theorem defineMethod_refused {m : MethodDecl} (h : defineMethod cls m L = .error f M) : M = L := by
  rw [defineMethod_apply] at h
  split at h
  · cases h
  · cases h
    rfl

theorem removeMethod_refused {name : String} (h : removeMethod cls name L = .error f M) :
    M = L := by
  rw [removeMethod_apply] at h
  split at h
  · cases h
  · cases h
  · cases h
    rfl

theorem extendModule_refused {m : MethodDecl} (h : extendModule mod m L = .error f M) : M = L := by
  rw [extendModule_apply] at h
  split at h
  · split at h
    · cases h
      rfl
    · cases h
  · cases h
    rfl

theorem mark_refused (h : mark mod L = .error f M) : M = L := by
  rw [mark_apply] at h
  split at h
  · cases h
  · cases h
    rfl

theorem setHandler_refused {handler : Option Handler} (h : setHandler cls handler L = .error f M) :
    M = L := by
  rw [setHandler_apply] at h
  split at h
  · cases h
  · cases h
    rfl

/-- Whatever operation is refused, the ledger is the old one, and a declaration is refused exactly
    for the first of its symbols that is no good. -/
theorem refused_operation_keeps_ledger {L : Ledger} (h : Reachable L) :
    (∀ op f M, Operation.run op L = .error f M → M = L) ∧
      ∀ cls mods f M, Operation.run (.declare cls mods) L = .error f M ↔
        M = L ∧ FirstFault L cls mods f := by
  have declared : ∀ cls mods f M, Operation.run (.declare cls mods) L = .error f M ↔
      M = L ∧ FirstFault L cls mods f := by
    intro cls mods f M
    rw [Operation.run, map_eq_error_iff, h.named.declare_eq_error_iff]
  refine ⟨?_, declared⟩
  intro op f M refused
  cases op with
  | intern x => cases refused
  | defineClass d => exact defineClass_refused ((map_eq_error_iff _ _).1 refused)
  | defineModule d => exact defineModule_refused ((map_eq_error_iff _ _).1 refused)
  | defineMethod cls m => exact defineMethod_refused ((map_eq_error_iff _ _).1 refused)
  | removeMethod cls name => exact removeMethod_refused ((map_eq_error_iff _ _).1 refused)
  | extendModule mod m => exact extendModule_refused ((map_eq_error_iff _ _).1 refused)
  | mark mod => exact mark_refused ((map_eq_error_iff _ _).1 refused)
  | setHandler cls handler => exact setHandler_refused ((map_eq_error_iff _ _).1 refused)
  | clearHandler cls => exact setHandler_refused ((map_eq_error_iff _ _).1 refused)
  | declare cls mods => exact ((declared cls mods f M).1 refused).1

theorem refused_operation_keeps_ledger_household :
    Reachable household ∧ FirstFault household 9 [1, 10, 99] (.notAModule "Lamp") ∧
      Operation.run (.declare 9 [1, 10, 99]) household = .error (.notAModule "Lamp") household := by
  have size : household.size = 12 := by cbv
  have isClass : household.isClass 9 = true := by cbv
  have earlier : ∀ m ∈ [1], household.isModule m = true := by
    intro m mem
    cases List.mem_singleton.1 mem
    cbv
  have bad : ModuleFault household 10 (.notAModule "Lamp") := by
    apply Misfit.other
    · rw [size]
      decide
    · cbv
    · cbv
  have first : FirstFault household 9 [1, 10, 99] (.notAModule "Lamp") :=
    .ofModule isClass (rfl : [1, 10, 99] = [1] ++ 10 :: [99]) earlier bad
  refine ⟨reachable_household, first, ?_⟩
  apply ((refused_operation_keeps_ledger reachable_household).2 9 [1, 10, 99] _ household).2
  exact ⟨rfl, first⟩

end Ledger

end InterfaceLedger
