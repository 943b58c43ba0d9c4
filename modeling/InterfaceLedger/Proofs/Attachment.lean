import InterfaceLedger.Proofs.Growth
import InterfaceLedger.Proofs.Refusals
import Mathlib

/-!
What a declaration comes to. The modules are attached from the last to the first, and each looks at
the ancestors as they are by then. In the end every module that was no ancestor before stands in front
of the class once, in the place where the list has it for the last time; all modules of the list are
interfaces, and the rest of the ledger is as it was.
-/
namespace InterfaceLedger

def Binding.declared (cls : Symbol) (mods news : List Symbol) (s : Symbol) : Binding → Binding
  | .text x => .text x
  | .ofClass c => .ofClass (if s = cls then { c with includes := news ++ c.includes } else c)
  | .ofModule m => .ofModule (if s ∈ mods then { m with role := .interface } else m)

namespace Ledger

variable {L M : Ledger} {cls sub mod s t : Symbol} {mods news : List Symbol} {owners : List Owner}

/-- The modules of a list that are none of the owners, each where it is listed for the last time. -/
def newcomers (owners : List Owner) : List Symbol → List Symbol
  | [] => []
  | m :: rest =>
    if .ofModule m ∈ owners ∨ m ∈ rest then newcomers owners rest else m :: newcomers owners rest

theorem mem_newcomers_iff : mod ∈ newcomers owners mods ↔ mod ∈ mods ∧ .ofModule mod ∉ owners := by
  induction mods with
  | nil => simp [newcomers]
  | cons m rest ih =>
    rw [newcomers]
    split
    · rename_i old
      rw [ih, List.mem_cons]
      constructor
      · rintro ⟨later, new⟩
        exact ⟨.inr later, new⟩
      · rintro ⟨rfl | later, new⟩
        · exact ⟨old.resolve_left new, new⟩
        · exact ⟨later, new⟩
    · rename_i first
      rw [List.mem_cons, List.mem_cons, ih]
      constructor
      · rintro (rfl | ⟨later, new⟩)
        · exact ⟨.inl rfl, fun old => first (.inl old)⟩
        · exact ⟨.inr later, new⟩
      · rintro ⟨rfl | later, new⟩
        · exact .inl rfl
        · exact .inr ⟨later, new⟩

/-- The ledger with `news` in front of a class and with all of `mods` as interfaces. -/
def declared (L : Ledger) (cls : Symbol) (mods news : List Symbol) : Ledger :=
  ⟨L.bindings.mapIdx (Binding.declared cls mods news)⟩

theorem getElem?_declared (L : Ledger) (cls : Symbol) (mods news : List Symbol) (s : Symbol) :
    (L.declared cls mods news).bindings[s]? =
      L.bindings[s]?.map (Binding.declared cls mods news s) :=
  List.getElem?_mapIdx

theorem bind_declared {α : Type} (part : Binding → Option α)
    (keeps : ∀ s b, part (Binding.declared cls mods news s b) = part b) (L : Ledger) (s : Symbol) :
    (L.declared cls mods news).bindings[s]?.bind part = L.bindings[s]?.bind part := by
  rw [getElem?_declared]
  cases L.bindings[s]? with
  | none => rfl
  | some b => exact keeps s b

@[simp]
theorem classAt?_declared (L : Ledger) (cls : Symbol) (mods news : List Symbol) (s : Symbol) :
    (L.declared cls mods news).classAt? s =
      (L.classAt? s).map fun c =>
        if s = cls then { c with includes := news ++ c.includes } else c := by
  rw [classAt?, classAt?, getElem?_declared]
  rcases L.bindings[s]? with _ | (_ | _ | _) <;> rfl

@[simp]
theorem moduleAt?_declared (L : Ledger) (cls : Symbol) (mods news : List Symbol) (s : Symbol) :
    (L.declared cls mods news).moduleAt? s =
      (L.moduleAt? s).map fun m => if s ∈ mods then { m with role := .interface } else m := by
  rw [moduleAt?, moduleAt?, getElem?_declared]
  rcases L.bindings[s]? with _ | (_ | _ | _) <;> rfl

theorem alike_declared (L : Ledger) (cls : Symbol) (mods news : List Symbol) :
    Alike L (L.declared cls mods news) where
  text := by
    apply bind_declared Binding.text?
    intro s b
    cases b <;> rfl
  name := by
    apply bind_declared Binding.nameSymbol?
    intro s b
    cases b with
    | text x => rfl
    | ofClass c => exact congrArg some ((apply_ite ClassRecord.name _ _ _).trans (ite_self _))
    | ofModule m => exact congrArg some ((apply_ite ModuleRecord.name _ _ _).trans (ite_self _))
  parent := by
    apply bind_declared Binding.parent?
    intro s b
    cases b with
    | text x => rfl
    | ofClass c => exact (apply_ite ClassRecord.parent _ _ _).trans (ite_self _)
    | ofModule m => rfl
  isClass s := by simp [isClass_eq]
  isModule s := by simp [isModule_eq]

theorem includesOf_declared (target : L.isClass cls = true) (mods news : List Symbol) (t : Symbol) :
    (L.declared cls mods news).includesOf t =
      if t = cls then news ++ L.includesOf t else L.includesOf t := by
  split
  · rename_i here
    subst here
    obtain ⟨c, found⟩ := isClass_iff.1 target
    have changed := (classAt?_declared L t mods news t).trans (congrArg _ found)
    rw [Option.map_some, if_pos rfl] at changed
    rw [includesOf_of_class found, includesOf_of_class changed]
  · rename_i other
    rw [includesOf, includesOf, getElem?_declared]
    rcases L.bindings[t]? with _ | (_ | c | _)
    · rfl
    · rfl
    · rw [Option.map_some, Binding.declared, if_neg other]
    · rfl

theorem declared_of_interfaces (faces : ∀ m ∈ mods, L.isInterface m = true) (cls : Symbol) :
    L.declared cls mods [] = L := by
  apply ext_bindings
  intro s
  rw [getElem?_declared]
  rcases found : L.bindings[s]? with _ | (_ | c | r)
  · rfl
  · rfl
  · exact congrArg some (congrArg Binding.ofClass (ite_self c))
  · rw [Option.map_some, Binding.declared]
    split
    · rename_i listed
      obtain ⟨r', found', role⟩ := isInterface_iff.1 (faces s listed)
      rw [moduleAt?_eq_some_iff, found] at found'
      cases found'
      rw [← role]
    · rfl

theorem declared_nil (L : Ledger) (cls : Symbol) : L.declared cls [] [] = L :=
  declared_of_interfaces (by simp) cls

theorem modifyModule_declared (L : Ledger) (cls mod : Symbol) (mods news : List Symbol) :
    (L.declared cls mods news).modifyModule mod (fun m => { m with role := .interface }) =
      L.declared cls (mod :: mods) news := by
  apply ext_bindings
  intro s
  rw [modifyModule, List.getElem?_modify, getElem?_declared, getElem?_declared]
  rcases L.bindings[s]? with _ | (_ | _ | m)
  · rfl
  · exact congrArg some (ite_self _)
  · exact congrArg some (ite_self _)
  · by_cases here : s = mod
    · by_cases listed : s ∈ mods <;> simp [Binding.declared, ← here, listed]
    · have apart : mod ≠ s := Ne.symm here
      simp [Binding.declared, here, apart]

theorem modifyClass_declared (L : Ledger) (cls mod : Symbol) (mods news : List Symbol) :
    (L.declared cls mods news).modifyClass cls (fun c => { c with includes := mod :: c.includes }) =
      L.declared cls mods (mod :: news) := by
  apply ext_bindings
  intro s
  rw [modifyClass, List.getElem?_modify, getElem?_declared, getElem?_declared]
  rcases L.bindings[s]? with _ | (_ | c | _)
  · rfl
  · exact congrArg some (ite_self _)
  · by_cases here : s = cls
    · simp [Binding.declared, here]
    · have apart : cls ≠ s := Ne.symm here
      simp [Binding.declared, here, apart]
  · exact congrArg some (ite_self _)

theorem Alike.descends_iff (same : Alike L M) : Descends M cls sub ↔ Descends L cls sub := by
  constructor
  · intro h
    induction h with
    | self isClass => exact .self ((same.isClass _).symm.trans isClass)
    | sub super _ ih => exact .sub ((same.parent _).symm.trans super) ih
  · intro h
    induction h with
    | self isClass => exact .self ((same.isClass _).trans isClass)
    | sub super _ ih => exact .sub ((same.parent _).trans super) ih

theorem Named.mem_ancestors_declared_iff (h : L.Named) (walk : L.ancestors cls = .ok owners)
    {owners' : List Owner} (walk' : (L.declared cls mods news).ancestors cls = .ok owners') :
    .ofModule mod ∈ owners' ↔ mod ∈ news ∨ .ofModule mod ∈ owners := by
  have alike := alike_declared L cls mods news
  obtain ⟨c, found⟩ := exists_class_of_ancestors walk
  have target : L.isClass cls = true := isClass_iff_classAt.2 ⟨c, found⟩
  rw [h.ofModule_mem_ancestors_iff walk, (h.of_alike alike).ofModule_mem_ancestors_iff walk']
  simp only [alike.descends_iff, includesOf_declared target]
  constructor
  · rintro ⟨t, above, attached⟩
    split at attached
    · exact (List.mem_append.1 attached).imp_right fun old => ⟨t, above, old⟩
    · exact .inr ⟨t, above, attached⟩
  · rintro (new | ⟨t, above, attached⟩)
    · refine ⟨cls, .self target, ?_⟩
      rw [if_pos rfl]
      exact List.mem_append_left _ new
    · refine ⟨t, above, ?_⟩
      split
      · exact List.mem_append_right _ attached
      · exact attached

theorem Named.attach_declared (h : L.Named) (walk : L.ancestors cls = .ok owners)
    (isModule : L.isModule mod = true) (rest : List Symbol) :
    attach cls mod (L.declared cls rest (newcomers owners rest)) =
      .ok () (L.declared cls (mod :: rest) (newcomers owners (mod :: rest))) := by
  have alike := alike_declared L cls rest (newcomers owners rest)
  have marked := alike_declared L cls (mod :: rest) (newcomers owners rest)
  obtain ⟨c, found⟩ := exists_class_of_ancestors walk
  have target : L.isClass cls = true := isClass_iff_classAt.2 ⟨c, found⟩
  obtain ⟨r, record⟩ := isModule_iff_moduleAt.1 ((alike.isModule mod).trans isModule)
  obtain ⟨chain, lineage⟩ := (h.of_alike marked).exists_lineage ((marked.isClass cls).trans target)
  have walk' := (h.of_alike marked).ancestors_eq lineage
  have known : .ofModule mod ∈ chain.flatMap ownersOf ↔ .ofModule mod ∈ owners ∨ mod ∈ rest := by
    rw [h.mem_ancestors_declared_iff walk walk', mem_newcomers_iff]
    tauto
  rw [attach_apply, record]
  dsimp only
  rw [modifyModule_declared, walk']
  dsimp only
  rw [newcomers]
  split
  · rename_i old
    rw [if_pos (known.1 old)]
  · rename_i new
    rw [if_neg (mt known.2 new), modifyClass_declared]

theorem forM_append_apply {step : Symbol → Update Unit} {ms more : List Symbol}
    (first : ms.forM step L = .ok () M) : (ms ++ more).forM step L = more.forM step M := by
  have split : (ms ++ more).forM step = ms.forM step >>= fun _ => more.forM step :=
    List.forM_append
  rw [split]
  change EStateM.bind (ms.forM step) (fun _ => more.forM step) L = _
  rw [EStateM.bind, first]

theorem forM_concat_apply {step : Symbol → Update Unit} {ms : List Symbol} {m : Symbol}
    (others : ms.forM step L = .ok () M) : (ms ++ [m]).forM step L = step m M := by
  have last : [m].forM step = step m := by
    change step m >>= (fun _ => pure ()) = step m
    exact bind_pure_unit
  rw [forM_append_apply others, last]

theorem Named.forM_attach_eq (h : L.Named) (walk : L.ancestors cls = .ok owners)
    (modules : ∀ m ∈ mods, L.isModule m = true) :
    mods.reverse.forM (attach cls) L = .ok () (L.declared cls mods (newcomers owners mods)) := by
  induction mods with
  | nil =>
    rw [newcomers, declared_nil]
    rfl
  | cons m rest ih =>
    have others := ih fun k mem => modules k (List.mem_cons_of_mem m mem)
    rw [List.reverse_cons, forM_concat_apply others]
    exact h.attach_declared walk (modules m List.mem_cons_self) rest

theorem Named.declare_eq (h : L.Named) (walk : L.ancestors cls = .ok owners)
    (modules : ∀ m ∈ mods, L.isModule m = true) :
    declare cls mods L = .ok () (L.declared cls mods (newcomers owners mods)) := by
  rw [declare_eq_forM (isClass_iff_classAt.2 (exists_class_of_ancestors walk)) modules]
  exact h.forM_attach_eq walk modules

/-- All that changes when `news` come in front of a class and `mods` become interfaces. -/
structure Declared (L M : Ledger) (cls : Symbol) (mods news : List Symbol) : Prop where
  size : M.size = L.size
  target : ∀ {c}, L.classAt cls = .ok c →
    M.classAt cls = .ok { c with includes := news ++ c.includes }
  classes : ∀ {s c}, s ≠ cls → L.classAt s = .ok c → M.classAt s = .ok c
  faces : ∀ {m r}, m ∈ mods → L.moduleAt m = .ok r →
    M.moduleAt m = .ok { r with role := .interface }
  modules : ∀ {m r}, m ∉ mods → L.moduleAt m = .ok r → M.moduleAt m = .ok r
  texts : ∀ {s x}, L.textAt? s = some x → M.textAt? s = some x

theorem declared_spec (L : Ledger) (cls : Symbol) (mods news : List Symbol) :
    Declared L (L.declared cls mods news) cls mods news where
  size := List.length_mapIdx
  target found := by
    rw [classAt_eq_ok_iff] at found ⊢
    simp [found]
  classes other found := by
    rw [classAt_eq_ok_iff] at found ⊢
    simp [found, other]
  faces listed found := by
    rw [moduleAt_eq_ok_iff] at found ⊢
    simp [found, listed]
  modules unlisted found := by
    rw [moduleAt_eq_ok_iff] at found ⊢
    simp [found, unlisted]
  texts text := ((alike_declared L cls mods news).text _).trans text

/-- Declaring modules on a class succeeds, puts in front of the class those that were none of its
    ancestors, in the order in which the list has them for the last time, and makes all of them
    interfaces. Nothing else changes. -/
theorem declaration_attaches_newcomers {L : Ledger} {cls : Symbol} {mods : List Symbol}
    (h : Reachable L) (isClass : L.isClass cls = true)
    (modules : ∀ m ∈ mods, L.isModule m = true) :
    ∃ owners M, L.ancestors cls = .ok owners ∧ declare cls mods L = .ok () M ∧
      Declared L M cls mods (newcomers owners mods) := by
  obtain ⟨chain, lineage⟩ := h.named.exists_lineage isClass
  have walk := h.named.ancestors_eq lineage
  exact ⟨_, _, walk, h.named.declare_eq walk modules, declared_spec L cls mods _⟩

/-- The household with two more modules. Both have `start`, and no class has them yet. -/
def stockedHousehold : Ledger :=
  household.afterAll
    [.operation (.defineModule { name := "Timer", methods := [{ name := "start" }] }),
      .operation (.defineModule { name := "Heater", methods :=
        [{ name := "start" }, { name := "heat" }] })]

theorem reachable_stockedHousehold : Reachable stockedHousehold := reachable_household.afterAll _

theorem ancestors_stockedHousehold : stockedHousehold.ancestors 11 =
    .ok [.ofClass 11, .ofClass 9, .ofModule 1, .ofModule 6] := by cbv

theorem declaration_attaches_newcomers_stockedHousehold :
    Reachable stockedHousehold ∧ stockedHousehold.isClass 11 = true ∧
      (∀ m ∈ [13, 16, 1, 13], stockedHousehold.isModule m = true) ∧
      ∃ M, declare 11 [13, 16, 1, 13] stockedHousehold = .ok () M ∧
        Declared stockedHousehold M 11 [13, 16, 1, 13] [16, 13] := by
  have isClass : stockedHousehold.isClass 11 = true := by cbv
  have kinds : [13, 16, 1, 13].all stockedHousehold.isModule = true := by cbv
  have modules : ∀ m ∈ [13, 16, 1, 13], stockedHousehold.isModule m = true :=
    List.all_eq_true.1 kinds
  obtain ⟨owners, M, walk', done, effect⟩ :=
    declaration_attaches_newcomers reachable_stockedHousehold isClass modules
  cases ancestors_stockedHousehold.symm.trans walk'
  exact ⟨reachable_stockedHousehold, isClass, modules, M, done, effect⟩

end Ledger

end InterfaceLedger
