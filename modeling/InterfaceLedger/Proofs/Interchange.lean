import InterfaceLedger.Proofs.Attachment
import InterfaceLedger.Proofs.Dependence
import InterfaceLedger.Proofs.Likeness
import InterfaceLedger.Proofs.Permanence
import Mathlib

/-!
Updates that can change places. Whichever of two interchangeable updates comes first, each says the
same and the ledger that is left is the same. It is enough that each comes down to one rewrite of the
bindings, with or without the other one before it, and that the rewrites commute. That is so
for declarations on two classes neither of which is above the other: what the one attaches is no
ancestor for the other, and whoever marks a module, it is marked.
-/
namespace InterfaceLedger

abbrev Rewrite := Symbol → Binding → Binding

theorem Binding.declared_comm {cls cls' : Symbol} (apart : cls ≠ cls')
    (mods mods' news news' : List Symbol) (s : Symbol) (b : Binding) :
    Binding.declared cls mods news s (Binding.declared cls' mods' news' s b) =
      Binding.declared cls' mods' news' s (Binding.declared cls mods news s b) := by
  cases b with
  | text x => rfl
  | ofClass c =>
    by_cases here : s = cls
    · have away : s ≠ cls' := here ▸ apart
      rw [declared, declared, declared, declared, if_neg away, if_neg away]
    · rw [declared, declared, declared, declared, if_neg here, if_neg here]
  | ofModule r =>
    by_cases listed : s ∈ mods
    · by_cases listed' : s ∈ mods' <;> simp [declared, listed, listed']
    · by_cases listed' : s ∈ mods' <;> simp [declared, listed, listed']

namespace Ledger

variable {α β : Type} {L M : Ledger} {cls cls' s : Symbol} {mods : List Symbol} {f g : Rewrite}
  {u : Update α} {v : Update β}

/-- What an update answers, or why it is refused. -/
def verdict : EStateM.Result Fault Ledger α → Except Fault α
  | .ok a _ => .ok a
  | .error f _ => .error f

/-- Each of the two says the same whether it comes first or second, and the same ledger is left. -/
structure Interchange (L : Ledger) (u : Update α) (v : Update β) : Prop where
  first : verdict (u (resulting (v L))) = verdict (u L)
  second : verdict (v (resulting (u L))) = verdict (v L)
  final : resulting (u (resulting (v L))) = resulting (v (resulting (u L)))

def amend (L : Ledger) (f : Rewrite) : Ledger := ⟨L.bindings.mapIdx f⟩

theorem getElem?_amend (L : Ledger) (f : Rewrite) (s : Symbol) :
    (L.amend f).bindings[s]? = L.bindings[s]?.map (f s) := List.getElem?_mapIdx

theorem size_amend (L : Ledger) (f : Rewrite) : (L.amend f).size = L.size := List.length_mapIdx

theorem amend_none (L : Ledger) : (L.amend fun _ b => b) = L := by
  apply ext_bindings
  intro s
  rw [getElem?_amend]
  exact Option.map_id'

/-- The update rewrites both ledgers in the same way and says the same about it. -/
structure SameEffect (u : Update α) (L M : Ledger) (f : Rewrite) : Prop where
  here : resulting (u L) = L.amend f
  there : resulting (u M) = M.amend f
  verdict : verdict (u M) = verdict (u L)

theorem sameEffect_of_ok {a : α} (here : u L = .ok a (L.amend f)) (there : u M = .ok a (M.amend f)) :
    SameEffect u L M f where
  here := congrArg resulting here
  there := congrArg resulting there
  verdict := (congrArg Ledger.verdict there).trans (congrArg Ledger.verdict here).symm

theorem sameEffect_of_error {fault : Fault} (here : u L = .error fault L)
    (there : u M = .error fault M) : SameEffect u L M fun _ b => b where
  here := (congrArg resulting here).trans (amend_none L).symm
  there := (congrArg resulting there).trans (amend_none M).symm
  verdict := (congrArg Ledger.verdict there).trans (congrArg Ledger.verdict here).symm

theorem interchange_of_effects (effect : SameEffect u L (resulting (v L)) f)
    (effect' : SameEffect v L (resulting (u L)) g) (commute : ∀ s b, f s (g s b) = g s (f s b)) :
    Interchange L u v where
  first := effect.verdict
  second := effect'.verdict
  final := by
    rw [effect.there, effect'.there, effect.here, effect'.here]
    apply ext_bindings
    intro s
    rw [getElem?_amend, getElem?_amend, getElem?_amend, getElem?_amend, Option.map_map,
      Option.map_map]
    exact congrArg (Option.map · _) (funext fun b => commute s b)

theorem Named.moduleFault?_later (h : L.Named) (edits : Edits L M) (old : s < M.size → s < L.size) :
    M.moduleFault? s = L.moduleFault? s := by
  rcases Nat.lt_or_ge s L.size with given | absent
  · have twin := h.twin_self edits given
    have given' : s < M.size := by
      obtain ⟨l, -, label⟩ := twin
      exact lt_size_of_label label
    cases kind : L.isModule s with
    | true =>
      rw [moduleFault?_eq_none_iff_isModule.2 kind,
        moduleFault?_eq_none_iff_isModule.2 (twin.isModule.trans kind)]
    | false =>
      rw [moduleFault?_eq_some_iff.2 (moduleAt_of_other given kind),
        moduleFault?_eq_some_iff.2 (moduleAt_of_other given' (twin.isModule.trans kind)),
        twin.describe]
  · have absent' : M.size ≤ s := Nat.le_of_not_lt fun given => Nat.not_lt_of_ge absent (old given)
    rw [moduleFault?_eq_some_iff.2 (moduleAt_of_absent absent),
      moduleFault?_eq_some_iff.2 (moduleAt_of_absent absent')]

theorem Named.ancestors_of_kept (h : L.Named) (edits : Edits L M) (isClass : L.isClass cls = true)
    (kept : ∀ {t c}, Descends L t cls → L.classAt? t = some c → M.classAt? t = some c) :
    M.ancestors cls = L.ancestors cls := by
  obtain ⟨chain, walk⟩ := h.exists_lineage isClass
  have walk' : Lineage M cls chain := by
    apply walk.transfer
    rintro ⟨t, c⟩ mem
    exact kept (walk.exists_mem_iff.1 ⟨c, mem⟩) (walk.found mem)
  rw [h.ancestors_eq walk, (h.edits edits).ancestors_eq walk']

inductive Declaring (L : Ledger) (cls : Symbol) (mods : List Symbol) : Rewrite → Prop where
  | refused : Declaring L cls mods fun _ b => b
  | done (news : List Symbol) (modules : ∀ m ∈ mods, L.isModule m = true) :
      Declaring L cls mods (Binding.declared cls mods news)

theorem declare_of_fault (isClass : L.isClass cls = true) {fault : Fault}
    (bad : mods.findSome? L.moduleFault? = some fault) : declare cls mods L = .error fault L := by
  obtain ⟨c, found⟩ := isClass_iff_classAt.1 isClass
  rw [declare_apply, found, bad]

theorem Named.exists_effect_declare (h : L.Named) (edits : Edits L M) (isClass : L.isClass cls = true)
    (old : ∀ m ∈ mods, m < M.size → m < L.size) (same : M.ancestors cls = L.ancestors cls) :
    ∃ f, SameEffect (declare cls mods) L M f ∧ Declaring L cls mods f := by
  have faults : mods.findSome? M.moduleFault? = mods.findSome? L.moduleFault? :=
    forall₂_findSome?_eq (fun _ _ same => same)
      (List.forall₂_same.2 fun m mem => h.moduleFault?_later edits (old m mem))
  -- the check comes to the same in both ledgers: the same first fault, or none
  cases bad : mods.findSome? L.moduleFault? with
  | some fault =>
    have here := declare_of_fault isClass bad
    have there := declare_of_fault (edits.keeps_isClass isClass) (faults.trans bad)
    exact ⟨_, sameEffect_of_error here there, .refused⟩
  | none =>
    have modules : ∀ m ∈ mods, L.isModule m = true := fun m mem =>
      moduleFault?_eq_none_iff_isModule.1 (List.findSome?_eq_none_iff.1 bad m mem)
    obtain ⟨chain, walk⟩ := h.exists_lineage isClass
    have here := h.declare_eq (h.ancestors_eq walk) modules
    have there := (h.edits edits).declare_eq (same.trans (h.ancestors_eq walk)) fun m mem =>
      edits.keeps_isModule (modules m mem)
    exact ⟨_, sameEffect_of_ok here there, .done _ modules⟩

theorem Named.size_declare (h : L.Named) (isClass : L.isClass cls = true) (mods : List Symbol) :
    (resulting (declare cls mods L)).size = L.size := by
  have still : ∀ m ∈ mods, m < L.size → m < L.size := fun _ _ given => given
  obtain ⟨f, effect, -⟩ := h.exists_effect_declare .refl isClass still rfl
  rw [effect.here, size_amend]

theorem Named.exists_effect_declare_apart (h : L.Named) (isClass : L.isClass cls = true)
    (isClass' : L.isClass cls' = true) (apart : ¬ Descends L cls' cls) (xs ys : List Symbol) :
    ∃ f, SameEffect (declare cls xs) L (resulting (declare cls' ys L)) f ∧ Declaring L cls xs f := by
  apply h.exists_effect_declare (declare_edits L cls' ys) isClass
  · intro m _ given
    rwa [h.size_declare isClass'] at given
  · apply h.ancestors_of_kept (declare_edits L cls' ys) isClass
    intro t c above found
    have elsewhere : cls' ≠ t := fun here => apart (here ▸ above)
    exact declare_keeps_class elsewhere ys found

/-- Declarations on two classes, neither of which has the other among its superclasses, may be made in
    either order, also when they have modules in common and when one or both are refused. -/
theorem independent_declarations_commute {L : Ledger} {cls cls' : Symbol} (h : Reachable L)
    (isClass : L.isClass cls = true) (isClass' : L.isClass cls' = true)
    (apart : ¬ Descends L cls cls') (apart' : ¬ Descends L cls' cls) (xs ys : List Symbol) :
    Interchange L (declare cls xs) (declare cls' ys) := by
  obtain ⟨f, effect, kind⟩ := h.named.exists_effect_declare_apart isClass isClass' apart' xs ys
  obtain ⟨g, effect', kind'⟩ := h.named.exists_effect_declare_apart isClass' isClass apart ys xs
  refine interchange_of_effects effect effect' fun s b => ?_
  have different : cls ≠ cls' := by
    rintro rfl
    exact apart (.self isClass)
  cases kind with
  | refused => rfl
  | done news _ =>
    cases kind' with
    | refused => rfl
    | done news' _ => exact Binding.declared_comm different xs ys news news' s b

def kitchen : Ledger := stockedHousehold.after (.operation (.defineClass { name := "Kettle" }))

theorem reachable_kitchen : Reachable kitchen := reachable_stockedHousehold.step _

theorem independent_declarations_commute_kitchen :
    Reachable kitchen ∧ kitchen.isClass 11 = true ∧ kitchen.isClass 19 = true ∧
      ¬ Descends kitchen 11 19 ∧ ¬ Descends kitchen 19 11 ∧
      Interchange kitchen (declare 11 [16, 1, 13]) (declare 19 [13, 1, 16]) := by
  have lamp : kitchen.isClass 11 = true := by cbv
  have kettle : kitchen.isClass 19 = true := by cbv
  have lampWalk : kitchen.ancestors 11 =
      .ok [.ofClass 11, .ofClass 9, .ofModule 1, .ofModule 6] := by cbv
  have kettleWalk : kitchen.ancestors 19 = .ok [.ofClass 19] := by cbv
  have apart : ¬ Descends kitchen 11 19 := by
    rw [← reachable_kitchen.named.ofClass_mem_ancestors_iff kettleWalk]
    decide
  have apart' : ¬ Descends kitchen 19 11 := by
    rw [← reachable_kitchen.named.ofClass_mem_ancestors_iff lampWalk]
    decide
  exact ⟨reachable_kitchen, lamp, kettle, apart, apart',
    independent_declarations_commute reachable_kitchen lamp kettle apart apart' _ _⟩

end Ledger

end InterfaceLedger
