import InterfaceLedger.Proofs.Precedence
import InterfaceLedger.Proofs.Redefinition
import Mathlib

/-!
What a declaration hides. The modules that are new to a class come into the search right behind it,
for the class and for every class below. So a search ends where it ended before, or else at one of the
newcomers, and to end at another interface counts as an implementation: no other interface is left
with a gap that it did not have.
-/
namespace InterfaceLedger

namespace Ledger

variable {L : Ledger} {cls sub face s : Symbol} {mods news : List Symbol} {owners : List Owner}
  {handler : Option Handler} {x : String} {chain : List (Symbol × ClassRecord)}

/-- An owner, and behind the class the modules that are new to it. -/
def widen (cls : Symbol) (news : List Symbol) (o : Owner) : List Owner :=
  o :: if o = .ofClass cls then news.map .ofModule else []

theorem ownersOf_declared (cls s : Symbol) (news : List Symbol) (c : ClassRecord) :
    ownersOf (s, if s = cls then { c with includes := news ++ c.includes } else c) =
      (ownersOf (s, c)).flatMap (widen cls news) := by
  have modules : (c.includes.map Owner.ofModule).flatMap (widen cls news) =
      c.includes.map .ofModule := by
    rw [List.flatMap_map, List.map_eq_flatMap]
    rfl
  rw [ownersOf, ownersOf, List.flatMap_cons, modules, widen]
  by_cases here : s = cls
  · simp [here]
  · simp [here]

theorem Lineage.declared (walk : Lineage L s chain) (cls : Symbol) (mods news : List Symbol) :
    ∃ chain', Lineage (L.declared cls mods news) s chain' ∧
      chain'.flatMap ownersOf = (chain.flatMap ownersOf).flatMap (widen cls news) ∧
      chain'.findSome? (·.2.handler) = chain.findSome? (·.2.handler) := by
  have parent : ∀ s (c : ClassRecord),
      (if s = cls then { c with includes := news ++ c.includes } else c).parent = c.parent :=
    fun _ _ => (apply_ite ClassRecord.parent _ _ _).trans (ite_self _)
  have handler : ∀ s (c : ClassRecord),
      (if s = cls then { c with includes := news ++ c.includes } else c).handler = c.handler :=
    fun _ _ => (apply_ite ClassRecord.handler _ _ _).trans (ite_self _)
  induction walk with
  | @root s c found top =>
    have record := (classAt?_declared L cls mods news s).trans (congrArg _ found)
    refine ⟨_, .root record ((parent s c).trans top), ?_, ?_⟩
    · rw [List.flatMap_singleton, List.flatMap_singleton, ownersOf_declared]
    · rw [List.findSome?_singleton, List.findSome?_singleton, handler]
  | @step s p c rest found super _ ih =>
    have record := (classAt?_declared L cls mods news s).trans (congrArg _ found)
    obtain ⟨rest', tail', owners, above⟩ := ih
    refine ⟨_, .step record ((parent s c).trans super) tail', ?_, ?_⟩
    · rw [List.flatMap_cons, List.flatMap_cons, List.flatMap_append, owners, ownersOf_declared]
    · rw [List.findSome?_cons, List.findSome?_cons, handler, above]

theorem Ascent.declared (ascent : Ascent L sub owners handler) (h : L.Named) (cls : Symbol)
    (mods news : List Symbol) :
    Ascent (L.declared cls mods news) sub (owners.flatMap (widen cls news)) handler := by
  obtain ⟨chain, walk, rfl⟩ := h.ancestors_eq_ok_iff.1 ascent.ancestors
  cases (h.handlerFor_eq walk).symm.trans ascent.handled
  obtain ⟨chain', walk', owners, handler⟩ := walk.declared cls mods news
  have ascent' := (h.of_alike (alike_declared L cls mods news)).ascent walk'
  rwa [owners, handler] at ascent'

theorem find?_widen (p : Owner → Bool) (owners : List Owner) :
    (owners.flatMap (widen cls news)).find? p = owners.find? p ∨
      ∃ m ∈ news, (owners.flatMap (widen cls news)).find? p = some (.ofModule m) := by
  induction owners with
  | nil => exact .inl rfl
  | cons o rest ih =>
    rw [List.flatMap_cons, widen, List.cons_append, List.find?_cons, List.find?_cons]
    cases p o with
    | true => exact .inl rfl
    | false =>
      dsimp only
      rw [List.find?_append]
      cases found : (if o = .ofClass cls then news.map Owner.ofModule else []).find? p with
      | none => exact ih
      | some a =>
        have mem := List.mem_of_find?_eq_some found
        split at mem
        · obtain ⟨m, new, rfl⟩ := List.mem_map.1 mem
          exact .inr ⟨m, new, rfl⟩
        · cases mem

theorem Sound.unserved_declared_iff (h : L.Sound) (old : face ∉ news) :
    (L.declared cls mods news).Unserved (owners.flatMap (widen cls news)) face x ↔
      L.Unserved owners face x ∧ ∀ m ∈ news,
        (L.declared cls mods news).holder? (owners.flatMap (widen cls news)) x ≠
          some (.ofModule m) := by
  have same : (L.declared cls mods news).holds x = L.holds x :=
    funext (h.holds_declared cls mods news x)
  rw [Unserved, Unserved, holder?, holder?, same]
  -- the longer search ends where the shorter one did, or at a newcomer before that
  rcases find?_widen (L.holds x) owners with unchanged | ⟨m, new, hidden⟩
  · rw [unchanged, iff_self_and]
    rintro (own | nowhere) m new found
    · cases own.symm.trans found
      exact old new
    · cases nowhere.symm.trans found
  · rw [hidden]
    refine iff_of_false ?_ fun both => both.2 m new rfl
    rintro (own | nowhere)
    · cases own
      exact old new
    · cases nowhere

theorem Sound.mem_lacking_declared_iff (h : L.Sound) (later : (L.declared cls mods news).Sound)
    (ascent : Ascent L sub owners handler) (old : face ∉ news) :
    x ∈ (L.declared cls mods news).lacking (owners.flatMap (widen cls news)) ∅ handler face ↔
      x ∈ L.lacking owners ∅ handler face ∧ ∀ m ∈ news,
        (L.declared cls mods news).holder? (owners.flatMap (widen cls news)) x ≠
          some (.ofModule m) := by
  have ascent' := ascent.declared h.named cls mods news
  have declares : (L.declared cls mods news).Declares face x ↔ L.Declares face x :=
    h.tabled.declares_iff (declared_spec L cls mods news).texts (tableOf_declared L cls mods news _)
  rw [ascent'.mem_lacking_iff later, ascent.mem_lacking_iff h, declares,
    uncaught_iff ascent'.nearest, uncaught_iff ascent.nearest, h.unserved_declared_iff old]
  tauto

/-- A declaration takes names out of the gap of any class against an interface that it does not
    mention, and puts none in. The names that go are those that are resolved now to a module that the
    declaration has attached. -/
theorem declaration_opens_no_gap {L M : Ledger} {cls sub face : Symbol} {mods : List Symbol}
    (h : Reachable L) (done : declare cls mods L = .ok () M) (isClass : L.isClass sub = true)
    (interface : L.isInterface face = true) (unlisted : face ∉ mods) :
    ∃ news before after, M.includesOf cls = news ++ L.includesOf cls ∧
      L.gap sub ∅ face = .ok before ∧ M.gap sub ∅ face = .ok after ∧ after.Sublist before ∧
      ∀ name ∈ before, name ∉ after ↔
        ∃ mod ∈ news, ∃ e, M.classResolve sub name = .ok (some e) ∧ e.owner = .ofModule mod := by
  have sound := h.sound
  obtain ⟨target, modules⟩ := arguments_of_declare done
  obtain ⟨owners, walk⟩ := sound.exists_ancestors target
  have edits := declare_edits L cls mods
  rw [done] at edits
  cases (h.named.declare_eq walk modules).symm.trans done
  have later : (L.declared cls mods (newcomers owners mods)).Sound := sound.edits edits
  have old : face ∉ newcomers owners mods := fun new => unlisted (mem_newcomers_iff.1 new).1
  obtain ⟨chain, lineage⟩ := h.named.exists_lineage isClass
  have ascent := h.named.ascent lineage
  have ascent' := ascent.declared h.named cls mods (newcomers owners mods)
  have kept := fun name => sound.mem_lacking_declared_iff (x := name) later ascent old
  refine ⟨newcomers owners mods, _, _, ?_, sound.gap_eq interface ascent.ancestors ascent.handled,
    later.gap_eq (edits.keeps_interface interface) ascent'.ancestors ascent'.handled, ?_, ?_⟩
  · exact (includesOf_declared target _ _ cls).trans (if_pos rfl)
  · apply sublist_of_sorted later.pairwise_lacking sound.pairwise_lacking
    intro name mem
    exact ((kept name).1 mem).1
  · intro name mem
    rw [kept name, and_iff_right mem]
    simp only [later.exists_resolved_iff ascent'.ancestors, ne_eq, not_forall, not_not, exists_prop]

def fusedHousehold : Ledger :=
  household.afterAll
    [.operation (.defineModule { name := "Fuse", methods := [{ name := "off" }] })]

theorem declaration_opens_no_gap_fusedHousehold :
    ∃ M e, Reachable fusedHousehold ∧ declare 9 [13] fusedHousehold = .ok () M ∧
      fusedHousehold.isClass 11 = true ∧ fusedHousehold.isInterface 1 = true ∧
      fusedHousehold.gap 11 ∅ 1 = .ok ["off"] ∧ M.gap 11 ∅ 1 = .ok [] ∧
      M.classResolve 11 "off" = .ok (some e) ∧ e.owner = .ofModule 13 := by
  have reachable : Reachable fusedHousehold := reachable_household.afterAll _
  have walk : fusedHousehold.ancestors 9 = .ok [.ofClass 9, .ofModule 1, .ofModule 6] := by cbv
  have fuse : fusedHousehold.isModule 13 = true := by cbv
  have isClass : fusedHousehold.isClass 11 = true := by cbv
  have interface : fusedHousehold.isInterface 1 = true := by cbv
  have before : fusedHousehold.gap 11 ∅ 1 = .ok ["off"] := by cbv
  have after : (fusedHousehold.declared 9 [13] [13]).gap 11 ∅ 1 = .ok [] := by cbv
  have front : (fusedHousehold.declared 9 [13] [13]).includesOf 9 =
      [13] ++ fusedHousehold.includesOf 9 := by cbv
  have done : declare 9 [13] fusedHousehold = .ok () (fusedHousehold.declared 9 [13] [13]) :=
    reachable.named.declare_eq walk (by simpa using fuse)
  obtain ⟨news, before', after', front', gap, gap', -, gone⟩ :=
    declaration_opens_no_gap reachable done isClass interface (by decide)
  cases before.symm.trans gap
  cases after.symm.trans gap'
  cases List.append_cancel_right (front.symm.trans front')
  obtain ⟨mod, mem, e, resolved, owner⟩ := (gone "off" (by simp)).1 (by simp)
  cases List.mem_singleton.1 mem
  exact ⟨_, e, reachable, done, isClass, interface, before, after, resolved, owner⟩

end Ledger

end InterfaceLedger
