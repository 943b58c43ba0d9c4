import InterfaceLedger.Proofs.Attachment
import InterfaceLedger.Proofs.Resolution
import Mathlib

/-!
Which of several declared modules wins. A module stands where the list has it for the last time, so
among those with a method of some name it is the last mentions that decide: the module that is listed
first wins unless another one is listed for the last time before it is listed again. Without
repetitions nothing of that kind can happen.
-/
namespace InterfaceLedger

namespace Ledger

variable {L : Ledger} {cls mod winner : Symbol} {mods news : List Symbol} {owners : List Owner}
  {name : String}

/-- Another module with the method is listed for the last time while `mod` is still to come. -/
def Overtaken (L : Ledger) (mods : List Symbol) (name : String) (mod : Symbol) : Prop :=
  ∃ before rival after, mods = before ++ rival :: after ∧
    L.holds name (.ofModule rival) = true ∧ rival ∉ after ∧ mod ∈ after

theorem not_overtaken_nil : ¬ L.Overtaken [] name mod := by
  rintro ⟨before, rival, after, split, -⟩
  simp at split

theorem overtaken_cons_iff {m : Symbol} :
    L.Overtaken (m :: mods) name mod ↔
      (L.holds name (.ofModule m) = true ∧ m ∉ mods ∧ mod ∈ mods) ∨ L.Overtaken mods name mod := by
  constructor
  · rintro ⟨before, rival, after, split, held, last, later⟩
    cases before with
    | nil =>
      cases split
      exact .inl ⟨held, last, later⟩
    | cons k before =>
      cases split
      exact .inr ⟨before, rival, after, rfl, held, last, later⟩
  · rintro (⟨held, last, later⟩ | ⟨before, rival, after, rfl, held, last, later⟩)
    · exact ⟨[], m, mods, rfl, held, last, later⟩
    · exact ⟨m :: before, rival, after, rfl, held, last, later⟩

theorem Overtaken.mem (h : L.Overtaken mods name mod) : mod ∈ mods := by
  obtain ⟨before, rival, after, rfl, -, -, later⟩ := h
  simp [later]

theorem find?_newcomers_eq_some_iff (new : ∀ m ∈ mods, .ofModule m ∉ owners) :
    (newcomers owners mods).find? (fun m => L.holds name (.ofModule m)) = some winner ↔
      winner ∈ mods ∧ L.holds name (.ofModule winner) = true ∧
        ¬ L.Overtaken mods name winner := by
  induction mods with
  | nil => simp [newcomers]
  | cons m rest ih =>
    have others := ih fun k mem => new k (List.mem_cons_of_mem m mem)
    have fresh : .ofModule m ∉ owners := new m List.mem_cons_self
    rw [newcomers, overtaken_cons_iff]
    by_cases again : m ∈ rest
    · -- what is listed again further on counts there
      rw [if_pos (.inr again), others, List.mem_cons]
      constructor
      · rintro ⟨mem, held, free⟩
        refine ⟨.inr mem, held, ?_⟩
        rintro (⟨-, last, -⟩ | overtaken)
        · exact last again
        · exact free overtaken
      · rintro ⟨rfl | mem, held, free⟩
        · exact ⟨again, held, fun overtaken => free (.inr overtaken)⟩
        · exact ⟨mem, held, fun overtaken => free (.inr overtaken)⟩
    · rw [if_neg (not_or.2 ⟨fresh, again⟩), List.find?_cons, List.mem_cons]
      cases here : L.holds name (.ofModule m) with
      | true =>
        -- listed for the last time and with the method, it overtakes all that are still to come
        constructor
        · rintro ⟨rfl⟩
          refine ⟨.inl rfl, here, ?_⟩
          rintro (⟨-, -, later⟩ | overtaken)
          · exact again later
          · exact again overtaken.mem
        · rintro ⟨rfl | later, held, free⟩
          · rfl
          · exact absurd (.inl ⟨rfl, again, later⟩) free
      | false =>
        rw [others]
        constructor
        · rintro ⟨mem, held, free⟩
          refine ⟨.inr mem, held, ?_⟩
          rintro (⟨⟨⟩, -⟩ | overtaken)
          exact free overtaken
        · rintro ⟨rfl | mem, held, free⟩
          · cases here.symm.trans held
          · exact ⟨mem, held, fun overtaken => free (.inr overtaken)⟩

theorem not_overtaken_of_nodup (distinct : mods.Nodup)
    (first : mods.find? (fun m => L.holds name (.ofModule m)) = some mod) :
    ¬ L.Overtaken mods name mod := by
  rintro ⟨before, rival, after, rfl, held, -, later⟩
  have split : before ++ rival :: after = (before ++ [rival]) ++ after := by simp
  rw [split] at distinct first
  have early : mod ∈ before ++ [rival] := by
    rw [List.find?_append] at first
    cases found : (before ++ [rival]).find? (fun m => L.holds name (.ofModule m)) with
    | some k =>
      rw [found] at first
      cases first
      exact List.mem_of_find?_eq_some found
    | none => exact absurd held (List.find?_eq_none.1 found rival (by simp))
  exact List.disjoint_of_nodup_append distinct early later

theorem tableOf_declared (L : Ledger) (cls : Symbol) (mods news : List Symbol) (o : Owner) :
    (L.declared cls mods news).tableOf o = L.tableOf o := by
  cases o with
  | ofClass s =>
    rw [tableOf_ofClass, tableOf_ofClass, classAt?_declared]
    cases L.classAt? s with
    | none => rfl
    | some c => exact (apply_ite ClassRecord.table _ _ _).trans (ite_self _)
  | ofModule s =>
    rw [tableOf_ofModule, tableOf_ofModule, moduleAt?_declared]
    cases L.moduleAt? s with
    | none => rfl
    | some m => exact (apply_ite ModuleRecord.table _ _ _).trans (ite_self _)
  | singleton => rfl

theorem Sound.holds_declared (h : L.Sound) (cls : Symbol) (mods news : List Symbol) (name : String)
    (o : Owner) : (L.declared cls mods news).holds name o = L.holds name o :=
  h.tabled.holds_eq (fun text => ((alike_declared L cls mods news).text _).trans text)
    (tableOf_declared L cls mods news o) name

theorem Named.exists_ancestors_declared (h : L.Named) (isClass : L.isClass cls = true)
    (mods news : List Symbol) :
    ∃ rest, (L.declared cls mods news).ancestors cls =
      .ok (.ofClass cls :: (news.map .ofModule ++ rest)) := by
  have alike := alike_declared L cls mods news
  obtain ⟨c, found⟩ := isClass_iff.1 isClass
  have record := (classAt?_declared L cls mods news cls).trans (congrArg _ found)
  rw [Option.map_some, if_pos rfl] at record
  obtain ⟨chain, lineage⟩ := (h.of_alike alike).exists_lineage ((alike.isClass cls).trans isClass)
  have walk := (h.of_alike alike).ancestors_eq lineage
  obtain ⟨above, split⟩ := (h.of_alike alike).exists_above walk record
  refine ⟨c.includes.map .ofModule ++ above, ?_⟩
  rw [walk, split, ownersOf, List.map_append, List.cons_append, List.append_assoc]

theorem holder?_of_newcomer {rest : List Owner} (own : L.holds name (.ofClass cls) = false)
    (first : news.find? (fun m => L.holds name (.ofModule m)) = some winner) :
    L.holder? (.ofClass cls :: (news.map .ofModule ++ rest)) name = some (.ofModule winner) := by
  rw [holder?, List.find?_cons, own, List.find?_append, List.find?_map]
  change (Option.map _ (news.find? fun m => L.holds name (.ofModule m))).or _ = _
  rw [first]
  rfl

theorem Sound.classResolve_declared (h : L.Sound) (later : (L.declared cls mods news).Sound)
    (isClass : L.isClass cls = true) (own : L.holds name (.ofClass cls) = false)
    (first : news.find? (fun m => L.holds name (.ofModule m)) = some winner) :
    ∃ owners e, (L.declared cls mods news).ancestors cls = .ok owners ∧
      (L.declared cls mods news).classResolve cls name = .ok (some e) ∧
      FirstHeld (L.declared cls mods news) owners name e ∧ e.owner = .ofModule winner := by
  obtain ⟨rest, walk⟩ := h.named.exists_ancestors_declared isClass mods news
  have holder : (L.declared cls mods news).holder? (.ofClass cls :: (news.map .ofModule ++ rest))
      name = some (.ofModule winner) := by
    apply holder?_of_newcomer
    · exact (h.holds_declared cls mods news name _).trans own
    · simp only [h.holds_declared, first]
  have resolved := later.classResolve_eq_find? walk name
  obtain ⟨e, found⟩ := Option.isSome_iff_exists.1 (isSome_find?_rows.2
    ⟨_, List.mem_of_find?_eq_some holder, List.find?_some holder⟩)
  have held := later.firstHeld_of_find? found
  rw [found] at resolved
  exact ⟨_, e, walk, resolved, held, Option.some.inj (held.holder?.symm.trans holder)⟩

/-- A declaration of modules that are new to a class, some of them with a method that the class has
    not. The method that is found is that of a module which none of the others overtakes. So it is
    that of the module listed first unless that one is overtaken, which takes a repetition. -/
theorem first_listed_wins_iff_not_overtaken {L : Ledger} {cls mod : Symbol} {mods : List Symbol}
    {owners : List Owner} {name : String} (h : Reachable L) (walk : L.ancestors cls = .ok owners)
    (modules : ∀ m ∈ mods, L.isModule m = true) (new : ∀ m ∈ mods, .ofModule m ∉ owners)
    (own : L.holds name (.ofClass cls) = false)
    (first : mods.find? (fun m => L.holds name (.ofModule m)) = some mod) :
    ∃ M owners' e, declare cls mods L = .ok () M ∧ M.ancestors cls = .ok owners' ∧
      M.classResolve cls name = .ok (some e) ∧ FirstHeld M owners' name e ∧
      (∃ winner ∈ mods, e.owner = .ofModule winner ∧ ¬ L.Overtaken mods name winner) ∧
      (e.owner = .ofModule mod ↔ ¬ L.Overtaken mods name mod) ∧
      (mods.Nodup → ¬ L.Overtaken mods name mod) := by
  have done := h.named.declare_eq walk modules
  have edits := declare_edits L cls mods
  rw [done] at edits
  obtain ⟨c, found⟩ := exists_class_of_ancestors walk
  have isClass : L.isClass cls = true := isClass_iff_classAt.2 ⟨c, found⟩
  have listed : mod ∈ mods := List.mem_of_find?_eq_some first
  have held := List.find?_some first
  obtain ⟨winner, wins⟩ : ∃ winner,
      (newcomers owners mods).find? (fun m => L.holds name (.ofModule m)) = some winner := by
    rw [← Option.isSome_iff_exists, List.find?_isSome]
    exact ⟨mod, mem_newcomers_iff.2 ⟨listed, new mod listed⟩, held⟩
  obtain ⟨mem, -, free⟩ := (find?_newcomers_eq_some_iff new).1 wins
  obtain ⟨owners', e, walk', resolved, place, owner⟩ :=
    h.sound.classResolve_declared (h.sound.edits edits) isClass own wins
  refine ⟨_, owners', e, done, walk', resolved, place, ⟨winner, mem, owner, free⟩, ?_,
    fun distinct => not_overtaken_of_nodup distinct first⟩
  constructor
  · intro same
    cases owner.symm.trans same
    exact free
  · intro ahead
    have chosen := (find?_newcomers_eq_some_iff new).2 ⟨listed, held, ahead⟩
    cases wins.symm.trans chosen
    exact owner

theorem first_listed_wins_iff_not_overtaken_stockedHousehold :
    Reachable stockedHousehold ∧
      stockedHousehold.ancestors 11 = .ok [.ofClass 11, .ofClass 9, .ofModule 1, .ofModule 6] ∧
      stockedHousehold.holds "start" (.ofModule 16) = true ∧
      ∃ M e, declare 11 [13, 13, 16] stockedHousehold = .ok () M ∧
        M.classResolve 11 "start" = .ok (some e) ∧ e.owner = .ofModule 13 := by
  have kinds : [13, 13, 16].all stockedHousehold.isModule = true := by cbv
  have own : stockedHousehold.holds "start" (.ofClass 11) = false := by cbv
  have heater : stockedHousehold.holds "start" (.ofModule 16) = true := by cbv
  have first : [13, 13, 16].find? (fun m => stockedHousehold.holds "start" (.ofModule m)) =
      some 13 := by cbv
  obtain ⟨M, owners', e, done, -, resolved, -, -, wins, -⟩ :=
    first_listed_wins_iff_not_overtaken reachable_stockedHousehold ancestors_stockedHousehold
      (List.all_eq_true.1 kinds) (by decide) own first
  have ahead : ¬ stockedHousehold.Overtaken [13, 13, 16] "start" 13 := by
    simp [overtaken_cons_iff, not_overtaken_nil]
  exact ⟨reachable_stockedHousehold, ancestors_stockedHousehold, heater, M, e, done, resolved,
    wins.2 ahead⟩

/-- The timer is listed first and once more at the end, so the `start` of the heater is found. -/
theorem start_of_second_listed_found :
    ∃ M e, Reachable stockedHousehold ∧ stockedHousehold.isClass 11 = true ∧
      (∀ m ∈ [13, 16, 13], stockedHousehold.isModule m = true) ∧
      stockedHousehold.ancestors 11 = .ok [.ofClass 11, .ofClass 9, .ofModule 1, .ofModule 6] ∧
      stockedHousehold.holds "start" (.ofClass 11) = false ∧
      [13, 16, 13].find? (fun m => stockedHousehold.holds "start" (.ofModule m)) = some 13 ∧
      declare 11 [13, 16, 13] stockedHousehold = .ok () M ∧
      M.classResolve 11 "start" = .ok (some e) ∧ e.owner ≠ .ofModule 13 := by
  have isClass : stockedHousehold.isClass 11 = true := by cbv
  have kinds : [13, 16, 13].all stockedHousehold.isModule = true := by cbv
  have own : stockedHousehold.holds "start" (.ofClass 11) = false := by cbv
  have first : [13, 16, 13].find? (fun m => stockedHousehold.holds "start" (.ofModule m)) =
      some 13 := by cbv
  have modules : ∀ m ∈ [13, 16, 13], stockedHousehold.isModule m = true :=
    List.all_eq_true.1 kinds
  have done := reachable_stockedHousehold.named.declare_eq ancestors_stockedHousehold modules
  have found : (stockedHousehold.declared 11 [13, 16, 13] [16, 13]).classResolve 11 "start" =
      .ok (some (({ name := "start" } : MethodDecl).toEntry 14 (.ofModule 16))) := by cbv
  exact ⟨_, _, reachable_stockedHousehold, isClass, modules, ancestors_stockedHousehold, own, first,
    done, found, by simp [MethodDecl.toEntry]⟩

end Ledger

end InterfaceLedger
