import InterfaceLedger.Proofs.Attachment
import InterfaceLedger.Proofs.Lookup
import Mathlib

/-!
Declarations that follow each other. The modules of a list are attached from the last to the first, so
a list may be cut anywhere: its end declared first and its beginning after that come to the same as the
whole list at once. What a class has declared is among its ancestors for good, and to declare it again
changes nothing.
-/
namespace InterfaceLedger

namespace Ledger

variable {L M : Ledger} {cls mod : Symbol} {mods xs ys : List Symbol} {owners : List Owner}

theorem Named.declare_append (h : L.Named) (isClass : L.isClass cls = true)
    (front : ∀ m ∈ xs, L.isModule m = true) (back : ∀ m ∈ ys, L.isModule m = true) :
    ∃ M N, declare cls ys L = .ok () M ∧ declare cls xs M = .ok () N ∧
      declare cls (xs ++ ys) L = .ok () N := by
  obtain ⟨M, first⟩ := h.declare_ok isClass back
  have edits := edits_of_declare first
  have isClass' := edits.keeps_isClass isClass
  have front' : ∀ m ∈ xs, M.isModule m = true := fun m mem => edits.keeps_isModule (front m mem)
  obtain ⟨N, second⟩ := (h.edits edits).declare_ok isClass' front'
  refine ⟨M, N, first, second, ?_⟩
  have all : ∀ m ∈ xs ++ ys, L.isModule m = true := fun m mem =>
    (List.mem_append.1 mem).elim (front m) (back m)
  rw [declare_eq_forM isClass back] at first
  rw [declare_eq_forM isClass' front'] at second
  rw [declare_eq_forM isClass all, List.reverse_append, forM_append_apply first, second]

theorem newcomers_of_known (known : ∀ m ∈ mods, .ofModule m ∈ owners) :
    newcomers owners mods = [] := by
  rw [List.eq_nil_iff_forall_not_mem]
  intro m new
  obtain ⟨listed, absent⟩ := mem_newcomers_iff.1 new
  exact absent (known m listed)

theorem Sound.declare_known (h : L.Sound) (walk : L.ancestors cls = .ok owners)
    (known : ∀ m ∈ mods, .ofModule m ∈ owners) : declare cls mods L = .ok () L := by
  have faces : ∀ m ∈ mods, L.isInterface m = true := fun m mem =>
    h.composed.isInterface_of_mem h.named walk (known m mem)
  have modules : ∀ m ∈ mods, L.isModule m = true := by
    intro m mem
    obtain ⟨r, found, -⟩ := isInterface_iff.1 (faces m mem)
    exact isModule_iff.2 ⟨r, found⟩
  rw [h.named.declare_eq walk modules, newcomers_of_known known, declared_of_interfaces faces]

theorem Named.mem_ancestors_of_declare (h : L.Named) (done : declare cls mods L = .ok () M)
    (walk : M.ancestors cls = .ok owners) (listed : mod ∈ mods) : .ofModule mod ∈ owners := by
  obtain ⟨isClass, modules⟩ := arguments_of_declare done
  obtain ⟨chain, lineage⟩ := h.exists_lineage isClass
  have before := h.ancestors_eq lineage
  cases (h.declare_eq before modules).symm.trans done
  rw [h.mem_ancestors_declared_iff before walk, mem_newcomers_iff]
  by_cases old : .ofModule mod ∈ chain.flatMap ownersOf
  · exact .inr old
  · exact .inl ⟨listed, old⟩

theorem Sound.declare_again (h : L.Sound) {N : Ledger} (done : declare cls xs L = .ok () M)
    (later : Edits M N) (known : ys ⊆ xs) : declare cls ys N = .ok () N := by
  have edits := edits_of_declare done
  have sound := h.edits edits
  have isClass := edits.keeps_isClass (arguments_of_declare done).1
  obtain ⟨owners, walk⟩ := sound.exists_ancestors isClass
  obtain ⟨owners', walk'⟩ := (sound.edits later).exists_ancestors (later.keeps_isClass isClass)
  apply (sound.edits later).declare_known walk'
  intro m mem
  have declared := h.named.mem_ancestors_of_declare done walk (known mem)
  exact sound.named.mem_ancestors_below walk declared later (.self (later.keeps_isClass isClass)) walk'

theorem reachable_of_declare (h : Reachable L) (done : declare cls mods L = .ok () M) :
    Reachable M := by
  have next := h.step (.operation (.declare cls mods))
  rwa [after_eq_resulting, Operation.run, resulting_map, done] at next

/-- To declare two lists one after the other is to declare them as one list, with the later one in
    front, whatever they have in common. And once a list is declared, none of its modules makes a
    difference any more, in whatever order and how often it is declared again, then or later. -/
theorem declarations_compose {L : Ledger} {cls : Symbol} {xs ys : List Symbol} (h : Reachable L)
    (isClass : L.isClass cls = true) (modules : ∀ m ∈ xs ++ ys, L.isModule m = true) :
    (∃ M N, declare cls ys L = .ok () M ∧ declare cls xs M = .ok () N ∧
      declare cls (xs ++ ys) L = .ok () N) ∧
    ∃ M, declare cls xs L = .ok () M ∧ ∀ events zs, zs ⊆ xs →
      declare cls zs (M.afterAll events) = .ok () (M.afterAll events) := by
  have front : ∀ m ∈ xs, L.isModule m = true := fun m mem =>
    modules m (List.mem_append_left ys mem)
  have back : ∀ m ∈ ys, L.isModule m = true := fun m mem =>
    modules m (List.mem_append_right xs mem)
  refine ⟨h.named.declare_append isClass front back, ?_⟩
  obtain ⟨M, done⟩ := h.named.declare_ok isClass front
  refine ⟨M, done, fun events zs known => ?_⟩
  exact h.sound.declare_again done ((reachable_of_declare h done).afterAll_edits events) known

theorem declarations_compose_stockedHousehold :
    Reachable stockedHousehold ∧ stockedHousehold.isClass 11 = true ∧
      (∀ m ∈ [16, 13] ++ [13, 1, 13], stockedHousehold.isModule m = true) ∧
      (∃ M N, declare 11 [13, 1, 13] stockedHousehold = .ok () M ∧
        declare 11 [16, 13] M = .ok () N ∧
        declare 11 ([16, 13] ++ [13, 1, 13]) stockedHousehold = .ok () N ∧
        N.includesOf 11 = [16, 13]) ∧
      ∃ M, declare 11 [16, 13] stockedHousehold = .ok () M ∧
        declare 11 [13, 16, 13] (M.afterAll [.operation (.declare 9 [16])]) =
          .ok () (M.afterAll [.operation (.declare 9 [16])]) := by
  have isClass : stockedHousehold.isClass 11 = true := by cbv
  have kinds : ([16, 13] ++ [13, 1, 13]).all stockedHousehold.isModule = true := by cbv
  have modules : ∀ m ∈ [16, 13] ++ [13, 1, 13], stockedHousehold.isModule m = true :=
    List.all_eq_true.1 kinds
  obtain ⟨⟨M, N, first, second, whole⟩, P, done, again⟩ :=
    declarations_compose reachable_stockedHousehold isClass modules
  have front : N.includesOf 11 = [16, 13] := by
    have whole' := reachable_stockedHousehold.named.declare_eq ancestors_stockedHousehold modules
    cases whole'.symm.trans whole
    cbv
  exact ⟨reachable_stockedHousehold, isClass, modules, ⟨M, N, first, second, whole, front⟩,
    P, done, again _ [13, 16, 13] (by decide)⟩

end Ledger

end InterfaceLedger
