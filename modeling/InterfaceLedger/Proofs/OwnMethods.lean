import InterfaceLedger.Proofs.Gaps
import InterfaceLedger.Proofs.Resolution
import Mathlib

/-!
Gaps of an instance. A method of its own is found before all others and belongs to no interface, so
whatever the instance has a method for is not missing. For any other name the instance lacks what its
class lacks. Only the symbol of a name counts, also where another ledger gave the instance its methods.
-/
namespace InterfaceLedger

theorem filter_map_filter {α : Type} {p : α → Bool} {g : α → α} (within : ∀ a, p (g a) → p a)
    (l : List α) : ((l.filter p).map g).filter p = (l.map g).filter p := by
  rw [List.filter_map, List.filter_filter, List.filter_map]
  congr 1
  apply List.filter_congr
  intro a _
  cases led : p (g a) with
  | true => simp [led, within a led]
  | false => simp [led]

namespace Ledger

variable {L : Ledger} {own : MethodTable} {s : Symbol} {name : String}

def keyed (L : Ledger) (own : MethodTable) (name : String) : Bool :=
  (L.textSymbol? name).any own.contains

/-- The names that the table has no entry for. -/
def unkeyed (L : Ledger) (own : MethodTable) (names : List String) : List String :=
  names.filter (!L.keyed own ·)

theorem keyed_of_text (h : L.Named) (text : L.textAt? s = some name) (own : MethodTable) :
    L.keyed own name = own.contains s := by
  rw [keyed, h.textSymbol?_eq_some_iff.2 text, Option.any_some]

section Own

variable (singletons : ∀ e ∈ own.toList, e.owner = .singleton)

include singletons

theorem lacks_own (owners : List Owner) (handler : Option Handler) (face s : Symbol) :
    L.lacks owners own handler face s =
      (L.lacks owners ∅ handler face s && !own.contains s) := by
  rw [lacks, lacks, MethodTable.get?_empty, Option.none_or, MethodTable.contains_eq]
  cases found : own.get? s with
  | none => simp
  | some e =>
    have owner := singletons e (MethodTable.get?_eq_some_iff.1 found).1
    simp [owner]

theorem Sound.lacking_own (h : L.Sound) (owners : List Owner) (handler : Option Handler)
    (face : Symbol) :
    L.lacking owners own handler face = L.unkeyed own (L.lacking owners ∅ handler face) := by
  apply h.pairwise_lacking.eq_of_mem_iff (h.pairwise_lacking.filter _)
  intro name
  rw [List.mem_filter, h.mem_lacking_iff_text, h.mem_lacking_iff_text]
  constructor
  · rintro ⟨s, declared, text, lacks⟩
    rw [lacks_own singletons, Bool.and_eq_true] at lacks
    rw [keyed_of_text h.named text]
    exact ⟨⟨s, declared, text, lacks.1⟩, lacks.2⟩
  · rintro ⟨⟨s, declared, text, lacks⟩, absent⟩
    rw [keyed_of_text h.named text] at absent
    refine ⟨s, declared, text, ?_⟩
    rw [lacks_own singletons, lacks, absent, Bool.and_self]

theorem Sound.gapMap_own (h : L.Sound) (owners : List Owner) (handler : Option Handler) :
    L.gapMap owners own handler =
      ((L.gapMap owners ∅ handler).map fun p => (p.1, L.unkeyed own p.2)).filter
        (!·.2.isEmpty) := by
  have within : ∀ p : Symbol × List String,
      (!(L.unkeyed own p.2).isEmpty) = true → (!p.2.isEmpty) = true := by
    rintro ⟨face, names⟩ some
    cases names with
    | nil => exact some
    | cons => rfl
  rw [gapMap, gapMap, filter_map_filter within, List.map_map]
  apply congrArg (List.filter _)
  apply List.map_congr_left
  intro face _
  exact congrArg (Prod.mk face) (h.lacking_own singletons owners handler face)

end Own

/-- What an instance lacks of an interface, attached to its class or not, is what its class lacks
    without the names that it has methods of its own for; the map of all its gaps comes from that of
    its class in the same way. -/
theorem instance_lacks_unkeyed {L M : Ledger} {o : Instance} (h : Reachable L) (made : MadeBy M o)
    (isClass : L.isClass o.cls = true) :
    (∀ face, L.isInterface face = true → ∃ names, L.gap o.cls ∅ face = .ok names ∧
      L.gap o.cls o.own face = .ok (L.unkeyed o.own names)) ∧
      ∃ map, L.gaps o.cls ∅ = .ok map ∧ L.gaps o.cls o.own =
        .ok ((map.map fun p => (p.1, L.unkeyed o.own p.2)).filter (!·.2.isEmpty)) := by
  have sound := h.sound
  obtain ⟨owners, walk⟩ := sound.exists_ancestors isClass
  obtain ⟨handler, handled, -⟩ := sound.exists_handlerFor isClass
  constructor
  · intro face interface
    refine ⟨_, sound.gap_eq interface walk handled, ?_⟩
    rw [sound.gap_eq interface walk handled, sound.lacking_own made.singletons]
  · refine ⟨_, sound.gaps_eq walk handled, ?_⟩
    rw [sound.gaps_eq walk handled, sound.gapMap_own made.singletons]

theorem instance_lacks_unkeyed_household :
    Reachable household ∧ MadeBy household lamp ∧ household.isClass lamp.cls = true ∧
      household.isInterface 1 = true ∧ household.gap lamp.cls ∅ 1 = .ok ["off"] ∧
      household.gap lamp.cls lamp.own 1 = .ok [] ∧
      household.gaps lamp.cls ∅ = .ok [(1, ["off"])] ∧ household.gaps lamp.cls lamp.own = .ok [] := by
  have interface : household.isInterface 1 = true := by cbv
  have gap : household.gap lamp.cls ∅ 1 = .ok ["off"] := by cbv
  have gaps : household.gaps lamp.cls ∅ = .ok [(1, ["off"])] := by cbv
  have own : household.unkeyed lamp.own ["off"] = [] := by cbv
  obtain ⟨each, map, gaps', without⟩ := instance_lacks_unkeyed reachable_household lamp_belongs.madeBy
    lamp_belongs.madeBy.isClass
  obtain ⟨names, gap', less⟩ := each 1 interface
  cases gap.symm.trans gap'
  cases gaps.symm.trans gaps'
  rw [own] at less
  rw [List.map_singleton, own] at without
  exact ⟨reachable_household, lamp_belongs.madeBy, lamp_belongs.madeBy.isClass, interface, gap, less,
    gaps, without⟩

end Ledger

end InterfaceLedger
