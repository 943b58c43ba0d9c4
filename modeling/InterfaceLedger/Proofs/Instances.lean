import InterfaceLedger.Proofs.Tables

/-!
Instances over time. An instance stays one of a class of the ledger that made it, and its own table
only ever holds singleton methods, whoever gave them. If they all came from that same ledger, their
names are texts of it.
-/
namespace InterfaceLedger

open Ledger

/-- The ledger made the instance. Singleton methods may have come from elsewhere, with symbols of
    another numbering. -/
inductive MadeBy : Ledger → Instance → Prop where
  | made {L : Ledger} {cls : Symbol} {o : Instance} (reachable : Reachable L)
      (made : L.instantiate cls = .ok o) : MadeBy L o
  | later {L : Ledger} {o : Instance} (e : Event) : MadeBy L o → MadeBy (L.after e) o
  | extended {L M : Ledger} {o : Instance} (m : MethodDecl) (reachable : Reachable M) :
      MadeBy L o → MadeBy L (M.addSingleton o m).1

variable {L : Ledger} {o : Instance}

theorem MadeBy.reachable (h : MadeBy L o) : Reachable L := by
  induction h with
  | made reachable _ => exact reachable
  | later e _ ih => exact ih.step e
  | extended _ _ _ ih => exact ih

theorem BelongsTo.madeBy (h : BelongsTo L o) : MadeBy L o := by
  induction h with
  | made reachable made => exact .made reachable made
  | later e _ ih => exact .later e ih
  | @extended L o m home ih => exact .extended m home.reachable (.later (.singleton o m) ih)

theorem MadeBy.isClass (h : MadeBy L o) : L.isClass o.cls = true := by
  induction h with
  | made reachable made =>
    obtain ⟨found, rfl⟩ := instantiate_eq_ok_iff.1 made
    exact isClass_iff_classAt.2 found
  | later e home ih => exact (home.reachable.named.after_edits e).keeps_isClass ih
  | extended _ _ _ ih => exact ih

theorem mem_own_addSingleton {M : Ledger} {m : MethodDecl} {e : Entry}
    (mem : e ∈ (M.addSingleton o m).1.own.toList) :
    e = m.toEntry (M.intern m.name).1 .singleton ∨ e ∈ o.own.toList := by
  have placed : (M.addSingleton o m).1.own.toList = _ := MethodTable.toList_insert _ _
  rw [placed] at mem
  exact Row.mem_of_mem_put mem

theorem MadeBy.singletons (h : MadeBy L o) : ∀ e ∈ o.own.toList, e.owner = .singleton := by
  induction h with
  | made _ made =>
    obtain ⟨-, rfl⟩ := instantiate_eq_ok_iff.1 made
    intro e mem
    cases mem
  | later _ _ ih => exact ih
  | extended m _ home ih =>
    intro e mem
    rcases mem_own_addSingleton mem with rfl | old
    · rfl
    · exact ih e old

namespace Ledger

def Spelled (L : Ledger) (row : List Entry) : Prop := ∀ e ∈ row, ∃ x, L.textAt? e.name = some x

theorem Spelled.edits {L M : Ledger} {row : List Entry} (h : L.Spelled row) (edits : Edits L M) :
    M.Spelled row := by
  intro e mem
  obtain ⟨x, text⟩ := h e mem
  exact ⟨x, edits.keeps_text text⟩

end Ledger

theorem BelongsTo.spelled (h : BelongsTo L o) : L.Spelled o.own.toList := by
  induction h with
  | made _ made =>
    obtain ⟨-, rfl⟩ := instantiate_eq_ok_iff.1 made
    intro e mem
    cases mem
  | later e home ih => exact ih.edits (home.reachable.named.after_edits e)
  | @extended L o m home ih =>
    have old := ih.edits (intern_edits L m.name)
    intro e mem
    rcases mem_own_addSingleton mem with rfl | before
    · exact ⟨m.name, textAt?_intern L m.name⟩
    · exact old e before

end InterfaceLedger
