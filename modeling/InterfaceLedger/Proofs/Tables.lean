import InterfaceLedger.MethodTable.View
import InterfaceLedger.Proofs.Edits

/-!
The tables of a ledger. `Tabled` says that every entry tells the truth about itself: its owner is the
class or module in whose table it stands, and its name is a text. An edit changes at most one table,
and only by putting in an entry that belongs there or by taking one out.
-/
namespace InterfaceLedger

namespace Row

theorem mem_of_mem_put {e x : Entry} {row : List Entry} (h : x ∈ put e row) : x = e ∨ x ∈ row := by
  induction row with
  | nil =>
    rw [put, List.mem_singleton] at h
    exact .inl h
  | cons y rest ih =>
    rw [put] at h
    split at h
    · rcases List.mem_cons.1 h with same | mem
      · exact .inl same
      · exact .inr (List.mem_cons_of_mem y mem)
    · rcases List.mem_cons.1 h with same | mem
      · exact .inr (same ▸ List.mem_cons_self)
      · exact (ih mem).imp_right (List.mem_cons_of_mem y)

theorem mem_drop_head_iff {s : Symbol} {x y : Entry} (here : y.name = s) {rest : List Entry} :
    x ∈ drop s (y :: rest) ↔ x ∈ rest := by
  rw [drop, if_pos here]
  cases last : rest.getLast? with
  | none => rw [List.getLast?_eq_none_iff.1 last]
  | some z =>
    obtain ⟨before, rfl⟩ := List.getLast?_eq_some_iff.1 last
    rw [List.dropLast_concat]
    exact (List.perm_append_singleton z before).mem_iff.symm

theorem mem_of_mem_drop {s : Symbol} {x : Entry} {row : List Entry} (h : x ∈ drop s row) :
    x ∈ row := by
  induction row with
  | nil => exact h
  | cons y rest ih =>
    by_cases here : y.name = s
    · exact List.mem_cons_of_mem y ((mem_drop_head_iff here).1 h)
    · rw [drop, if_neg here] at h
      rcases List.mem_cons.1 h with same | mem
      · exact same ▸ List.mem_cons_self
      · exact List.mem_cons_of_mem y (ih mem)

theorem mem_put_self (e : Entry) (row : List Entry) : e ∈ put e row := by
  induction row with
  | nil => exact List.mem_singleton_self e
  | cons y rest ih =>
    rw [put]
    split
    · exact List.mem_cons_self
    · exact List.mem_cons_of_mem y ih

theorem mem_put_iff_of_ne {e x : Entry} (other : x.name ≠ e.name) {row : List Entry} :
    x ∈ put e row ↔ x ∈ row := by
  constructor
  · intro mem
    exact (mem_of_mem_put mem).resolve_left fun same => other (congrArg Entry.name same)
  · intro mem
    induction row with
    | nil => cases mem
    | cons y rest ih =>
      rw [put]
      split
      · rename_i replaced
        have apart : x ≠ y := fun same => other (same ▸ replaced)
        exact List.mem_cons_of_mem e ((List.mem_cons.1 mem).resolve_left apart)
      · rcases List.mem_cons.1 mem with same | later
        · exact same ▸ List.mem_cons_self
        · exact List.mem_cons_of_mem y (ih later)

theorem mem_drop_iff_of_ne {s : Symbol} {x : Entry} (other : x.name ≠ s) {row : List Entry} :
    x ∈ drop s row ↔ x ∈ row := by
  constructor
  · exact mem_of_mem_drop
  · intro mem
    induction row with
    | nil => cases mem
    | cons y rest ih =>
      by_cases here : y.name = s
      · have apart : x ≠ y := fun same => other (same ▸ here)
        exact (mem_drop_head_iff here).2 ((List.mem_cons.1 mem).resolve_left apart)
      · rw [drop, if_neg here]
        rcases List.mem_cons.1 mem with same | later
        · exact same ▸ List.mem_cons_self
        · exact List.mem_cons_of_mem y (ih later)

theorem name_ne_of_mem_drop {s : Symbol} {x : Entry} {row : List Entry}
    (distinct : (row.map (·.name)).Nodup) (mem : x ∈ drop s row) : x.name ≠ s := by
  induction row with
  | nil => cases mem
  | cons y rest ih =>
    rw [List.map_cons, List.nodup_cons] at distinct
    by_cases here : y.name = s
    · rintro rfl
      have kept := (mem_drop_head_iff here).1 mem
      exact distinct.1 (here ▸ List.mem_map_of_mem kept)
    · rw [drop, if_neg here] at mem
      rcases List.mem_cons.1 mem with same | later
      · exact same ▸ here
      · exact ih distinct.2 later

end Row

namespace MethodTable

theorem index_empty (s : Symbol) : (∅ : MethodTable).index[s]? = none :=
  Std.TreeMap.getElem?_emptyc

@[simp]
theorem get?_empty (s : Symbol) : (∅ : MethodTable).get? s = none := by
  rw [get?, index_empty]
  rfl

@[simp]
theorem remove_empty (s : Symbol) : ((∅ : MethodTable).remove s).2 = ∅ :=
  remove_of_absent (get?_empty s)

theorem mem_publicNames_iff {t : MethodTable} {s : Symbol} :
    s ∈ t.publicNames ↔ ∃ e ∈ t.toList, e.isPublic = true ∧ e.name = s := by
  simp only [publicNames, List.mem_map, List.mem_filter, and_assoc]

theorem publicNames_nodup (t : MethodTable) : t.publicNames.Nodup :=
  t.names_nodup.sublist (List.filter_sublist.map _)

end MethodTable

def Binding.table : Binding → MethodTable
  | text _ => ∅
  | ofClass c => c.table
  | ofModule m => m.table

namespace Ledger

variable {L M : Ledger} {s : Symbol} {o : Owner}

theorem tableOf_push {b : Binding} (blank : b.table = ∅) (L : Ledger) (o : Owner) :
    (L.push b).tableOf o = L.tableOf o := by
  have free : L.bindings[L.size]? = none := List.getElem?_eq_none (Nat.le_refl _)
  cases o with
  | ofClass t =>
    rw [tableOf_ofClass, tableOf_ofClass, classAt?_push]
    split
    · rename_i here
      rw [here, classAt?, free]
      cases b with
      | ofClass c => exact blank
      | text => rfl
      | ofModule => rfl
    · rfl
  | ofModule t =>
    rw [tableOf_ofModule, tableOf_ofModule, moduleAt?_push]
    split
    · rename_i here
      rw [here, moduleAt?, free]
      cases b with
      | ofModule m => exact blank
      | text => rfl
      | ofClass => rfl
    · rfl
  | singleton => rfl

theorem tableOf_modifyClass {f : ClassRecord → ClassRecord} {g : MethodTable → MethodTable}
    (acts : ∀ c, (f c).table = g c.table) (L : Ledger) (s : Symbol)
    (safe : L.Open (.ofClass s) ∨ g ∅ = ∅) (o : Owner) :
    (L.modifyClass s f).tableOf o = if o = .ofClass s then g (L.tableOf o) else L.tableOf o := by
  cases o with
  | ofClass t =>
    rw [tableOf_ofClass, tableOf_ofClass, classAt?_modifyClass]
    by_cases here : t = s
    · subst here
      rw [if_pos rfl]
      cases found : L.classAt? t with
      | none =>
        rcases safe with ⟨c, hc⟩ | keeps
        · rw [found] at hc
          cases hc
        · exact keeps.symm
      | some c => simp [acts]
    · have apart : s ≠ t := fun same => here same.symm
      have other : Owner.ofClass t ≠ .ofClass s := fun same => here (Owner.ofClass.inj same)
      rw [if_neg other]
      cases L.classAt? t <;> simp [apart]
  | ofModule t => simp [tableOf_ofModule, moduleAt?_modifyClass]
  | singleton => simp [tableOf_singleton]

theorem tableOf_modifyModule {f : ModuleRecord → ModuleRecord} {g : MethodTable → MethodTable}
    (acts : ∀ m, (f m).table = g m.table) (L : Ledger) (s : Symbol)
    (safe : L.Open (.ofModule s) ∨ g ∅ = ∅) (o : Owner) :
    (L.modifyModule s f).tableOf o = if o = .ofModule s then g (L.tableOf o) else L.tableOf o := by
  cases o with
  | ofClass t => simp [tableOf_ofClass, classAt?_modifyModule]
  | ofModule t =>
    rw [tableOf_ofModule, tableOf_ofModule, moduleAt?_modifyModule]
    by_cases here : t = s
    · subst here
      rw [if_pos rfl]
      cases found : L.moduleAt? t with
      | none =>
        rcases safe with ⟨m, hm, -⟩ | keeps
        · rw [found] at hm
          cases hm
        · exact keeps.symm
      | some m => simp [acts]
    · have apart : s ≠ t := fun same => here same.symm
      have other : Owner.ofModule t ≠ .ofModule s := fun same => here (Owner.ofModule.inj same)
      rw [if_neg other]
      cases L.moduleAt? t <;> simp [apart]
  | singleton => simp [tableOf_singleton]

theorem tableOf_place {e : Entry} (unsealed : L.Open e.owner) (o : Owner) :
    (L.place e).tableOf o = if o = e.owner then ((L.tableOf o).insert e).2 else L.tableOf o := by
  rw [place]
  cases owner : e.owner with
  | ofClass s =>
    exact tableOf_modifyClass (g := fun t => (t.insert e).2) (by intro; rfl) L s
      (.inl (owner ▸ unsealed)) o
  | ofModule s =>
    exact tableOf_modifyModule (g := fun t => (t.insert e).2) (by intro; rfl) L s
      (.inl (owner ▸ unsealed)) o
  | singleton =>
    rw [owner] at unsealed
    cases unsealed

@[simp]
theorem tableOf_remove (L : Ledger) (cls s : Symbol) (o : Owner) :
    (L.modifyClass cls fun c => { c with table := (c.table.remove s).2 }).tableOf o =
      if o = .ofClass cls then ((L.tableOf o).remove s).2 else L.tableOf o :=
  tableOf_modifyClass (g := fun t => (t.remove s).2) (fun _ => rfl) L cls
    (.inr (MethodTable.remove_empty s)) o

theorem tableOf_modifyClass_of_keeps {f : ClassRecord → ClassRecord}
    (keeps : ∀ c, (f c).table = c.table) (L : Ledger) (s : Symbol) (o : Owner) :
    (L.modifyClass s f).tableOf o = L.tableOf o := by
  rw [tableOf_modifyClass (g := id) keeps L s (.inr rfl) o]
  simp

theorem tableOf_modifyModule_of_keeps {f : ModuleRecord → ModuleRecord}
    (keeps : ∀ m, (f m).table = m.table) (L : Ledger) (s : Symbol) (o : Owner) :
    (L.modifyModule s f).tableOf o = L.tableOf o := by
  rw [tableOf_modifyModule (g := id) keeps L s (.inr rfl) o]
  simp

@[simp]
theorem tableOf_intern (L : Ledger) (x : String) (o : Owner) :
    (L.intern x).2.tableOf o = L.tableOf o := by
  rw [intern]
  split
  · rfl
  · exact tableOf_push rfl L o

structure Tabled (L : Ledger) : Prop where
  truthful : ∀ {o e}, e ∈ (L.tableOf o).toList → e.owner = o ∧ ∃ x, L.textAt? e.name = some x

theorem tabled_of_same (h : L.Tabled) (tables : ∀ o, M.tableOf o = L.tableOf o)
    (texts : ∀ {t x}, L.textAt? t = some x → M.textAt? t = some x) : M.Tabled where
  truthful mem := by
    rw [tables] at mem
    obtain ⟨owner, x, hx⟩ := h.truthful mem
    exact ⟨owner, x, texts hx⟩

theorem tabled_empty : (∅ : Ledger).Tabled where
  truthful {o e} mem := by
    cases o <;> cases mem

theorem Tabled.edit (h : L.Tabled) (edit : Edit L M) : M.Tabled := by
  have texts : ∀ {t x}, L.textAt? t = some x → M.textAt? t = some x := edit.keeps_text
  cases edit with
  | text => exact tabled_of_same h (tableOf_push rfl L) texts
  | newClass => exact tabled_of_same h (tableOf_push rfl L) texts
  | newModule => exact tabled_of_same h (tableOf_push rfl L) texts
  | place named unsealed =>
    constructor
    intro o e mem
    rw [tableOf_place unsealed] at mem
    split at mem
    · rename_i here
      rw [MethodTable.toList_insert] at mem
      rcases Row.mem_of_mem_put mem with same | old
      · obtain ⟨x, hx⟩ := named
        subst same
        exact ⟨here.symm, x, texts hx⟩
      · obtain ⟨owner, x, hx⟩ := h.truthful old
        exact ⟨owner, x, texts hx⟩
    · obtain ⟨owner, x, hx⟩ := h.truthful mem
      exact ⟨owner, x, texts hx⟩
  | remove cls s =>
    constructor
    intro o e mem
    rw [tableOf_remove] at mem
    have old : e ∈ (L.tableOf o).toList := by
      split at mem
      · rw [MethodTable.toList_remove] at mem
        exact Row.mem_of_mem_drop mem
      · exact mem
    obtain ⟨owner, x, hx⟩ := h.truthful old
    exact ⟨owner, x, texts hx⟩
  | handle => exact tabled_of_same h (tableOf_modifyClass_of_keeps (by intro; rfl) L _) texts
  | mark => exact tabled_of_same h (tableOf_modifyModule_of_keeps (by intro; rfl) L _) texts
  | attach => exact tabled_of_same h (tableOf_modifyClass_of_keeps (by intro; rfl) L _) texts

end Ledger

theorem Reachable.tabled {L : Ledger} (h : Reachable L) : L.Tabled :=
  h.of_edit Ledger.tabled_empty fun _ tabled edit => tabled.edit edit

end InterfaceLedger
