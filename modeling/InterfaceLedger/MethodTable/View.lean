import InterfaceLedger.MethodTable.Basic

/-!
A method table seen as the list of its entries. The list has its own, plainer way to look an entry
up, to put one in and to drop one; a table does the same through its index. The names of the list
are pairwise distinct, and every place that the index gives is a place of the list.
-/
namespace InterfaceLedger

namespace Row

/-- Puts `e` in the place of the entry of its name, or at the end if there is none. -/
def put (e : Entry) : List Entry → List Entry
  | [] => [e]
  | x :: rest => if x.name = e.name then e :: rest else x :: put e rest

/-- Drops the entry named `s` and lets the last entry take its place. -/
def drop (s : Symbol) : List Entry → List Entry
  | [] => []
  | x :: rest =>
    if x.name = s then
      match rest.getLast? with
      | none => []
      | some last => last :: rest.dropLast
    else x :: drop s rest

def find? (s : Symbol) (row : List Entry) : Option Entry := row.find? (·.name = s)

def NameAt (row : List Entry) (i : Nat) (s : Symbol) : Prop := row[i]?.map Entry.name = some s

theorem nameAt_zero {x : Entry} {rest : List Entry} {s : Symbol} :
    NameAt (x :: rest) 0 s ↔ x.name = s := by simp [NameAt]

theorem nameAt_succ {x : Entry} {rest : List Entry} {i : Nat} {s : Symbol} :
    NameAt (x :: rest) (i + 1) s ↔ NameAt rest i s := by simp [NameAt]

theorem put_of_absent {e : Entry} {row : List Entry} (absent : ∀ i, ¬ NameAt row i e.name) :
    put e row = row ++ [e] := by
  induction row with
  | nil => rfl
  | cons x rest ih =>
    have other : x.name ≠ e.name := fun h => absent 0 (nameAt_zero.2 h)
    simp [put, other, ih fun i h => absent (i + 1) (nameAt_succ.2 h)]

theorem put_of_nameAt {e : Entry} {row : List Entry} {i : Nat} (here : NameAt row i e.name)
    (only : ∀ j, NameAt row j e.name → j = i) : put e row = row.set i e := by
  induction row generalizing i with
  | nil => simp [NameAt] at here
  | cons x rest ih =>
    cases i with
    | zero => simp [put, nameAt_zero.1 here]
    | succ i =>
      have other : x.name ≠ e.name := fun h => absurd (only 0 (nameAt_zero.2 h)) (by omega)
      have tail := ih (nameAt_succ.1 here) fun j h => by
        have := only (j + 1) (nameAt_succ.2 h)
        omega
      simp [put, other, tail]

theorem drop_of_absent {s : Symbol} {row : List Entry} (absent : ∀ i, ¬ NameAt row i s) :
    drop s row = row := by
  induction row with
  | nil => rfl
  | cons x rest ih =>
    have other : x.name ≠ s := fun h => absent 0 (nameAt_zero.2 h)
    simp [drop, other, ih fun i h => absent (i + 1) (nameAt_succ.2 h)]

theorem drop_of_nameAt {s : Symbol} {row : List Entry} {i : Nat} {last : Entry}
    (here : NameAt row i s) (only : ∀ j, NameAt row j s → j = i)
    (ending : row.getLast? = some last) : drop s row = (row.set i last).dropLast := by
  induction row generalizing i with
  | nil => simp [NameAt] at here
  | cons x rest ih =>
    cases i with
    | zero =>
      cases rest with
      | nil => simp [drop, nameAt_zero.1 here]
      | cons y more =>
        rw [List.getLast?_cons_cons] at ending
        simp [drop, nameAt_zero.1 here, ending]
    | succ i =>
      have other : x.name ≠ s := fun h => absurd (only 0 (nameAt_zero.2 h)) (by omega)
      cases rest with
      | nil => simp [NameAt] at here
      | cons y more =>
        rw [List.getLast?_cons_cons] at ending
        have tail := ih (nameAt_succ.1 here) (fun j h => by
          have := only (j + 1) (nameAt_succ.2 h)
          omega) ending
        rw [drop, if_neg other, tail, List.set_cons_succ]
        cases i <;> simp

theorem find?_of_absent {s : Symbol} {row : List Entry} (absent : ∀ i, ¬ NameAt row i s) :
    find? s row = none := by
  rw [find?, List.find?_eq_none]
  intro x hx
  obtain ⟨i, hi⟩ := List.mem_iff_getElem?.1 hx
  simpa [NameAt, hi] using absent i

theorem find?_of_nameAt {s : Symbol} {row : List Entry} {i : Nat} (here : NameAt row i s)
    (only : ∀ j, NameAt row j s → j = i) : find? s row = row[i]? := by
  induction row generalizing i with
  | nil => simp [NameAt] at here
  | cons x rest ih =>
    cases i with
    | zero => simp [find?, nameAt_zero.1 here]
    | succ i =>
      have other : x.name ≠ s := fun h => absurd (only 0 (nameAt_zero.2 h)) (by omega)
      have tail := ih (nameAt_succ.1 here) fun j h => by
        have := only (j + 1) (nameAt_succ.2 h)
        omega
      simpa [find?, other] using tail

end Row

namespace MethodTable

variable {t : MethodTable} {s : Symbol} {i : Nat} {e : Entry}

theorem eq_of_toIndexedRow {u : MethodTable} (same : t.toIndexedRow = u.toIndexedRow) : t = u := by
  cases t
  cases u
  cases same
  rfl

theorem index_iff : t.index[s]? = some i ↔ Row.NameAt t.toList i s := by
  rw [t.consistent s i, Row.NameAt, toList, Array.getElem?_toList]

theorem place_unique (hi : t.index[s]? = some i) (j : Nat) (hj : Row.NameAt t.toList j s) :
    j = i := by
  have := index_iff.2 hj
  simp_all

theorem not_nameAt (hs : t.index[s]? = none) (i : Nat) : ¬ Row.NameAt t.toList i s := fun hi => by
  have := index_iff.2 hi
  simp_all

theorem lt_size (hi : t.index[s]? = some i) : i < t.size := t.consistent.lt_size hi

theorem names_nodup (t : MethodTable) : (t.toList.map (·.name)).Nodup := by
  rw [List.Nodup, List.pairwise_map, List.pairwise_iff_getElem]
  intro i j hi hj lt same
  have named : Row.NameAt t.toList j t.toList[j].name := by
    simp [Row.NameAt, List.getElem?_eq_getElem hj]
  have again : Row.NameAt t.toList i t.toList[j].name := by
    simp [Row.NameAt, List.getElem?_eq_getElem hi, same]
  have := place_unique (index_iff.2 named) i again
  omega

theorem contains_iff : t.contains s = true ↔ s ∈ t.toList.map (·.name) := by
  rw [contains, Std.TreeMap.contains_eq_isSome_getElem?, Option.isSome_iff_exists]
  simp only [index_iff, Row.NameAt, List.mem_iff_getElem?, List.getElem?_map]

theorem get?_eq (t : MethodTable) (s : Symbol) : t.get? s = Row.find? s t.toList := by
  cases hs : t.index[s]? with
  | none => simp [get?, hs, Row.find?_of_absent (not_nameAt hs)]
  | some i =>
    rw [Row.find?_of_nameAt (index_iff.1 hs) (place_unique hs)]
    simp [get?, hs, toList]

theorem get?_eq_some_iff : t.get? s = some e ↔ e ∈ t.toList ∧ e.name = s := by
  rw [get?_eq]
  constructor
  · intro found
    exact ⟨List.mem_of_find?_eq_some found, by simpa using List.find?_some found⟩
  · rintro ⟨mem, rfl⟩
    obtain ⟨i, hi⟩ := List.mem_iff_getElem?.1 mem
    have here : Row.NameAt t.toList i e.name := by rw [Row.NameAt, hi, Option.map_some]
    rw [Row.find?_of_nameAt here (place_unique (index_iff.2 here)), hi]

theorem insert_fst (t : MethodTable) (e : Entry) :
    (t.insert e).1 = Row.find? e.name t.toList := by
  rw [← get?_eq]
  cases hs : t.index[e.name]? <;> simp [insert, IndexedRow.insert, get?, hs]

@[simp]
theorem toList_insert (t : MethodTable) (e : Entry) :
    (t.insert e).2.toList = Row.put e t.toList := by
  cases hs : t.index[e.name]? with
  | none =>
    rw [Row.put_of_absent (not_nameAt hs)]
    simp [insert, IndexedRow.insert, hs, toList]
  | some i =>
    rw [Row.put_of_nameAt (index_iff.1 hs) (place_unique hs)]
    simp [insert, IndexedRow.insert, hs, toList]

theorem remove_fst (t : MethodTable) (s : Symbol) : (t.remove s).1 = Row.find? s t.toList := by
  rw [← get?_eq]
  cases hs : t.index[s]? with
  | none => simp [remove, IndexedRow.remove, get?, hs]
  | some i =>
    have bound : i < t.entries.size := lt_size hs
    simp [remove, IndexedRow.remove, get?, hs, IndexedRow.back?_of_lt bound, bound]

theorem index_of_absent (absent : t.get? s = none) : t.index[s]? = none := by
  cases hs : t.index[s]? with
  | none => rfl
  | some i =>
    have bound : i < t.entries.size := lt_size hs
    simp [get?, hs, bound] at absent

theorem contains_eq (t : MethodTable) (s : Symbol) : t.contains s = (t.get? s).isSome := by
  rw [contains, Std.TreeMap.contains_eq_isSome_getElem?]
  cases hs : t.index[s]? with
  | none => simp [get?, hs]
  | some i =>
    have bound : i < t.entries.size := lt_size hs
    simp [get?, hs, bound]

theorem remove_of_absent (absent : t.get? s = none) : (t.remove s).2 = t := by
  apply eq_of_toIndexedRow
  simp [remove, IndexedRow.remove, index_of_absent absent]

@[simp]
theorem toList_remove (t : MethodTable) (s : Symbol) :
    (t.remove s).2.toList = Row.drop s t.toList := by
  cases hs : t.index[s]? with
  | none =>
    rw [Row.drop_of_absent (not_nameAt hs)]
    simp [remove, IndexedRow.remove, hs, toList]
  | some i =>
    have bound : i < t.entries.size := lt_size hs
    have back := IndexedRow.back?_of_lt bound
    have last : t.toList.getLast? = some t.entries[t.entries.size - 1] := by
      rw [← back, toList, Array.getLast?_toList]
    rw [Row.drop_of_nameAt (index_iff.1 hs) (place_unique hs) last]
    simp [remove, IndexedRow.remove, hs, back, bound, toList]

end MethodTable

end InterfaceLedger
