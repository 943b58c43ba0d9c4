import InterfaceLedger.MethodTable.View

/-!
A method table after any number of writes. A plain list that takes the same writes gives the same
answers, and shows a reader what the table shows. The list has nothing that can go stale, so the
index of the table never does.
-/
namespace InterfaceLedger

inductive Write where
  | insert (e : Entry)
  | remove (s : Symbol)

def MethodTable.write (t : MethodTable) : Write → Option Entry × MethodTable
  | .insert e => t.insert e
  | .remove s => t.remove s

def Row.write (row : List Entry) : Write → Option Entry × List Entry
  | .insert e => (find? e.name row, put e row)
  | .remove s => (find? s row, drop s row)

def writeAll {σ : Type} (write : σ → Write → Option Entry × σ) :
    σ → List Write → List (Option Entry) × σ
  | t, [] => ([], t)
  | t, w :: rest =>
    let next := write t w
    let tail := writeAll write next.2 rest
    (next.1 :: tail.1, tail.2)

theorem writeAll_related {σ τ : Type} {write : σ → Write → Option Entry × σ}
    {write' : τ → Write → Option Entry × τ} {R : σ → τ → Prop}
    (step : ∀ {t u} w, R t u → (write t w).1 = (write' u w).1 ∧ R (write t w).2 (write' u w).2)
    {t : σ} {u : τ} (related : R t u) (ws : List Write) :
    (writeAll write t ws).1 = (writeAll write' u ws).1 ∧
      R (writeAll write t ws).2 (writeAll write' u ws).2 := by
  induction ws generalizing t u with
  | nil => exact ⟨rfl, related⟩
  | cons w rest ih =>
    obtain ⟨answer, next⟩ := step w related
    obtain ⟨answers, final⟩ := ih next
    exact ⟨List.cons_eq_cons.2 ⟨answer, answers⟩, final⟩

namespace MethodTable

variable {t : MethodTable} {row : List Entry}

/-- All that can be read off a table, against a list of entries. -/
structure Shows (t : MethodTable) (row : List Entry) : Prop where
  distinct : (row.map (·.name)).Nodup
  index : ∀ (s : Symbol) i,
    t.index[s]? = some i ↔ ∃ e : Entry, t.entries[i]? = some e ∧ e.name = s
  inRange : ∀ (s : Symbol) i, t.index[s]? = some i → i < t.entries.size
  order : t.toList = row
  found : ∀ s, t.get? s = row.find? (·.name = s)
  contains : ∀ s, t.contains s = row.any (·.name = s)
  size : t.size = row.length
  isEmpty : t.isEmpty = row.isEmpty

theorem shows_toList (t : MethodTable) : Shows t t.toList where
  distinct := t.names_nodup
  index s i := (t.consistent s i).trans Option.map_eq_some_iff
  inRange _ _ := lt_size
  order := rfl
  found := t.get?_eq
  contains s := by rw [contains_eq, get?_eq, Row.find?, List.isSome_find?]
  size := by rw [size, toList, Array.length_toList]
  isEmpty := by rw [isEmpty, toList, Array.isEmpty_toList]

theorem write_eq {t : MethodTable} {row : List Entry} (w : Write) (order : t.toList = row) :
    (t.write w).1 = (Row.write row w).1 ∧ (t.write w).2.toList = (Row.write row w).2 := by
  subst order
  cases w with
  | insert e => exact ⟨t.insert_fst e, t.toList_insert e⟩
  | remove s => exact ⟨t.remove_fst s, t.toList_remove s⟩

/-- Whatever is put in and taken out, a table that starts empty answers as the list does and shows
    what the list holds. -/
theorem writes_refine_row (ws : List Write) :
    (writeAll write ∅ ws).1 = (writeAll Row.write [] ws).1 ∧
      Shows (writeAll write ∅ ws).2 (writeAll Row.write [] ws).2 := by
  obtain ⟨answers, order⟩ :=
    writeAll_related (R := fun (t : MethodTable) row => t.toList = row) write_eq
      (t := ∅) (u := []) rfl ws
  rw [← order]
  exact ⟨answers, shows_toList _⟩

end MethodTable

end InterfaceLedger
