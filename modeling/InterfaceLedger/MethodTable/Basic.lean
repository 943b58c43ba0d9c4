import InterfaceLedger.Entry
import Std.Data.TreeMap

/-!
Method tables. The entries of one owner stand in a row, at most one to a name, and an index says
at which place each name stands. An entry of a known name takes the place of the one before it, a
new name goes to the end, and the last entry fills the place of one that is removed. A table is a
row with an index that agrees with it: the empty one does, and so does what is left by putting an
entry in or by taking one out.
-/
namespace InterfaceLedger

structure IndexedRow where
  entries : Array Entry := #[]
  index : Std.TreeMap Symbol Nat := ∅

namespace IndexedRow

/-- The index sends a name to a place exactly when the entry at that place has the name. -/
def Consistent (r : IndexedRow) : Prop :=
  ∀ s i, r.index[s]? = some i ↔ r.entries[i]?.map Entry.name = some s

def insert (r : IndexedRow) (e : Entry) : Option Entry × IndexedRow :=
  match r.index[e.name]? with
  | some i => (r.entries[i]?, { r with entries := r.entries.setIfInBounds i e })
  | none =>
    (none, { entries := r.entries.push e, index := r.index.insert e.name r.entries.size })

def remove (r : IndexedRow) (s : Symbol) : Option Entry × IndexedRow :=
  match r.index[s]? with
  | none => (none, r)
  | some i =>
    match r.entries[i]?, r.entries.back? with
    | some gone, some last =>
      (some gone,
        { entries := (r.entries.setIfInBounds i last).pop
          index := (r.index.insert last.name i).erase s })
    | _, _ => (none, r)

variable {r : IndexedRow} {s s' : Symbol} {i : Nat}

theorem consistent_empty : Consistent {} := by
  intro s i
  simp

theorem Consistent.name_eq (h : r.Consistent) (hs : r.index[s]? = some i)
    (hs' : r.index[s']? = some i) : s = s' :=
  Option.some.inj (((h s i).1 hs).symm.trans ((h s' i).1 hs'))

theorem Consistent.lt_size (h : r.Consistent) (hi : r.index[s]? = some i) :
    i < r.entries.size := by
  have := (h s i).1 hi
  by_cases inside : i < r.entries.size
  · exact inside
  · simp [Array.getElem?_eq_none (Nat.le_of_not_lt inside)] at this

theorem back?_of_lt (bound : i < r.entries.size) :
    r.entries.back? = some r.entries[r.entries.size - 1] := by
  rw [Array.back?_eq_getElem?, Array.getElem?_eq_getElem]

theorem Consistent.insert (h : r.Consistent) (e : Entry) : (r.insert e).2.Consistent := by
  intro s i
  cases hs : r.index[e.name]? with
  | none =>
    have fresh : r.index[s]? ≠ some r.entries.size := fun hi => Nat.lt_irrefl _ (h.lt_size hi)
    simp only [IndexedRow.insert, hs, Std.TreeMap.getElem?_insert, Array.getElem?_push,
      Nat.compare_eq_eq]
    by_cases last : i = r.entries.size
    · by_cases named : e.name = s <;> simp [last, named, fresh]
    · by_cases named : e.name = s
      · have : r.entries.size ≠ i := fun same => last same.symm
        simp [last, ← named, ← h e.name i, hs, this]
      · simp [last, named, ← h s i]
  | some j =>
    have bound : j < r.entries.size := h.lt_size hs
    simp only [IndexedRow.insert, hs, Array.getElem?_setIfInBounds]
    by_cases here : j = i
    · subst here
      rw [if_pos rfl, if_pos bound, Option.map_some, Option.some.injEq]
      exact ⟨fun hi => h.name_eq hs hi, fun named => named ▸ hs⟩
    · simp only [if_neg here, ← h s i]

theorem Consistent.remove (h : r.Consistent) (s : Symbol) : (r.remove s).2.Consistent := by
  intro s' j
  cases hs : r.index[s]? with
  | none => simpa [IndexedRow.remove, hs] using h s' j
  | some i =>
    have bound : i < r.entries.size := h.lt_size hs
    have back := back?_of_lt bound
    generalize r.entries[r.entries.size - 1] = last at back
    have atEnd : r.index[last.name]? = some (r.entries.size - 1) := by
      rw [h, ← Array.back?_eq_getElem?, back]
      rfl
    simp only [IndexedRow.remove, hs, back, Array.getElem?_eq_getElem bound,
      Std.TreeMap.getElem?_erase, Std.TreeMap.getElem?_insert, Array.getElem?_pop,
      Array.getElem?_setIfInBounds, Array.size_setIfInBounds, Nat.compare_eq_eq]
    by_cases inside : j < r.entries.size - 1
    · by_cases here : i = j
      · -- the last entry has moved here
        subst here
        by_cases removed : s = s'
        · have : last.name ≠ s' := fun same => by
            rw [← removed] at same
            rw [same, hs] at atEnd
            have := Option.some.inj atEnd
            omega
          simp [removed, inside, bound, this]
        · have : r.index[s']? ≠ some i := fun hs' => removed (h.name_eq hs hs')
          by_cases moved : last.name = s' <;> simp [removed, moved, inside, bound, this]
      · simp only [if_pos inside, if_neg here, ← h s' j]
        by_cases removed : s = s'
        · simp [← removed, hs, here]
        · by_cases moved : last.name = s'
          · have : r.entries.size - 1 ≠ j := by omega
            simp [← moved, atEnd, here, this]
          · simp [removed, moved]
    · -- the last place is gone, and no other entry was there
      have away : ∀ {s'}, r.index[s']? = some j → last.name = s' := fun hs' => by
        have := h.lt_size hs'
        have : j = r.entries.size - 1 := by omega
        exact h.name_eq (this ▸ atEnd) hs'
      by_cases removed : s = s'
      · simp [removed, inside]
      · by_cases moved : last.name = s'
        · have : i ≠ j := fun same => removed ((away (same ▸ hs)).symm.trans moved)
          simp [removed, moved, inside, this]
        · have : r.index[s']? ≠ some j := fun hs' => moved (away hs')
          simp [removed, moved, inside, this]

end IndexedRow

structure MethodTable extends IndexedRow where
  consistent : toIndexedRow.Consistent

namespace MethodTable

instance : EmptyCollection MethodTable := ⟨⟨{}, IndexedRow.consistent_empty⟩⟩

instance : Inhabited MethodTable := ⟨∅⟩

def toList (t : MethodTable) : List Entry := t.entries.toList

def size (t : MethodTable) : Nat := t.entries.size

def isEmpty (t : MethodTable) : Bool := t.entries.isEmpty

def contains (t : MethodTable) (s : Symbol) : Bool := t.index.contains s

def get? (t : MethodTable) (s : Symbol) : Option Entry := t.index[s]?.bind (t.entries[·]?)

/-- The table with `e` in it, and the entry that `e` replaces. -/
def insert (t : MethodTable) (e : Entry) : Option Entry × MethodTable :=
  let written := t.toIndexedRow.insert e
  (written.1, ⟨written.2, t.consistent.insert e⟩)

def remove (t : MethodTable) (s : Symbol) : Option Entry × MethodTable :=
  let written := t.toIndexedRow.remove s
  (written.1, ⟨written.2, t.consistent.remove s⟩)

def publicNames (t : MethodTable) : List Symbol := (t.toList.filter (·.isPublic)).map (·.name)

end MethodTable

end InterfaceLedger
