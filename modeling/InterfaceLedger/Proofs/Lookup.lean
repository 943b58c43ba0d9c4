import InterfaceLedger.Proofs.Composition
import InterfaceLedger.Proofs.Tables

/-!
The search for a method, seen by names. An owner holds a name if its own table has an entry of that
name, and the search by symbol ends at the first holder among the ancestors. In a sound ledger the
search is never refused for a class, and the entry that it finds tells which owner it came from.
-/
namespace InterfaceLedger

namespace Ledger

variable {L : Ledger} {cls s : Symbol} {o : Owner} {owners : List Owner} {name : String}

structure Sound (L : Ledger) : Prop where
  named : L.Named
  tabled : L.Tabled
  composed : L.Composed

theorem Sound.edits {M : Ledger} (h : L.Sound) (edits : Edits L M) : M.Sound :=
  edits.keep (fun edit sound =>
    ⟨sound.named.edit edit, sound.tabled.edit edit, sound.composed.edit sound.named edit⟩) h

def holds (L : Ledger) (name : String) (o : Owner) : Bool :=
  (L.tableOf o).toList.any fun e => L.nameOf? e.name == some name

/-- The first owner that holds the name. -/
def holder? (L : Ledger) (owners : List Owner) (name : String) : Option Owner :=
  owners.find? (L.holds name)

def hit (L : Ledger) (owners : List Owner) (s : Symbol) : Option Entry :=
  owners.findSome? fun o => (L.tableOf o).get? s

theorem tableAt_ofClass {c : ClassRecord} (found : L.classAt? s = some c) :
    L.tableAt (.ofClass s) = .ok (L.tableOf (.ofClass s)) := by
  rw [tableAt, classAt_eq_ok_iff.2 found, tableOf_of_class found]
  rfl

theorem tableAt_ofModule {m : ModuleRecord} (found : L.moduleAt? s = some m) :
    L.tableAt (.ofModule s) = .ok (L.tableOf (.ofModule s)) := by
  rw [tableAt, moduleAt_eq_ok_iff.2 found, tableOf_of_module found]
  rfl

theorem Sound.tableAt_eq (h : L.Sound) (walk : L.ancestors cls = .ok owners) (mem : o ∈ owners) :
    L.tableAt o = .ok (L.tableOf o) := by
  cases o with
  | ofClass t =>
    obtain ⟨chain, lineage, rfl⟩ := h.named.ancestors_eq_ok_iff.1 walk
    obtain ⟨c, place⟩ := ofClass_mem_owners_iff.1 mem
    exact tableAt_ofClass (lineage.found place)
  | ofModule m =>
    have face := h.composed.isInterface_of_mem h.named walk mem
    obtain ⟨r, found, -⟩ := isInterface_iff.1 face
    exact tableAt_ofModule found
  | singleton => rfl

theorem search_eq_hit (tables : ∀ o ∈ owners, L.tableAt o = .ok (L.tableOf o)) :
    L.search s owners = .ok (L.hit owners s) := by
  induction owners with
  | nil => rfl
  | cons o rest ih =>
    have first := tables o List.mem_cons_self
    have others := ih fun p mem => tables p (List.mem_cons_of_mem o mem)
    rw [search, first, hit, List.findSome?_cons]
    dsimp only [bind, Except.bind]
    cases (L.tableOf o).get? s with
    | some e => rfl
    | none => exact others

theorem Sound.lookup_eq (h : L.Sound) (walk : L.ancestors cls = .ok owners) (own : MethodTable)
    (s : Symbol) : L.lookup cls own s = .ok ((own.get? s).or (L.hit owners s)) := by
  rw [lookup]
  cases own.get? s with
  | some e => rfl
  | none =>
    rw [walk]
    exact search_eq_hit fun o mem => h.tableAt_eq walk mem

theorem Sound.lookupName_eq (h : L.Sound) (walk : L.ancestors cls = .ok owners)
    (own : MethodTable) (name : String) :
    L.lookupName cls own name =
      .ok ((L.textSymbol? name).bind fun s => (own.get? s).or (L.hit owners s)) := by
  rw [lookupName]
  cases L.textSymbol? name with
  | some s => exact h.lookup_eq walk own s
  | none =>
    obtain ⟨c, found⟩ := exists_class_of_ancestors walk
    dsimp only
    rw [found]
    rfl

/-- The entry of a table of one's own under the symbol that the name has in the ledger. -/
def ownMethod? (L : Ledger) (own : MethodTable) (name : String) : Option Entry :=
  (L.textSymbol? name).bind own.get?

theorem lookupName_of_own {e : Entry} {own : MethodTable} (found : L.ownMethod? own name = some e) :
    L.lookupName cls own name = .ok (some e) := by
  obtain ⟨s, text, entry⟩ := Option.bind_eq_some_iff.1 found
  rw [lookupName, text]
  dsimp only
  rw [lookup, entry]

theorem lookupName_of_error {f : Fault} {own : MethodTable} (bad : L.classAt cls = .error f)
    (absent : L.ownMethod? own name = none) : L.lookupName cls own name = .error f := by
  rw [ownMethod?] at absent
  rw [lookupName]
  cases text : L.textSymbol? name with
  | none =>
    dsimp only
    rw [bad]
    rfl
  | some s =>
    rw [text, Option.bind_some] at absent
    dsimp only
    rw [lookup, absent]
    dsimp only
    rw [ancestors_of_error bad]
    rfl

theorem classResolve_of_error {f : Fault} (bad : L.classAt cls = .error f) (name : String) :
    L.classResolve cls name = .error f := by
  apply lookupName_of_error bad
  rw [ownMethod?, Option.bind_eq_none_iff]
  exact fun s _ => MethodTable.get?_empty s

theorem Sound.exists_ancestors (h : L.Sound) (isClass : L.isClass cls = true) :
    ∃ owners, L.ancestors cls = .ok owners := by
  obtain ⟨chain, walk⟩ := h.named.exists_lineage isClass
  exact ⟨_, h.named.ancestors_eq walk⟩

theorem Sound.exists_handlerFor (h : L.Sound) (isClass : L.isClass cls = true) :
    ∃ handler, L.handlerFor cls = .ok handler ∧
      ∀ g, handler = some g ↔ NearestHandler L cls g := by
  obtain ⟨chain, walk⟩ := h.named.exists_lineage isClass
  exact ⟨_, h.named.handlerFor_eq walk, fun g => walk.findSome?_handler⟩

theorem Sound.holds_iff (h : L.Sound) (text : L.textAt? s = some name) :
    L.holds name o = true ↔ ∃ e, (L.tableOf o).get? s = some e := by
  rw [holds, List.any_eq_true]
  constructor
  · rintro ⟨e, mem, named⟩
    obtain ⟨-, x, hx⟩ := h.tabled.truthful mem
    rw [nameOf?_of_text hx, beq_iff_eq, Option.some.injEq] at named
    subst named
    have same : e.name = s := h.named.texts hx text
    exact ⟨e, MethodTable.get?_eq_some_iff.2 ⟨mem, same⟩⟩
  · rintro ⟨e, found⟩
    obtain ⟨mem, same⟩ := MethodTable.get?_eq_some_iff.1 found
    exact ⟨e, mem, by rw [same, nameOf?_of_text text, beq_self_eq_true]⟩

theorem Tabled.holds_eq_of_rows {M : Ledger} (h : L.Tabled)
    (texts : ∀ {s x}, L.textAt? s = some x → M.textAt? s = some x)
    (rows : ∀ e, M.nameOf? e.name = some name →
      (e ∈ (M.tableOf o).toList ↔ e ∈ (L.tableOf o).toList)) :
    M.holds name o = L.holds name o := by
  have same : ∀ e ∈ (L.tableOf o).toList, M.nameOf? e.name = L.nameOf? e.name := by
    intro e mem
    obtain ⟨-, x, text⟩ := h.truthful mem
    rw [nameOf?_of_text text, nameOf?_of_text (texts text)]
  rw [holds, holds, Bool.eq_iff_iff, List.any_eq_true, List.any_eq_true]
  constructor
  · rintro ⟨e, mem, named⟩
    have old := (rows e (beq_iff_eq.1 named)).1 mem
    exact ⟨e, old, same e old ▸ named⟩
  · rintro ⟨e, mem, named⟩
    rw [← same e mem] at named
    exact ⟨e, (rows e (beq_iff_eq.1 named)).2 mem, named⟩

theorem Tabled.holds_eq {M : Ledger} (h : L.Tabled)
    (texts : ∀ {s x}, L.textAt? s = some x → M.textAt? s = some x)
    (table : M.tableOf o = L.tableOf o) (name : String) : M.holds name o = L.holds name o :=
  h.holds_eq_of_rows texts fun _ _ => by rw [table]

theorem Sound.text_of_holds (h : L.Sound) (held : L.holds name o = true) :
    ∃ s, L.textAt? s = some name := by
  obtain ⟨e, place, named⟩ := List.any_eq_true.1 held
  obtain ⟨-, x, text⟩ := h.tabled.truthful place
  rw [nameOf?_of_text text, beq_iff_eq] at named
  exact ⟨e.name, text.trans named⟩

theorem Sound.hit_eq_none_iff (h : L.Sound) (text : L.textAt? s = some name) :
    L.hit owners s = none ↔ L.holder? owners name = none := by
  rw [hit, holder?, List.findSome?_eq_none_iff, List.find?_eq_none]
  simp only [h.holds_iff text, Option.eq_none_iff_forall_ne_some, not_exists, ne_eq]

theorem Sound.exists_hit_of_holds (h : L.Sound) (mem : o ∈ owners) (held : L.holds name o = true)
    (text : L.textAt? s = some name) : ∃ e, L.hit owners s = some e := by
  cases found : L.hit owners s with
  | some e => exact ⟨e, rfl⟩
  | none =>
    have nowhere := List.find?_eq_none.1 ((h.hit_eq_none_iff text).1 found)
    exact absurd held (nowhere o mem)

theorem Sound.hit_eq_some_iff (h : L.Sound) (text : L.textAt? s = some name) {e : Entry} :
    L.hit owners s = some e ↔
      L.holder? owners name = some e.owner ∧ (L.tableOf e.owner).get? s = some e := by
  rw [hit, holder?]
  induction owners with
  | nil => simp
  | cons o rest ih =>
    rw [List.findSome?_cons, List.find?_cons]
    cases found : (L.tableOf o).get? s with
    | some e' =>
      -- an entry says whose it is, so both searches stop at the same owner
      have held : L.holds name o = true := (h.holds_iff text).2 ⟨e', found⟩
      obtain ⟨mem, -⟩ := MethodTable.get?_eq_some_iff.1 found
      have owner : e'.owner = o := (h.tabled.truthful mem).1
      rw [held]
      dsimp only
      constructor
      · intro same
        cases same
        exact ⟨congrArg some owner.symm, owner ▸ found⟩
      · rintro ⟨same, entry⟩
        cases same
        exact found.symm.trans entry
    | none =>
      have missed : L.holds name o = false := by
        rw [Bool.eq_false_iff, ne_eq, h.holds_iff text]
        simp [found]
      rw [missed]
      exact ih

end Ledger

theorem Reachable.sound {L : Ledger} (h : Reachable L) : L.Sound := ⟨h.named, h.tabled, h.composed⟩

end InterfaceLedger
