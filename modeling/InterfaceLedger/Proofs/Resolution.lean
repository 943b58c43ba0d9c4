import InterfaceLedger.Proofs.Instances
import InterfaceLedger.Proofs.Lookup
import Mathlib

/-!
Resolution by names alone. The tables that a search goes through, written out one after the other,
are its rows; in a sound ledger a method is resolved to the first entry of that name in the rows,
and whether the name is a text yet makes no difference. So what is found stands in the table of the
first holder among the ancestors and carries that holder as its owner.
-/
namespace InterfaceLedger

namespace Ledger

variable {L : Ledger} {cls s : Symbol} {o : Owner} {owners : List Owner} {own : MethodTable}
  {row : List Entry} {name : String} {e : Entry}

def isNamed (L : Ledger) (name : String) (e : Entry) : Bool := L.nameOf? e.name == some name

theorem isNamed_iff : L.isNamed name e = true ↔ L.nameOf? e.name = some name := beq_iff_eq

def rows (L : Ledger) (owners : List Owner) : List Entry :=
  owners.flatMap fun o => (L.tableOf o).toList

theorem holds_iff_exists : L.holds name o = true ↔ ∃ e ∈ (L.tableOf o).toList, L.isNamed name e := by
  rw [holds, List.any_eq_true]
  rfl

theorem Sound.spelled_table (h : L.Sound) (o : Owner) : L.Spelled (L.tableOf o).toList :=
  fun _ mem => (h.tabled.truthful mem).2

theorem Sound.spelled_rows (h : L.Sound) (owners : List Owner) : L.Spelled (L.rows owners) := by
  intro e mem
  obtain ⟨o, -, place⟩ := List.mem_flatMap.1 mem
  exact h.spelled_table o e place

theorem Spelled.append {more : List Entry} (h : L.Spelled row) (h' : L.Spelled more) :
    L.Spelled (row ++ more) := by
  intro e mem
  exact (List.mem_append.1 mem).elim (h e) (h' e)

theorem Named.find?_isNamed (h : L.Named) (spelled : L.Spelled row)
    (text : L.textAt? s = some name) : row.find? (L.isNamed name) = Row.find? s row := by
  apply List.find?_congr
  intro e mem
  obtain ⟨x, written⟩ := spelled e mem
  rw [Bool.eq_iff_iff, isNamed_iff, nameOf?_of_text written, decide_eq_true_eq,
    Option.some.injEq]
  constructor
  · rintro rfl
    exact h.texts written text
  · rintro rfl
    exact Option.some.inj (written.symm.trans text)

theorem spelled_empty (L : Ledger) : L.Spelled (∅ : MethodTable).toList := by
  intro e mem
  cases mem

theorem Spelled.find?_isNamed_eq (h : L.Spelled row) {M : Ledger}
    (texts : ∀ {s x}, L.textAt? s = some x → M.textAt? s = some x) (name : String) :
    row.find? (M.isNamed name) = row.find? (L.isNamed name) := by
  apply List.find?_congr
  intro e mem
  obtain ⟨x, text⟩ := h e mem
  rw [isNamed, isNamed, nameOf?_of_text text, nameOf?_of_text (texts text)]

theorem find?_isNamed_of_fresh (spelled : L.Spelled row) (fresh : L.textSymbol? name = none) :
    row.find? (L.isNamed name) = none := by
  rw [List.find?_eq_none]
  intro e mem named
  obtain ⟨x, written⟩ := spelled e mem
  rw [isNamed_iff, nameOf?_of_text written, Option.some.injEq] at named
  subst named
  exact textSymbol?_eq_none_iff.1 fresh e.name written

theorem hit_eq_find? (L : Ledger) (owners : List Owner) (s : Symbol) :
    L.hit owners s = Row.find? s (L.rows owners) := by
  rw [hit, Row.find?, rows, List.find?_flatMap]
  apply congrArg (List.findSome? · owners)
  funext o
  exact (L.tableOf o).get?_eq s

theorem Sound.lookupName_eq_find? (h : L.Sound) (walk : L.ancestors cls = .ok owners)
    (spelled : L.Spelled own.toList) (name : String) :
    L.lookupName cls own name = .ok ((own.toList ++ L.rows owners).find? (L.isNamed name)) := by
  have all : L.Spelled (own.toList ++ L.rows owners) := spelled.append (h.spelled_rows owners)
  rw [h.lookupName_eq walk]
  cases found : L.textSymbol? name with
  | none => rw [find?_isNamed_of_fresh all found, Option.bind_none]
  | some s =>
    rw [h.named.find?_isNamed all (textAt?_of_textSymbol? found), Option.bind_some,
      MethodTable.get?_eq, hit_eq_find?, Row.find?, Row.find?, Row.find?, List.find?_append]

theorem Sound.classResolve_eq_find? (h : L.Sound) (walk : L.ancestors cls = .ok owners)
    (name : String) :
    L.classResolve cls name = .ok ((L.rows owners).find? (L.isNamed name)) :=
  h.lookupName_eq_find? walk (spelled_empty L) name

theorem resolve_eq_find? {i : Instance} (home : BelongsTo L i)
    (walk : L.ancestors i.cls = .ok owners) (name : String) :
    L.resolve i name = .ok ((i.own.toList ++ L.rows owners).find? (L.isNamed name)) :=
  home.reachable.sound.lookupName_eq_find? walk home.spelled name

theorem Sound.removeMethod_eq (h : L.Sound) {c : ClassRecord} (found : L.classAt? s = some c)
    (name : String) :
    removeMethod s name L =
      match c.table.toList.find? (L.isNamed name) with
      | some e =>
        .ok true (L.modifyClass s fun c => { c with table := (c.table.remove e.name).2 })
      | none => .ok false L := by
  have spelled := h.spelled_table (.ofClass s)
  rw [tableOf_of_class found] at spelled
  rw [removeMethod_apply, classAt_eq_ok_iff.2 found]
  cases text : L.textSymbol? name with
  | none => rw [find?_isNamed_of_fresh spelled text]
  | some n =>
    have named := h.named.find?_isNamed spelled (textAt?_of_textSymbol? text)
    dsimp only
    rw [named, ← MethodTable.get?_eq, MethodTable.contains_eq]
    cases here : c.table.get? n with
    | some e =>
      obtain ⟨-, rfl⟩ := MethodTable.get?_eq_some_iff.1 here
      rfl
    | none =>
      -- a text, but no method of this class: the write changes nothing
      have fixed : { c with table := (c.table.remove n).2 } = c := by
        rw [MethodTable.remove_of_absent here]
      rw [modifyClass_of_fixed found fixed]
      rfl

/-- `e` is the method of this name in the table of the first owner that has one, and says so. -/
structure FirstHeld (L : Ledger) (owners : List Owner) (name : String) (e : Entry) : Prop where
  first : ∃ before after, owners = before ++ e.owner :: after ∧
    ∀ o ∈ before, L.holds name o = false
  place : e ∈ (L.tableOf e.owner).toList
  named : L.nameOf? e.name = some name
  only : ∀ e' ∈ (L.tableOf e.owner).toList, L.nameOf? e'.name = some name → e' = e

theorem FirstHeld.skip (h : FirstHeld L owners name e) (missed : L.holds name o = false) :
    FirstHeld L (o :: owners) name e where
  first := by
    obtain ⟨before, after, rfl, earlier⟩ := h.first
    exact ⟨o :: before, after, rfl, List.forall_mem_cons.2 ⟨missed, earlier⟩⟩
  place := h.place
  named := h.named
  only := h.only

theorem Named.find?_eq_of_mem (h : L.Named) (spelled : L.Spelled own.toList)
    (place : e ∈ own.toList) (named : L.nameOf? e.name = some name) :
    own.toList.find? (L.isNamed name) = some e := by
  obtain ⟨x, text⟩ := spelled e place
  rw [nameOf?_of_text text, Option.some.injEq] at named
  subst named
  rw [h.find?_isNamed spelled text, ← MethodTable.get?_eq, MethodTable.get?_eq_some_iff]
  exact ⟨place, rfl⟩

theorem Sound.firstHeld_head (h : L.Sound) (place : e ∈ (L.tableOf e.owner).toList)
    (named : L.nameOf? e.name = some name) (rest : List Owner) :
    FirstHeld L (e.owner :: rest) name e where
  first := ⟨[], rest, rfl, by simp⟩
  place := place
  named := named
  only e' place' named' := by
    have spelled := h.spelled_table e.owner
    have here := h.named.find?_eq_of_mem spelled place named
    have there := h.named.find?_eq_of_mem spelled place' named'
    exact Option.some.inj (there.symm.trans here)

theorem Sound.firstHeld_of_find? (h : L.Sound)
    (found : (L.rows owners).find? (L.isNamed name) = some e) : FirstHeld L owners name e := by
  induction owners with
  | nil => cases found
  | cons o rest ih =>
    rw [rows, List.flatMap_cons, List.find?_append] at found
    cases here : (L.tableOf o).toList.find? (L.isNamed name) with
    | some e' =>
      rw [here] at found
      cases found
      have place := List.mem_of_find?_eq_some here
      obtain ⟨rfl, -⟩ := h.tabled.truthful place
      exact h.firstHeld_head place (isNamed_iff.1 (List.find?_some here)) rest
    | none =>
      rw [here] at found
      have missed : L.holds name o = false := by
        rw [holds, List.any_eq_false]
        exact List.find?_eq_none.1 here
      exact (ih found).skip missed

theorem FirstHeld.holder? (h : FirstHeld L owners name e) :
    L.holder? owners name = some e.owner := by
  obtain ⟨before, after, rfl, earlier⟩ := h.first
  have held : L.holds name e.owner = true :=
    holds_iff_exists.2 ⟨e, h.place, isNamed_iff.2 h.named⟩
  rw [Ledger.holder?, List.find?_eq_some_iff_append]
  refine ⟨held, before, after, rfl, ?_⟩
  intro o mem
  rw [earlier o mem]
  rfl

theorem isSome_find?_rows :
    ((L.rows owners).find? (L.isNamed name)).isSome = true ↔
      ∃ o ∈ owners, L.holds name o = true := by
  simp only [List.find?_isSome, rows, List.mem_flatMap, holds_iff_exists]
  constructor
  · rintro ⟨e, ⟨o, mem, place⟩, named⟩
    exact ⟨o, mem, e, place, named⟩
  · rintro ⟨o, mem, e, place, named⟩
    exact ⟨e, ⟨o, mem, place⟩, named⟩

theorem Sound.exists_resolved_iff (h : L.Sound) (walk : L.ancestors cls = .ok owners) :
    (∃ e, L.classResolve cls name = .ok (some e) ∧ e.owner = o) ↔
      L.holder? owners name = some o := by
  rw [h.classResolve_eq_find? walk]
  constructor
  · rintro ⟨e, found, rfl⟩
    exact (h.firstHeld_of_find? (Except.ok.inj found)).holder?
  · intro first
    obtain ⟨e, found⟩ := Option.isSome_iff_exists.1 (isSome_find?_rows.2
      ⟨o, List.mem_of_find?_eq_some first, List.find?_some first⟩)
    have owner := (h.firstHeld_of_find? found).holder?.symm.trans first
    exact ⟨e, congrArg Except.ok found, Option.some.inj owner⟩

/-- What an instance makes of a name that its class resolves to `found`. -/
structure OwnFirst (L : Ledger) (i : Instance) (name : String) (found : Option Entry) : Prop where
  own : ∀ e ∈ i.own.toList, L.nameOf? e.name = some name →
    e.owner = .singleton ∧ L.resolve i name = .ok (some e)
  other : (∀ e ∈ i.own.toList, L.nameOf? e.name ≠ some name) → L.resolve i name = .ok found

theorem ownFirst {i : Instance} (home : BelongsTo L i) (walk : L.ancestors i.cls = .ok owners)
    (name : String) : OwnFirst L i name ((L.rows owners).find? (L.isNamed name)) := by
  have resolved := resolve_eq_find? home walk name
  rw [List.find?_append] at resolved
  constructor
  · intro e place named
    have find := home.reachable.named.find?_eq_of_mem home.spelled place named
    rw [find] at resolved
    exact ⟨home.madeBy.singletons e place, resolved⟩
  · intro none
    have find : i.own.toList.find? (L.isNamed name) = .none := by
      rw [List.find?_eq_none]
      intro e place named
      exact none e place (isNamed_iff.1 named)
    rw [find] at resolved
    exact resolved

/-- A class resolves a name exactly if some ancestor holds it, and then to the method of the first
    that does, which is also the owner that the method names; an instance of the class, at home in
    the ledger, has its own methods before that. -/
theorem resolution_finds_first_holder {L : Ledger} {cls : Symbol} (h : Reachable L)
    (isClass : L.isClass cls = true) (name : String) :
    ∃ owners found, L.ancestors cls = .ok owners ∧ L.classResolve cls name = .ok found ∧
      (found.isSome = true ↔ ∃ o ∈ owners, L.holds name o = true) ∧
      (∀ e, found = some e → FirstHeld L owners name e) ∧
      ∀ i, BelongsTo L i → i.cls = cls → OwnFirst L i name found := by
  obtain ⟨owners, walk⟩ := h.sound.exists_ancestors isClass
  refine ⟨owners, _, walk, h.sound.classResolve_eq_find? walk name, isSome_find?_rows, ?_, ?_⟩
  · intro e found
    exact h.sound.firstHeld_of_find? found
  · rintro i home rfl
    exact ownFirst home walk name

theorem intern_of_known (known : L.textSymbol? name = some s) : L.intern name = (s, L) := by
  rw [intern, known]

def offEntry (owner : Owner) : Entry := ({ name := "off" } : MethodDecl).toEntry 3 owner

def lamp : Instance := { cls := 11, own := ((∅ : MethodTable).insert (offEntry .singleton)).2 }

theorem lamp_belongs : BelongsTo household lamp := by
  have known : household.textSymbol? "off" = some 3 := by cbv
  have isClass : household.isClass 11 = true := by cbv
  have made : household.instantiate 11 = .ok { cls := 11 } :=
    instantiate_eq_ok_iff.2 ⟨isClass_iff_classAt.1 isClass, rfl⟩
  have extended := (BelongsTo.made reachable_household made).extended { name := "off" }
  rw [addSingleton, intern_of_known known] at extended
  exact extended

theorem resolution_finds_first_holder_household :
    Reachable household ∧ household.isClass 11 = true ∧ BelongsTo household lamp ∧
      household.classResolve 11 "off" = .ok (some (offEntry (.ofModule 1))) ∧
      FirstHeld household [.ofClass 11, .ofClass 9, .ofModule 1, .ofModule 6] "off"
        (offEntry (.ofModule 1)) ∧
      household.resolve lamp "off" = .ok (some (offEntry .singleton)) := by
  have isClass : household.isClass 11 = true := by cbv
  have walk : household.ancestors 11 =
      .ok [.ofClass 11, .ofClass 9, .ofModule 1, .ofModule 6] := by cbv
  have resolved : household.classResolve 11 "off" = .ok (some (offEntry (.ofModule 1))) := by cbv
  have spelled : household.nameOf? 3 = some "off" := by cbv
  have place : offEntry .singleton ∈ lamp.own.toList := List.mem_singleton.2 rfl
  obtain ⟨owners, found, walk', resolved', -, first, own⟩ :=
    resolution_finds_first_holder reachable_household isClass "off"
  cases walk.symm.trans walk'
  cases resolved.symm.trans resolved'
  exact ⟨reachable_household, isClass, lamp_belongs, resolved, first _ rfl,
    ((own lamp lamp_belongs rfl).own _ place spelled).2⟩

end Ledger

end InterfaceLedger
