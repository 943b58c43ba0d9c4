import InterfaceLedger.Proofs.Gaps
import InterfaceLedger.Proofs.Growth
import Mathlib

/-!
Methods that come and go. Defining a method makes one class hold one name and removing it takes the
name away from the class; whatever else is held stays held, and every walk stays as it was. So one
comparison of two ledgers serves both: what is missing in the one that holds more is missing in the
other, and only this name can make a difference, below this class.
-/
namespace InterfaceLedger

namespace Ledger

variable {L M : Ledger} {cls sub face s : Symbol} {o : Owner} {owners : List Owner}
  {handler : Option Handler} {name x : String} {b : Bool} {chain : List (Symbol × ClassRecord)}

/-- In `M` the class holds the name or not, as `b` says; apart from that the same names are held as
    in `L`, and the classes differ in their tables only. -/
structure Rewritten (L M : Ledger) (cls : Symbol) (name : String) (b : Bool) : Prop where
  edits : Edits L M
  classes : ∀ {s c}, L.classAt? s = some c → ∃ t, M.classAt? s = some { c with table := t }
  slot : M.holds name (.ofClass cls) = b
  others : ∀ {x o}, x ≠ name ∨ o ≠ .ofClass cls → M.holds x o = L.holds x o

theorem Sound.rewritten_of_rows (h : L.Sound) (edits : Edits L M)
    (classes : ∀ {s c}, L.classAt? s = some c → ∃ t, M.classAt? s = some { c with table := t })
    (text : M.textAt? s = some name) (slot : M.holds name (.ofClass cls) = b)
    (rows : ∀ {o e}, e.name ≠ s ∨ o ≠ .ofClass cls →
      (e ∈ (M.tableOf o).toList ↔ e ∈ (L.tableOf o).toList)) : Rewritten L M cls name b where
  edits := edits
  classes := classes
  slot := slot
  others {x o} away := by
    apply h.tabled.holds_eq_of_rows edits.keeps_text
    intro e named
    apply rows
    -- an entry of another name has another symbol
    refine away.imp_left fun other same => other ?_
    rw [same, nameOf?_of_text text] at named
    exact (Option.some.inj named).symm

theorem exists_table_modifyClass {f : ClassRecord → ClassRecord} {g : MethodTable → MethodTable}
    (acts : ∀ c, f c = { c with table := g c.table }) {c : ClassRecord}
    (found : L.classAt? s = some c) :
    ∃ t, (L.modifyClass cls f).classAt? s = some { c with table := t } := by
  rw [classAt?_modifyClass, found, Option.map_some]
  split
  · exact ⟨_, congrArg some (acts c)⟩
  · exact ⟨c.table, rfl⟩

theorem Sound.rewritten_link (h : L.Sound) {c : ClassRecord} (found : L.classAt? cls = some c)
    (m : MethodDecl) : Rewritten L (link (.ofClass cls) L m) cls m.name true := by
  have unsealed : L.Open (.ofClass cls) := ⟨c, found⟩
  have edits := (link_edits unsealed m).1
  have text : (link (.ofClass cls) L m).textAt? (L.intern m.name).1 = some m.name :=
    (textAt?_modifyClass _ _ _ _).trans (textAt?_intern L m.name)
  have table : ∀ o, (link (.ofClass cls) L m).tableOf o = if o = .ofClass cls then
      ((L.tableOf o).insert (m.toEntry (L.intern m.name).1 (.ofClass cls))).2
        else L.tableOf o := by
    intro o
    have placed := tableOf_place (L := (L.intern m.name).2)
      (e := m.toEntry (L.intern m.name).1 (.ofClass cls)) (unsealed.intern m.name) o
    rwa [tableOf_intern] at placed
  refine h.rewritten_of_rows edits ?_ text ?_ ?_
  · intro s c found
    exact exists_table_modifyClass (g := fun t => (t.insert _).2) (fun _ => rfl)
      (classAt_eq_ok_iff.1 (classAt_intern m.name (classAt_eq_ok_iff.2 found)))
  · rw [holds, List.any_eq_true, table, if_pos rfl, MethodTable.toList_insert]
    exact ⟨_, Row.mem_put_self _ _, beq_iff_eq.2 (nameOf?_of_text text)⟩
  · intro o e away
    rw [table]
    split
    · rename_i here
      have other : e.name ≠ (L.intern m.name).1 := away.resolve_right fun apart => apart here
      rw [MethodTable.toList_insert]
      exact Row.mem_put_iff_of_ne other
    · exact Iff.rfl

theorem Sound.rewritten_remove (h : L.Sound) (text : L.textAt? s = some name) (cls : Symbol) :
    Rewritten L (L.modifyClass cls fun c => { c with table := (c.table.remove s).2 }) cls name
      false := by
  have edit : Edit L _ := .remove cls s
  refine h.rewritten_of_rows (.single edit) ?_ (edit.keeps_text text) ?_ ?_
  · intro t c found
    exact exists_table_modifyClass (g := fun t => (t.remove s).2) (fun _ => rfl) found
  · simp only [holds, List.any_eq_false, tableOf_remove, if_true, MethodTable.toList_remove]
    intro e mem named
    obtain ⟨-, x, written⟩ := h.tabled.truthful (Row.mem_of_mem_drop mem)
    rw [nameOf?_of_text (edit.keeps_text written), beq_iff_eq, Option.some.injEq] at named
    subst named
    have same : e.name = s := h.named.texts written text
    exact Row.name_ne_of_mem_drop (MethodTable.names_nodup _) mem same
  · intro o e away
    rw [tableOf_remove]
    split
    · rename_i here
      have other : e.name ≠ s := away.resolve_right fun apart => apart here
      rw [MethodTable.toList_remove]
      exact Row.mem_drop_iff_of_ne other
    · exact Iff.rfl

theorem Sound.rewritten_refl (h : L.Sound) (fresh : L.textSymbol? name = none) (cls : Symbol) :
    Rewritten L L cls name false where
  edits := .refl
  classes {_ c} found := ⟨c.table, found⟩
  slot := by
    by_contra held
    obtain ⟨s, text⟩ := h.text_of_holds (Bool.eq_true_of_not_eq_false held)
    exact textSymbol?_eq_none_iff.1 fresh s text
  others _ := rfl

theorem Sound.defineMethod_rewrites (h : L.Sound) (isClass : L.isClass cls = true)
    (m : MethodDecl) :
    ∃ M, defineMethod cls m L = .ok () M ∧ Rewritten L M cls m.name true := by
  obtain ⟨c, found⟩ := isClass_iff.1 isClass
  refine ⟨_, ?_, h.rewritten_link found m⟩
  rw [defineMethod_apply, classAt_eq_ok_iff.2 found]

theorem Sound.removeMethod_rewrites (h : L.Sound) (isClass : L.isClass cls = true)
    (name : String) :
    ∃ had M, removeMethod cls name L = .ok had M ∧ Rewritten L M cls name false := by
  obtain ⟨c, found⟩ := isClass_iff.1 isClass
  rw [removeMethod_apply, classAt_eq_ok_iff.2 found]
  cases text : L.textSymbol? name with
  | none => exact ⟨_, _, rfl, h.rewritten_refl text cls⟩
  | some s => exact ⟨_, _, rfl, h.rewritten_remove (textAt?_of_textSymbol? text) cls⟩

theorem Lineage.rewritten (classes : ∀ {s c}, L.classAt? s = some c →
      ∃ t, M.classAt? s = some { c with table := t }) (walk : Lineage L s chain) :
    ∃ chain', Lineage M s chain' ∧ chain'.flatMap ownersOf = chain.flatMap ownersOf ∧
      chain'.findSome? (·.2.handler) = chain.findSome? (·.2.handler) := by
  induction walk with
  | root found top =>
    obtain ⟨t, found'⟩ := classes found
    exact ⟨_, .root found' top, rfl, rfl⟩
  | step found super _ ih =>
    obtain ⟨t, found'⟩ := classes found
    obtain ⟨rest', tail', owners, handler⟩ := ih
    refine ⟨_, .step found' super tail', ?_, ?_⟩
    · rw [List.flatMap_cons, List.flatMap_cons, owners]
      rfl
    · rw [List.findSome?_cons, List.findSome?_cons, handler]

structure Ascent (L : Ledger) (s : Symbol) (owners : List Owner) (handler : Option Handler) :
    Prop where
  ancestors : L.ancestors s = .ok owners
  handled : L.handlerFor s = .ok handler
  nearest : ∀ g, handler = some g ↔ NearestHandler L s g

theorem Named.ascent (h : L.Named) (walk : Lineage L s chain) :
    Ascent L s (chain.flatMap ownersOf) (chain.findSome? (·.2.handler)) :=
  ⟨h.ancestors_eq walk, h.handlerFor_eq walk, fun _ => walk.findSome?_handler⟩

theorem Rewritten.ascent (h : Rewritten L M cls name b) (named : L.Named)
    (ascent : Ascent L sub owners handler) : Ascent M sub owners handler := by
  obtain ⟨chain, walk, rfl⟩ := named.ancestors_eq_ok_iff.1 ascent.ancestors
  cases (named.handlerFor_eq walk).symm.trans ascent.handled
  obtain ⟨chain', walk', owners, handler⟩ := walk.rewritten h.classes
  have ascent' := (named.edits h.edits).ascent walk'
  rwa [owners, handler] at ascent'

theorem Rewritten.declares_iff (h : Rewritten L M cls name b) (sound : L.Sound)
    (interface : L.isInterface face = true) : M.Declares face x ↔ L.Declares face x := by
  obtain ⟨r, found, role⟩ := isInterface_iff.1 interface
  have table : M.tableOf (.ofModule face) = L.tableOf (.ofModule face) := by
    rw [tableOf_ofModule, tableOf_ofModule, found, h.edits.keeps_face found role]
  exact sound.tabled.declares_iff h.edits.keeps_text table

/-- The search for the name ends at the interface itself, or nowhere. -/
def Unserved (L : Ledger) (owners : List Owner) (face : Symbol) (name : String) : Prop :=
  L.holder? owners name = some (.ofModule face) ∨ L.holder? owners name = none

theorem unserved_cons_iff : L.Unserved (o :: owners) face x ↔
    if L.holds x o then o = .ofModule face else L.Unserved owners face x := by
  rw [Unserved, holder?, List.find?_cons]
  cases L.holds x o with
  | true => simp
  | false => exact Iff.rfl

theorem Unserved.of_more (more : ∀ o, L.holds x o = true → M.holds x o = true)
    (modules : ∀ m, M.holds x (.ofModule m) = L.holds x (.ofModule m))
    (unserved : M.Unserved owners face x) : L.Unserved owners face x := by
  induction owners with
  | nil => exact .inr rfl
  | cons o rest ih =>
    rw [unserved_cons_iff] at unserved ⊢
    cases held : M.holds x o with
    | true =>
      rw [held] at unserved
      have here : o = .ofModule face := unserved
      rwa [if_pos (here ▸ (modules face).symm.trans (here ▸ held))]
    | false =>
      -- what `M` passes by, `L` passes by too, and the search goes on
      rw [held] at unserved
      have missed : ¬ L.holds x o = true := fun old => by
        rw [more o old] at held
        cases held
      rw [if_neg missed]
      exact ih unserved

theorem Rewritten.unserved_iff (h : Rewritten L M cls name b)
    (away : x ≠ name ∨ .ofClass cls ∉ owners) :
    M.Unserved owners face x ↔ L.Unserved owners face x := by
  have same : M.holder? owners x = L.holder? owners x := by
    apply List.find?_congr
    intro o mem
    exact h.others (away.imp_right fun absent here => absent (here ▸ mem))
  rw [Unserved, Unserved, same]

theorem Rewritten.unserved_of_written (h : Rewritten L M cls name true)
    (unserved : M.Unserved owners face x) : L.Unserved owners face x := by
  refine unserved.of_more (fun o held => ?_) fun m => h.others (.inr nofun)
  by_cases here : x = name ∧ o = .ofClass cls
  · exact here.1 ▸ here.2 ▸ h.slot
  · rw [h.others (not_and_or.1 here), held]

theorem Rewritten.unserved_of_erased (h : Rewritten L M cls name false)
    (unserved : L.Unserved owners face x) : M.Unserved owners face x := by
  refine unserved.of_more (fun o held => ?_) fun m =>
    (h.others (o := .ofModule m) (.inr nofun)).symm
  by_cases here : x = name ∧ o = .ofClass cls
  · rw [here.1, here.2, h.slot] at held
    cases held
  · rw [← h.others (not_and_or.1 here), held]

theorem Rewritten.not_unserved (h : Rewritten L M cls name true) {rest : List Owner} :
    ¬ M.Unserved (.ofClass cls :: rest) face name := by
  rw [unserved_cons_iff, if_pos h.slot]
  nofun

/-- One list has the other in it, in the same order, and nothing else but possibly the name. -/
structure Narrows (less more : List String) (name : String) : Prop where
  sublist : less.Sublist more
  rest : ∀ x ∈ more, x ≠ name → x ∈ less

theorem sublist_of_sorted {less more : List String} (sorted : less.Pairwise (· < ·))
    (sorted' : more.Pairwise (· < ·)) (kept : less ⊆ more) : less.Sublist more := by
  have distinct : less.Nodup := sorted.imp ne_of_lt
  exact List.sublist_of_subperm_of_pairwise (List.subperm_of_subset distinct kept) sorted sorted'

theorem narrows_of_sorted {less more : List String} (sorted : less.Pairwise (· < ·))
    (sorted' : more.Pairwise (· < ·)) (kept : less ⊆ more)
    (rest : ∀ x ∈ more, x ≠ name → x ∈ less) : Narrows less more name where
  sublist := sublist_of_sorted sorted sorted' kept
  rest := rest

section Lists

variable (sound : L.Sound) (interface : L.isInterface face = true)
  (ascent : Ascent L sub owners handler)

include sound ascent in
theorem Ascent.mem_lacking_iff : x ∈ L.lacking owners ∅ handler face ↔
    L.Declares face x ∧ L.Uncaught sub x ∧ L.Unserved owners face x := by
  rw [sound.mem_lacking_iff ascent.nearest]
  constructor
  · intro missing
    exact ⟨missing.declared, missing.uncaught, missing.unserved⟩
  · rintro ⟨declared, uncaught, unserved⟩
    exact ⟨declared, unserved, uncaught⟩

include sound interface ascent

theorem Rewritten.gap_eq (h : Rewritten L M cls name b) :
    M.gap sub ∅ face = .ok (M.lacking owners ∅ handler face) := by
  have ascent' := h.ascent sound.named ascent
  exact (sound.edits h.edits).gap_eq (h.edits.keeps_interface interface) ascent'.ancestors
    ascent'.handled

theorem Rewritten.mem_lacking_iff (h : Rewritten L M cls name b) :
    x ∈ M.lacking owners ∅ handler face ↔
      L.Declares face x ∧ L.Uncaught sub x ∧ M.Unserved owners face x := by
  have ascent' := h.ascent sound.named ascent
  rw [ascent'.mem_lacking_iff (sound.edits h.edits), h.declares_iff sound interface,
    uncaught_iff ascent'.nearest, uncaught_iff ascent.nearest]

theorem Rewritten.mem_lacking_congr (h : Rewritten L M cls name b)
    (away : x ≠ name ∨ .ofClass cls ∉ owners) :
    x ∈ M.lacking owners ∅ handler face ↔ x ∈ L.lacking owners ∅ handler face := by
  rw [h.mem_lacking_iff sound interface ascent, ascent.mem_lacking_iff sound,
    h.unserved_iff away]

theorem Rewritten.lacking_unchanged (h : Rewritten L M cls name b)
    (away : .ofClass cls ∉ owners) :
    M.lacking owners ∅ handler face = L.lacking owners ∅ handler face :=
  (sound.edits h.edits).pairwise_lacking.eq_of_mem_iff sound.pairwise_lacking fun _ =>
    h.mem_lacking_congr sound interface ascent (.inr away)

theorem Rewritten.lacking_narrows (h : Rewritten L M cls name true) :
    Narrows (M.lacking owners ∅ handler face) (L.lacking owners ∅ handler face) name := by
  apply narrows_of_sorted (sound.edits h.edits).pairwise_lacking sound.pairwise_lacking
  · intro x mem
    rw [h.mem_lacking_iff sound interface ascent] at mem
    obtain ⟨declared, uncaught, unserved⟩ := mem
    exact (ascent.mem_lacking_iff sound).2 ⟨declared, uncaught, h.unserved_of_written unserved⟩
  · intro x mem other
    exact (h.mem_lacking_congr sound interface ascent (.inl other)).2 mem

theorem Rewritten.lacking_widens (h : Rewritten L M cls name false) :
    Narrows (L.lacking owners ∅ handler face) (M.lacking owners ∅ handler face) name := by
  apply narrows_of_sorted sound.pairwise_lacking (sound.edits h.edits).pairwise_lacking
  · intro x mem
    rw [ascent.mem_lacking_iff sound] at mem
    obtain ⟨declared, uncaught, unserved⟩ := mem
    exact (h.mem_lacking_iff sound interface ascent).2
      ⟨declared, uncaught, h.unserved_of_erased unserved⟩
  · intro x mem other
    exact (h.mem_lacking_congr sound interface ascent (.inl other)).1 mem

theorem Rewritten.lacking_own (h : Rewritten L M cls name true) {rest : List Owner}
    (first : owners = .ofClass cls :: rest) :
    M.lacking owners ∅ handler face =
      (L.lacking owners ∅ handler face).filter (· ≠ name) := by
  have narrows := h.lacking_narrows sound interface ascent
  apply (sound.edits h.edits).pairwise_lacking.eq_of_mem_iff (sound.pairwise_lacking.filter _)
  intro x
  rw [List.mem_filter, decide_eq_true_eq]
  constructor
  · intro mem
    refine ⟨narrows.sublist.subset mem, ?_⟩
    rintro rfl
    obtain ⟨-, -, unserved⟩ := (h.mem_lacking_iff sound interface ascent).1 mem
    exact h.not_unserved (first ▸ unserved)
  · rintro ⟨mem, other⟩
    exact narrows.rest x mem other

end Lists

/-- A method that is defined takes at most its name out of a gap, and does so in the class itself; one
    that is removed puts at most its name in. The gaps of classes that are not below the class stay
    as they are. -/
theorem gap_follows_methods {L : Ledger} {cls sub face : Symbol} (h : Reachable L)
    (target : L.isClass cls = true) (isClass : L.isClass sub = true)
    (interface : L.isInterface face = true) :
    ∃ before, L.gap sub ∅ face = .ok before ∧
      (∀ m, ∃ M after, defineMethod cls m L = .ok () M ∧ M.gap sub ∅ face = .ok after ∧
        Narrows after before m.name ∧ (sub = cls → after = before.filter (· ≠ m.name)) ∧
        (¬ Descends L cls sub → after = before)) ∧
      ∀ name, ∃ had M after, removeMethod cls name L = .ok had M ∧
        M.gap sub ∅ face = .ok after ∧ Narrows before after name ∧
        (¬ Descends L cls sub → after = before) := by
  have sound := h.sound
  obtain ⟨chain, walk⟩ := sound.named.exists_lineage isClass
  have ascent := sound.named.ascent walk
  have away : ¬ Descends L cls sub → .ofClass cls ∉ chain.flatMap ownersOf :=
    mt (sound.named.ofClass_mem_ancestors_iff ascent.ancestors).1
  refine ⟨_, sound.gap_eq interface ascent.ancestors ascent.handled, ?_, ?_⟩
  · intro m
    obtain ⟨M, done, written⟩ := sound.defineMethod_rewrites target m
    refine ⟨M, _, done, written.gap_eq sound interface ascent,
      written.lacking_narrows sound interface ascent, ?_, ?_⟩
    · rintro rfl
      obtain ⟨c, found⟩ := isClass_iff.1 isClass
      obtain ⟨above, first⟩ := sound.named.exists_above ascent.ancestors found
      exact written.lacking_own sound interface ascent first
    · intro elsewhere
      exact written.lacking_unchanged sound interface ascent (away elsewhere)
  · intro name
    obtain ⟨had, M, done, erased⟩ := sound.removeMethod_rewrites target name
    refine ⟨had, M, _, done, erased.gap_eq sound interface ascent,
      erased.lacking_widens sound interface ascent, ?_⟩
    intro elsewhere
    exact erased.lacking_unchanged sound interface ascent (away elsewhere)

theorem gap_follows_methods_household :
    Reachable household ∧ household.isClass 9 = true ∧ household.isClass 11 = true ∧
      household.isInterface 1 = true ∧ household.gap 9 ∅ 1 = .ok ["off"] ∧
      (∃ M, defineMethod 9 { name := "off" } household = .ok () M ∧ M.gap 9 ∅ 1 = .ok []) ∧
      household.gap 11 ∅ 1 = .ok ["off"] ∧
      ∃ had M after, removeMethod 9 "on" household = .ok had M ∧
        M.gap 11 ∅ 1 = .ok after ∧ Narrows ["off"] after "on" := by
  have device : household.isClass 9 = true := by cbv
  have lamp : household.isClass 11 = true := by cbv
  have interface : household.isInterface 1 = true := by cbv
  have gap : household.gap 9 ∅ 1 = .ok ["off"] := by cbv
  have gapBelow : household.gap 11 ∅ 1 = .ok ["off"] := by cbv
  obtain ⟨before, gap', defined, -⟩ :=
    gap_follows_methods reachable_household device device interface
  obtain ⟨before', gapBelow', -, removed⟩ :=
    gap_follows_methods reachable_household device lamp interface
  cases gap.symm.trans gap'
  cases gapBelow.symm.trans gapBelow'
  obtain ⟨M, after, done, served, -, own, -⟩ := defined { name := "off" }
  obtain ⟨had, N, after', done', unserved, widens, -⟩ := removed "on"
  rw [own rfl] at served
  exact ⟨reachable_household, device, lamp, interface, gap, ⟨M, done, served⟩, gapBelow,
    had, N, after', done', unserved, widens⟩

end Ledger

end InterfaceLedger
