import InterfaceLedger.Proofs.Permanence
import InterfaceLedger.Proofs.Reflection
import InterfaceLedger.Proofs.Untouched
import Mathlib

/-!
Methods that are withdrawn. To define a method and remove it again comes to the same as to remove it at
once: the new entry takes the place that the removal then fills, or is the last one and just goes. What
is left of it is the name, which may be a new text. A ledger with one text more mirrors the one without
it, and here every twin is the very same symbol, so what is said of a class is the same as well.
-/
namespace InterfaceLedger

theorem Row.drop_put (e : Entry) (row : List Entry) : drop e.name (put e row) = drop e.name row := by
  induction row with
  | nil => simp [put, drop]
  | cons x rest ih =>
    rw [put]
    by_cases here : x.name = e.name
    · rw [if_pos here, drop, drop, if_pos rfl, if_pos here]
    · rw [if_neg here, drop, drop, if_neg here, if_neg here, ih]

namespace Ledger

variable {L M N : Ledger} {cls s t : Symbol} {name : String} {c : ClassRecord}

theorem Named.eq_of_twin (h : L.Named) (edits : Edits L M) (twin : Twin L M s t) : t = s := by
  obtain ⟨l, here, there⟩ := twin
  exact (h.edits edits).eq_of_label there (edits.keeps_label here)

theorem Named.twin_refl (h : L.Named) (given : s < L.size) : Twin L L s s := h.twin_self .refl given

theorem Sound.like_table (h : L.Sound) {o : Owner} (owner : o.Like (Twin L L) o) :
    (L.tableOf o).Like (Twin L L) (L.tableOf o) := by
  refine List.forall₂_same.2 fun e mem => ?_
  obtain ⟨rfl, x, text⟩ := h.tabled.truthful mem
  exact ⟨h.named.twin_refl (lt_size_of_bind text), owner, rfl, rfl, rfl, rfl⟩

theorem Named.twin_name (h : L.Named) {n : Symbol} (name : L.nameSymbolAt? s = some n) :
    Twin L L n n := by
  obtain ⟨-, x, text⟩ := h.names name
  exact h.twin_refl (lt_size_of_bind text)

theorem Sound.like_class (h : L.Sound) (found : L.classAt? s = some c) :
    c.Like (Twin L L) c where
  name := h.named.twin_name (nameSymbolAt?_of_class found)
  parent := by
    cases super : c.parent with
    | none => exact .none
    | some p =>
      obtain ⟨-, isClass⟩ := h.named.super_of_class found super
      exact .some (h.named.twin_refl (lt_size_of_isClass isClass))
  table := by
    have table := h.like_table (.ofClass (h.named.twin_refl (lt_size_of_bind found)))
    rwa [tableOf_of_class found] at table
  includes := by
    refine List.forall₂_same.2 fun m mem => ?_
    rw [← includesOf_of_class found] at mem
    obtain ⟨r, module, -⟩ := isInterface_iff.1 (h.composed.faces mem)
    exact h.named.twin_refl (lt_size_of_bind module)
  handler := rfl

theorem Sound.like_module (h : L.Sound) {m : ModuleRecord} (found : L.moduleAt? s = some m) :
    m.Like (Twin L L) m where
  name := h.named.twin_name (nameSymbolAt?_of_module found)
  role := rfl
  table := by
    have table := h.like_table (.ofModule (h.named.twin_refl (lt_size_of_bind found)))
    rwa [tableOf_of_module found] at table

theorem Sound.mirror_self (h : L.Sound) : Mirror L L where
  left := h
  right := h
  forth _ label := ⟨_, label⟩
  back _ label := ⟨_, label⟩
  classes twin := by
    cases h.named.eq_of_twin .refl twin
    rename_i s
    cases found : L.classAt? s with
    | none => exact .none
    | some c => exact .some (h.like_class found)
  modules twin := by
    cases h.named.eq_of_twin .refl twin
    rename_i s
    cases found : L.moduleAt? s with
    | none => exact .none
    | some m => exact .some (h.like_module found)

/-- What both ledgers say of a class. -/
structure SameReport (L M : Ledger) (cls : Symbol) : Prop where
  ancestors : M.ancestors cls = L.ancestors cls
  interfaces : M.interfaces cls = L.interfaces cls
  resolved : ∀ name, M.classResolve cls name = L.classResolve cls name
  gaps : M.gaps cls ∅ = L.gaps cls ∅
  gap : ∀ face < L.size, M.gap cls ∅ face = L.gap cls ∅ face

theorem Mirror.sameReport (h : Mirror L M) (self : ∀ s < L.size, Twin L M s s)
    (given : cls < L.size) : SameReport L M cls := by
  have here := self cls given
  have same : ∀ s t, Twin L M s t → t = s := fun s t twin =>
    h.unique.2 twin (self s twin.lt_size.1)
  constructor
  · exact (h.ancestors here).eq fun _ _ => forall₂_eq fun _ _ owner => owner.eq same
  · exact (h.interfaces here).eq fun _ _ => forall₂_eq same
  · intro name
    exact (h.classResolve here name).eq fun _ _ => optionRel_eq fun _ _ entry => entry.eq same
  · exact (h.gaps here .empty).eq fun _ _ => forall₂_eq fun _ _ line => line.eq same
  · intro face known
    exact h.gap here .empty (self face known)

theorem holds_eq_isSome (L : Ledger) (name : String) (o : Owner) :
    L.holds name o = ((L.tableOf o).toList.find? (L.isNamed name)).isSome := by
  rw [List.isSome_find?]
  rfl

theorem Named.intern_of_text (h : L.Named) (text : L.textAt? s = some name) :
    L.intern name = (s, L) :=
  intern_of_known (h.textSymbol?_eq_some_iff.2 text)

theorem Sound.get?_intern_of_missed (h : L.Sound) {o : Owner}
    (missed : (L.tableOf o).toList.find? (L.isNamed name) = none) :
    (L.tableOf o).get? (L.intern name).1 = none := by
  cases here : (L.tableOf o).get? (L.intern name).1 with
  | none => rfl
  | some e =>
    obtain ⟨mem, symbol⟩ := MethodTable.get?_eq_some_iff.1 here
    obtain ⟨x, text⟩ := h.spelled_table o e mem
    have later := (intern_edits L name).keeps_text text
    rw [symbol, textAt?_intern, Option.some.injEq] at later
    subst later
    exact absurd (isNamed_iff.2 (nameOf?_of_text text)) (List.find?_eq_none.1 missed e mem)

structure Removed (L N : Ledger) (cls : Symbol) (name : String) : Prop where
  edits : Edits L N
  idle : L.holds name (.ofClass cls) = false → N = L
  rest : ∃ t, N = L.modifyClass cls fun c => { c with table := t }
  interned : (N.intern name).2 = (L.intern name).2.modifyClass cls fun c =>
    { c with table := (c.table.remove (L.intern name).1).2 }

theorem Sound.exists_removed (h : L.Sound) (isClass : L.isClass cls = true) (name : String) :
    ∃ N, removeMethod cls name L = .ok (L.holds name (.ofClass cls)) N ∧ Removed L N cls name := by
  obtain ⟨c, found⟩ := isClass_iff.1 isClass
  have table := tableOf_of_class found
  have answer := h.removeMethod_eq found name
  have held := holds_eq_isSome L name (.ofClass cls)
  rw [← table] at answer
  cases own : (L.tableOf (.ofClass cls)).toList.find? (L.isNamed name) with
  | some e =>
    rw [own] at answer held
    obtain ⟨x, text⟩ := h.spelled_table _ e (List.mem_of_find?_eq_some own)
    have named := isNamed_iff.1 (List.find?_some own)
    rw [nameOf?_of_text text, Option.some.injEq] at named
    subst named
    have edit : Edit L _ := .remove cls e.name
    refine ⟨_, answer.trans (by rw [held]; rfl), .single edit, ?_, ?_, ?_⟩
    · rw [held]
      nofun
    · exact ⟨_, modifyClass_congr found rfl⟩
    · rw [h.named.intern_of_text text, (h.named.edit edit).intern_of_text (edit.keeps_text text)]
  | none =>
    -- whether the name is a text or not, no entry of the table has its symbol
    rw [own] at answer held
    have found' := classAt?_intern_of_some name found
    have absent := h.get?_intern_of_missed own
    rw [table] at absent
    have fixed : { c with table := (c.table.remove (L.intern name).1).2 } = c := by
      rw [MethodTable.remove_of_absent absent]
    refine ⟨L, answer.trans (by rw [held]; rfl), .refl, fun _ => rfl, ?_, ?_⟩
    · exact ⟨c.table, (modifyClass_of_fixed found rfl).symm⟩
    · exact (modifyClass_of_fixed found' fixed).symm

def entryFor (L : Ledger) (cls : Symbol) (m : MethodDecl) : Entry :=
  m.toEntry (L.intern m.name).1 (.ofClass cls)

def passed (e : Entry) (t : MethodTable) : MethodTable := ((t.insert e).2.remove e.name).2

theorem toList_passed (t : MethodTable) (e : Entry) :
    (passed e t).toList = (t.remove e.name).2.toList := by
  simp [passed, Row.drop_put]

theorem classAt?_link (found : L.classAt? cls = some c) (m : MethodDecl) :
    (link (.ofClass cls) L m).classAt? cls =
      some { c with table := (c.table.insert (L.entryFor cls m)).2 } := by
  change ((L.intern m.name).2.modifyClass cls fun c =>
    { c with table := (c.table.insert (L.entryFor cls m)).2 }).classAt? cls = _
  simp [classAt?_intern_of_some m.name found]

theorem Sound.removeMethod_link (h : L.Sound) (found : L.classAt? cls = some c) (m : MethodDecl) :
    removeMethod cls m.name (link (.ofClass cls) L m) =
      .ok true ((L.intern m.name).2.modifyClass cls fun c =>
        { c with table := passed (L.entryFor cls m) c.table }) := by
  have sound := h.edits (link_edits (o := .ofClass cls) ⟨c, found⟩ m).1
  have text : (link (.ofClass cls) L m).textAt? (L.entryFor cls m).name = some m.name :=
    (textAt?_modifyClass _ _ _ _).trans (textAt?_intern L m.name)
  have there : (c.table.insert (L.entryFor cls m)).2.contains (L.entryFor cls m).name = true := by
    rw [MethodTable.contains_iff, MethodTable.toList_insert]
    exact List.mem_map_of_mem (Row.mem_put_self _ c.table.toList)
  rw [removeMethod_apply, classAt_eq_ok_iff.2 (classAt?_link found m),
    sound.named.textSymbol?_eq_some_iff.2 text]
  dsimp only
  rw [there]
  exact congrArg (EStateM.Result.ok true) (modifyClass_modifyClass _ _ _ _)

theorem Mirror.retable (h : Mirror L M) (twin : Twin L M s t) (found : L.classAt? s = some c)
    {table : MethodTable} (sound : (M.modifyClass t fun c => { c with table := table }).Sound)
    (rows : table.toList = (M.tableOf (.ofClass t)).toList) :
    Mirror L (M.modifyClass t fun c => { c with table := table }) := by
  have idle : L.modifyClass s id = L := modifyClass_of_fixed found rfl
  have acts : ∀ c d, L.classAt? s = some c → M.classAt? t = some d → c.Like (Twin L M) d →
      (id c).Like (Twin L M) { d with table := table } := by
    intro c d _ there like
    rw [tableOf_of_class there] at rows
    have table' : c.table.Like (Twin L M) table := by
      rw [MethodTable.Like, rows]
      exact like.table
    exact { like with table := table' }
  have mirror := h.modifyClass twin (idle.symm ▸ h.left) sound acts
    (alike_modifyClass L s) (alike_modifyClass M t)
  rwa [idle] at mirror

theorem Sound.sameReport_retable (h : L.Sound) (isClass : L.isClass cls = true)
    {table : MethodTable}
    (sound : ((L.intern name).2.modifyClass cls fun c => { c with table := table }).Sound)
    (rows : table.toList = (L.tableOf (.ofClass cls)).toList) (given : s < L.size) :
    SameReport L ((L.intern name).2.modifyClass cls fun c => { c with table := table }) s := by
  obtain ⟨c, found⟩ := isClass_iff.1 isClass
  have self : ∀ s < L.size, Twin L (L.intern name).2 s s := fun s given =>
    h.named.twin_self (intern_edits L name) given
  have plain := h.mirror_self.textsAdded (.refl L) (textsAdded_intern L name)
  rw [← tableOf_intern L name] at rows
  have mirror := plain.retable (self cls (lt_size_of_isClass isClass)) found sound rows
  apply mirror.sameReport _ given
  intro s given
  obtain ⟨l, here, there⟩ := self s given
  exact ⟨l, here, ((alike_modifyClass _ cls).label? s).trans there⟩

/-- The ledgers `M`, where a method has been defined and removed, and `N`, where it has only been
    removed: but for the name, both differ from `L` in the table of the class alone, where the same
    entries stand in the same order, and both say the same of every class. -/
structure Withdrawn (L M N : Ledger) (cls : Symbol) (name : String) : Prop where
  twice : ∃ t, M = (L.intern name).2.modifyClass cls fun c => { c with table := t }
  once : ∃ t, N = L.modifyClass cls fun c => { c with table := t }
  row : (M.tableOf (.ofClass cls)).toList = (N.tableOf (.ofClass cls)).toList
  found : ∀ s, (M.tableOf (.ofClass cls)).get? s = (N.tableOf (.ofClass cls)).get? s
  reports : ∀ s, L.isClass s = true → SameReport N M s

theorem Removed.toList_passed (removed : Removed L N cls name) (found : L.classAt? cls = some c)
    {e : Entry} (symbol : e.name = (L.intern name).1) :
    (passed e c.table).toList = (N.tableOf (.ofClass cls)).toList := by
  rw [← tableOf_intern N name, removed.interned, tableOf_remove, if_pos rfl, tableOf_intern,
    tableOf_of_class found, Ledger.toList_passed, symbol]

theorem Sound.withdrawn (h : L.Sound) (found : L.classAt? cls = some c) {m : MethodDecl}
    (sound : M.Sound) (removed : Removed L N cls m.name)
    (passing : M = (L.intern m.name).2.modifyClass cls fun c =>
      { c with table := passed (L.entryFor cls m) c.table }) : Withdrawn L M N cls m.name := by
  have interned := classAt?_intern_of_some m.name found
  have alone := h.edits removed.edits
  have isClass := removed.edits.keeps_isClass (isClass_iff.2 ⟨c, found⟩)
  have rows := removed.toList_passed (e := L.entryFor cls m) found rfl
  have after : M = (N.intern m.name).2.modifyClass cls fun c' =>
      { c' with table := passed (L.entryFor cls m) c.table } := by
    rw [passing, removed.interned, modifyClass_modifyClass]
    exact modifyClass_congr interned rfl
  have row : (M.tableOf (.ofClass cls)).toList = (N.tableOf (.ofClass cls)).toList := by
    rw [← rows, passing]
    simp [tableOf_ofClass, interned]
  constructor
  · exact ⟨_, passing.trans (modifyClass_congr interned rfl)⟩
  · exact removed.rest
  · exact row
  · intro s
    rw [MethodTable.get?_eq, MethodTable.get?_eq, row]
  · intro s known
    rw [after] at sound ⊢
    exact alone.sameReport_retable isClass sound rows
      (lt_size_of_isClass (removed.edits.keeps_isClass known))

/-- To define a method and remove it comes to the same as to remove it at once. The removal finds a
    method, and what it leaves is what it would have left without the definition, apart from the name. -/
theorem definition_is_withdrawn {L : Ledger} {cls : Symbol} (h : Reachable L)
    (isClass : L.isClass cls = true) (m : MethodDecl) :
    ∃ D M N, defineMethod cls m L = .ok () D ∧ removeMethod cls m.name D = .ok true M ∧
      removeMethod cls m.name L = .ok (L.holds m.name (.ofClass cls)) N ∧
      (L.holds m.name (.ofClass cls) = false → N = L) ∧ Withdrawn L M N cls m.name := by
  obtain ⟨c, found⟩ := isClass_iff.1 isClass
  obtain ⟨N, alone, removed⟩ := h.sound.exists_removed isClass m.name
  have defined : defineMethod cls m L = .ok () (link (.ofClass cls) L m) := by
    rw [defineMethod_apply, classAt_eq_ok_iff.2 found]
  have gone := h.sound.removeMethod_link found m
  have sound := (h.sound.edits (link_edits (o := .ofClass cls) ⟨c, found⟩ m).1).edits
    (removeMethod_edits _ cls m.name)
  rw [gone] at sound
  exact ⟨_, _, N, defined, gone, alone, removed.idle, h.sound.withdrawn found sound removed rfl⟩

def musicRoom : Ledger :=
  household.after (.operation (.defineClass { name := "Radio", methods :=
    [{ name := "on" }, { name := "tune" }, { name := "mute" }] }))

theorem reachable_musicRoom : Reachable musicRoom := reachable_household.step _

theorem definition_is_withdrawn_musicRoom :
    Reachable musicRoom ∧ musicRoom.isClass 13 = true ∧
      ∃ D M N, defineMethod 13 { name := "on", visibility := .priv } musicRoom = .ok () D ∧
        removeMethod 13 "on" D = .ok true M ∧ removeMethod 13 "on" musicRoom = .ok true N ∧
        Withdrawn musicRoom M N 13 "on" ∧
        (M.tableOf (.ofClass 13)).toList.map (musicRoom.nameOf? ·.name) =
          [some "mute", some "tune"] := by
  have isClass : musicRoom.isClass 13 = true := by cbv
  have held : musicRoom.holds "on" (.ofClass 13) = true := by cbv
  have names : ((resulting (removeMethod 13 "on" musicRoom)).tableOf (.ofClass 13)).toList.map
      (musicRoom.nameOf? ·.name) = [some "mute", some "tune"] := by cbv
  obtain ⟨D, M, N, defined, gone, alone, -, withdrawn⟩ :=
    definition_is_withdrawn reachable_musicRoom isClass { name := "on", visibility := .priv }
  rw [held] at alone
  rw [alone] at names
  refine ⟨reachable_musicRoom, isClass, D, M, N, defined, gone, alone, withdrawn, ?_⟩
  rw [withdrawn.row]
  exact names

end Ledger

end InterfaceLedger
