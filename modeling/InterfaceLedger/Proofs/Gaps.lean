import InterfaceLedger.Ledger.Conformance
import InterfaceLedger.Proofs.Lookup
import Mathlib

/-!
Gaps against the tables they are read off. `gap` goes by the owner that an entry names, one declared
method after the other; `Missing` goes by the first table that has the name. In a sound ledger both
come to the same, so the map of all gaps tells for each missing method which stand-in would run.
-/
namespace InterfaceLedger

theorem mapM_eq_ok {α β ε : Type} {f : α → Except ε β} {g : α → β} {l : List α}
    (every : ∀ a ∈ l, f a = .ok (g a)) : l.mapM f = .ok (l.map g) := by
  induction l with
  | nil => rfl
  | cons a rest ih =>
    have others := ih fun b mem => every b (List.mem_cons_of_mem a mem)
    rw [List.mapM_cons, every a List.mem_cons_self, others]
    rfl

theorem filterMap_ite {α β : Type} (keep : α → Bool) (g : α → β) (l : List α) :
    (l.map fun a => if keep a then some (g a) else none).filterMap id =
      (l.filter keep).map g := by
  induction l with
  | nil => rfl
  | cons a rest ih =>
    rw [List.map_cons, List.filterMap_cons, List.filter_cons]
    cases keep a with
    | false => exact ih
    | true => exact congrArg (g a :: ·) ih

theorem pairwise_lt_mergeSort {names : List String} (nodup : names.Nodup) :
    (names.mergeSort (· ≤ ·)).Pairwise (· < ·) := by
  have sorted : (names.mergeSort (· ≤ ·)).SortedLE := List.sortedLE_mergeSort
  have distinct : (names.mergeSort (· ≤ ·)).Nodup := (List.mergeSort_perm names _).nodup_iff.2 nodup
  exact (sorted.sortedLT_of_nodup distinct).pairwise

namespace Ledger

variable {L : Ledger} {cls face s : Symbol} {owners : List Owner} {own : MethodTable}
  {handler : Option Handler} {name : String} {f : Fault}

/-- The module has a public method of this name. -/
def Declares (L : Ledger) (face : Symbol) (name : String) : Prop :=
  ∃ e ∈ (L.tableOf (.ofModule face)).toList, e.isPublic = true ∧ L.nameOf? e.name = some name

theorem Tabled.declares_iff {M : Ledger} (h : L.Tabled)
    (texts : ∀ {s x}, L.textAt? s = some x → M.textAt? s = some x)
    (table : M.tableOf (.ofModule face) = L.tableOf (.ofModule face)) :
    M.Declares face name ↔ L.Declares face name := by
  rw [Declares, Declares, table]
  apply exists_congr
  intro e
  apply and_congr_right
  intro mem
  obtain ⟨-, x, text⟩ := h.truthful mem
  rw [nameOf?_of_text text, nameOf?_of_text (texts text)]

/-- The handler that is met first on the way up, if any, does not take the name. -/
def Uncaught (L : Ledger) (cls : Symbol) (name : String) : Prop :=
  ∀ h, NearestHandler L cls h → h.accepts name true = false

/-- A declared name that no table before that of the interface has, and no handler takes. -/
structure Missing (L : Ledger) (cls : Symbol) (owners : List Owner) (face : Symbol)
    (name : String) : Prop where
  declared : L.Declares face name
  unserved : L.holder? owners name = some (.ofModule face) ∨ L.holder? owners name = none
  uncaught : L.Uncaught cls name

def lacks (L : Ledger) (owners : List Owner) (own : MethodTable) (handler : Option Handler)
    (face s : Symbol) : Bool :=
  !(((own.get? s).or (L.hit owners s)).any (·.owner ≠ .ofModule face) ||
    handler.any (·.accepts (L.describe s) true))

def lacking (L : Ledger) (owners : List Owner) (own : MethodTable) (handler : Option Handler)
    (face : Symbol) : List String :=
  (((L.tableOf (.ofModule face)).publicNames.filter (L.lacks owners own handler face)).map
    L.describe).mergeSort (· ≤ ·)

theorem Sound.unserved?_eq (h : L.Sound) (walk : L.ancestors cls = .ok owners) (own : MethodTable)
    (face : Symbol) (handler : Option Handler) (s : Symbol) :
    L.unserved? cls own face handler s =
      .ok (if L.lacks owners own handler face s then some (L.describe s) else none) := by
  rw [unserved?, h.lookup_eq walk, lacks]
  change Except.ok (if _ then _ else _) = _
  cases ((own.get? s).or (L.hit owners s)).any (·.owner ≠ .ofModule face) ||
    handler.any (·.accepts (L.describe s) true) <;> rfl

theorem gap_of_interface {m : ModuleRecord} (found : L.moduleAt face = .ok m)
    (marked : m.isInterface = true) (cls : Symbol) (own : MethodTable) :
    L.gap cls own face = (L.handlerFor cls).bind fun handler =>
      (fun names => (names.filterMap id).mergeSort (· ≤ ·)) <$>
        m.declared.mapM (L.unserved? cls own face handler) := by
  rw [gap, found]
  change (if m.isInterface = true then _ else _) = _
  rw [if_pos marked]
  cases L.handlerFor cls with
  | error f => rfl
  | ok handler =>
    change Except.bind (m.declared.mapM _) _ = Except.map _ _
    cases m.declared.mapM (L.unserved? cls own face handler) <;> rfl

theorem Sound.gap_eq (h : L.Sound) (interface : L.isInterface face = true)
    (walk : L.ancestors cls = .ok owners) (handled : L.handlerFor cls = .ok handler) :
    L.gap cls own face = .ok (L.lacking owners own handler face) := by
  obtain ⟨m, found, role⟩ := isInterface_iff.1 interface
  have marked : m.isInterface = true := by
    rw [ModuleRecord.isInterface, role]
    rfl
  have table : m.declared = (L.tableOf (.ofModule face)).publicNames := by
    rw [tableOf_of_module found]
    rfl
  have names := mapM_eq_ok (l := m.declared) fun s _ => h.unserved?_eq walk own face handler s
  rw [gap_of_interface (moduleAt_eq_ok_iff.2 found) marked, handled, Except.bind, names]
  change Except.ok (List.mergeSort _ _) = _
  rw [filterMap_ite, table, lacking]

/-- Why a gap is refused. The class is only looked at once the interface has been found good. -/
inductive GapRefusal (L : Ledger) (cls face : Symbol) : Fault → Prop where
  | ofFace {f : Fault} (bad : ModuleFault L face f) : GapRefusal L cls face f
  | ofRole {x : String} (isModule : L.isModule face = true) (plain : L.isInterface face = false)
      (name : L.nameOf? face = some x) : GapRefusal L cls face (.notAnInterface x)
  | ofClass {f : Fault} (good : L.isInterface face = true) (bad : ClassFault L cls f) :
      GapRefusal L cls face f

theorem gap_of_bad_face (bad : L.moduleAt face = .error f) (cls : Symbol) (own : MethodTable) :
    L.gap cls own face = .error f := by
  rw [gap, bad]
  rfl

theorem gap_of_plain_face (isModule : L.isModule face = true) (plain : L.isInterface face = false)
    (cls : Symbol) (own : MethodTable) :
    L.gap cls own face = .error (.notAnInterface (L.describe face)) := by
  obtain ⟨m, found⟩ := isModule_iff_moduleAt.1 isModule
  have unmarked : ¬ m.isInterface = true := by
    intro marked
    have role : m.role = .interface := of_decide_eq_true marked
    rw [isInterface_iff.2 ⟨m, moduleAt_eq_ok_iff.1 found, role⟩] at plain
    cases plain
  rw [gap, found]
  change (if m.isInterface = true then _ else _) = _
  rw [if_neg unmarked]
  rfl

theorem gap_of_bad_class (good : L.isInterface face = true) (bad : L.classAt cls = .error f)
    (own : MethodTable) : L.gap cls own face = .error f := by
  obtain ⟨m, found, role⟩ := isInterface_iff.1 good
  rw [gap_of_interface (moduleAt_eq_ok_iff.2 found) (decide_eq_true role), handlerFor_of_error bad]
  rfl

theorem Sound.gap_of_refusal (h : L.Sound) (refusal : GapRefusal L cls face f)
    (own : MethodTable) : L.gap cls own face = .error f := by
  cases refusal with
  | ofFace bad => exact gap_of_bad_face (h.named.moduleAt_eq_error_iff.2 bad) cls own
  | ofRole isModule plain name =>
    have given := lt_size_of_isModule isModule
    rw [gap_of_plain_face isModule plain, (h.named.describe_eq_iff given).2 name]
  | ofClass good bad => exact gap_of_bad_class good (h.named.classAt_eq_error_iff.2 bad) own

theorem Sound.exists_gapRefusal (h : L.Sound)
    (wrong : ¬ (L.isClass cls = true ∧ L.isInterface face = true)) :
    ∃ f, GapRefusal L cls face f := by
  cases found : L.moduleAt face with
  | error f => exact ⟨f, .ofFace (h.named.moduleAt_eq_error_iff.1 found)⟩
  | ok m =>
    have isModule := isModule_iff_moduleAt.2 ⟨m, found⟩
    cases role : L.isInterface face with
    | false =>
      obtain ⟨x, name⟩ := h.named.exists_name (lt_size_of_isModule isModule)
      exact ⟨_, .ofRole isModule role name⟩
    | true =>
      cases record : L.classAt cls with
      | error f => exact ⟨f, .ofClass role (h.named.classAt_eq_error_iff.1 record)⟩
      | ok c => exact absurd ⟨isClass_iff_classAt.2 ⟨c, record⟩, role⟩ wrong

theorem Sound.gap_eq_error_iff (h : L.Sound) :
    L.gap cls own face = .error f ↔ GapRefusal L cls face f := by
  constructor
  · intro refused
    by_cases good : L.isClass cls = true ∧ L.isInterface face = true
    · obtain ⟨isClass, interface⟩ := good
      obtain ⟨owners, walk⟩ := h.exists_ancestors isClass
      obtain ⟨handler, handled, -⟩ := h.exists_handlerFor isClass
      cases (h.gap_eq interface walk handled).symm.trans refused
    · obtain ⟨g, refusal⟩ := h.exists_gapRefusal good
      cases (h.gap_of_refusal refusal own).symm.trans refused
      exact refusal
  · intro refusal
    exact h.gap_of_refusal refusal own

theorem Sound.text_of_declared (h : L.Sound)
    (mem : s ∈ (L.tableOf (.ofModule face)).publicNames) : ∃ x, L.textAt? s = some x := by
  obtain ⟨e, place, -, rfl⟩ := MethodTable.mem_publicNames_iff.1 mem
  exact (h.tabled.truthful place).2

theorem Sound.declares_iff (h : L.Sound) :
    L.Declares face name ↔
      ∃ s ∈ (L.tableOf (.ofModule face)).publicNames, L.textAt? s = some name := by
  constructor
  · rintro ⟨e, place, visible, named⟩
    have mem := MethodTable.mem_publicNames_iff.2 ⟨e, place, visible, rfl⟩
    obtain ⟨x, text⟩ := h.text_of_declared mem
    rw [nameOf?_of_text text] at named
    exact ⟨e.name, mem, text.trans named⟩
  · rintro ⟨s, mem, text⟩
    obtain ⟨e, place, visible, rfl⟩ := MethodTable.mem_publicNames_iff.1 mem
    exact ⟨e, place, visible, nameOf?_of_text text⟩

theorem uncaught_iff (nearest : ∀ g, handler = some g ↔ NearestHandler L cls g) :
    L.Uncaught cls name ↔ handler.any (·.accepts name true) = false := by
  unfold Uncaught
  cases handler with
  | none => simp [← nearest]
  | some g => simp [← nearest]

theorem Sound.hit_overridden_iff (h : L.Sound) (text : L.textAt? s = some name) :
    (L.hit owners s).any (·.owner ≠ .ofModule face) = false ↔
      L.holder? owners name = some (.ofModule face) ∨ L.holder? owners name = none := by
  cases found : L.hit owners s with
  | none => simp [(h.hit_eq_none_iff text).1 found]
  | some e =>
    rw [((h.hit_eq_some_iff text).1 found).1]
    simp

theorem Sound.lacks_iff (h : L.Sound) (text : L.textAt? s = some name)
    (nearest : ∀ g, handler = some g ↔ NearestHandler L cls g) :
    L.lacks owners ∅ handler face s = true ↔
      (L.holder? owners name = some (.ofModule face) ∨ L.holder? owners name = none) ∧
        L.Uncaught cls name := by
  rw [lacks, MethodTable.get?_empty, Option.none_or, describe_of_text text, Bool.not_eq_true',
    Bool.or_eq_false_iff, h.hit_overridden_iff text, uncaught_iff nearest]

theorem Sound.mem_lacking_iff_text (h : L.Sound) :
    name ∈ L.lacking owners own handler face ↔
      ∃ s ∈ (L.tableOf (.ofModule face)).publicNames, L.textAt? s = some name ∧
        L.lacks owners own handler face s = true := by
  rw [lacking, List.mem_mergeSort, List.mem_map]
  constructor
  · rintro ⟨s, mem, named⟩
    obtain ⟨declared, lacks⟩ := List.mem_filter.1 mem
    obtain ⟨x, text⟩ := h.text_of_declared declared
    rw [describe_of_text text] at named
    exact ⟨s, declared, named ▸ text, lacks⟩
  · rintro ⟨s, declared, text, lacks⟩
    exact ⟨s, List.mem_filter.2 ⟨declared, lacks⟩, describe_of_text text⟩

theorem Sound.mem_lacking_iff (h : L.Sound)
    (nearest : ∀ g, handler = some g ↔ NearestHandler L cls g) :
    name ∈ L.lacking owners ∅ handler face ↔ Missing L cls owners face name := by
  rw [h.mem_lacking_iff_text]
  constructor
  · rintro ⟨s, declared, text, lacks⟩
    obtain ⟨unserved, uncaught⟩ := (h.lacks_iff text nearest).1 lacks
    exact ⟨h.declares_iff.2 ⟨s, declared, text⟩, unserved, uncaught⟩
  · rintro ⟨declared, unserved, uncaught⟩
    obtain ⟨s, mem, text⟩ := h.declares_iff.1 declared
    exact ⟨s, mem, text, (h.lacks_iff text nearest).2 ⟨unserved, uncaught⟩⟩

theorem Sound.pairwise_lacking (h : L.Sound) :
    (L.lacking owners own handler face).Pairwise (· < ·) := by
  apply pairwise_lt_mergeSort
  have names := (L.tableOf (.ofModule face)).publicNames_nodup
  have kept := names.filter (L.lacks owners own handler face)
  rw [List.Nodup, List.pairwise_map]
  refine kept.imp_of_mem ?_
  intro a b ha hb apart same
  obtain ⟨x, textA⟩ := h.text_of_declared (List.mem_filter.1 ha).1
  obtain ⟨y, textB⟩ := h.text_of_declared (List.mem_filter.1 hb).1
  rw [describe_of_text textA, describe_of_text textB] at same
  subst same
  exact apart (h.named.texts textA textB)

/-- The gap of a class against an interface, attached to it or not, is its missing methods in strict
    order, and it is refused exactly for what is wrong with its arguments. -/
theorem gap_lists_missing {L : Ledger} (h : Reachable L) (cls face : Symbol) :
    (L.isClass cls = true ∧ L.isInterface face = true →
      ∃ owners names, L.ancestors cls = .ok owners ∧ L.gap cls ∅ face = .ok names ∧
        names.Pairwise (· < ·) ∧ ∀ n, n ∈ names ↔ Missing L cls owners face n) ∧
      (¬ (L.isClass cls = true ∧ L.isInterface face = true) →
        ∃ f, L.gap cls ∅ face = .error f) ∧
      ∀ f, L.gap cls ∅ face = .error f ↔ GapRefusal L cls face f := by
  have sound := h.sound
  refine ⟨?_, ?_, fun f => sound.gap_eq_error_iff⟩
  · rintro ⟨isClass, interface⟩
    obtain ⟨owners, walk⟩ := sound.exists_ancestors isClass
    obtain ⟨handler, handled, nearest⟩ := sound.exists_handlerFor isClass
    exact ⟨owners, _, walk, sound.gap_eq interface walk handled, sound.pairwise_lacking,
      fun n => sound.mem_lacking_iff nearest⟩
  · intro wrong
    obtain ⟨f, refusal⟩ := sound.exists_gapRefusal wrong
    exact ⟨f, sound.gap_of_refusal refusal ∅⟩

theorem gap_lists_missing_household :
    Reachable household ∧ household.isClass 9 = true ∧ household.isInterface 1 = true ∧
      Missing household 9 [.ofClass 9, .ofModule 1, .ofModule 6] 1 "off" ∧
      ¬ Missing household 9 [.ofClass 9, .ofModule 1, .ofModule 6] 1 "on" := by
  have isClass : household.isClass 9 = true := by cbv
  have interface : household.isInterface 1 = true := by cbv
  have walk : household.ancestors 9 = .ok [.ofClass 9, .ofModule 1, .ofModule 6] := by cbv
  have gap : household.gap 9 ∅ 1 = .ok ["off"] := by cbv
  obtain ⟨owners, names, walk', gap', -, missing⟩ :=
    (gap_lists_missing reachable_household 9 1).1 ⟨isClass, interface⟩
  rw [walk] at walk'
  rw [gap] at gap'
  cases walk'
  cases gap'
  exact ⟨reachable_household, isClass, interface, (missing "off").1 (by decide),
    fun on => absurd ((missing "on").2 on) (by decide)⟩

def Listed (map : List (Symbol × List String)) (face : Symbol) (name : String) : Prop :=
  ∃ names, (face, names) ∈ map ∧ name ∈ names

/-- The class resolves the name to a public method of the interface. -/
def StandsIn (L : Ledger) (cls face : Symbol) (name : String) : Prop :=
  ∃ e, L.classResolve cls name = .ok (some e) ∧ e.isPublic = true ∧ e.owner = .ofModule face

/-- What the map of all gaps of a class promises about its interfaces. -/
structure GapMap (L : Ledger) (cls : Symbol) (map : List (Symbol × List String))
    (faces : List Symbol) : Prop where
  agrees : ∀ face name, Listed map face name ↔ L.StandsIn cls face name ∧ L.Uncaught cls name
  once : ∀ {face face' name}, Listed map face name → Listed map face' name → face = face'
  full : ∀ face ∈ faces, ∀ names, L.gap cls ∅ face = .ok names → ∀ n ∈ names, Listed map face n
  keys : (map.map Prod.fst).Sublist faces
  distinct : faces.Nodup
  nonempty : ∀ p ∈ map, p.2 ≠ []

def gapMap (L : Ledger) (owners : List Owner) (own : MethodTable) (handler : Option Handler) :
    List (Symbol × List String) :=
  ((L.interfacesAmong owners).map fun face => (face, L.lacking owners own handler face)).filter
    (!·.2.isEmpty)

theorem Sound.gaps_eq (h : L.Sound) (walk : L.ancestors cls = .ok owners)
    (handled : L.handlerFor cls = .ok handler) :
    L.gaps cls own = .ok (L.gapMap owners own handler) := by
  have entries : (L.interfacesAmong owners).mapM
      (fun face => return (face, ← L.gap cls own face)) =
        .ok ((L.interfacesAmong owners).map fun face =>
          (face, L.lacking owners own handler face)) := by
    apply mapM_eq_ok
    intro face mem
    have interface := (mem_interfacesAmong_iff.1 mem).2
    rw [h.gap_eq interface walk handled]
    rfl
  rw [gaps, interfaces, walk]
  change Except.bind (List.mapM _ _) _ = _
  rw [entries]
  rfl

theorem gaps_of_error (bad : L.classAt cls = .error f) (own : MethodTable) :
    L.gaps cls own = .error f := by
  rw [gaps, interfaces_of_error bad]
  rfl

theorem listed_gapMap_iff :
    Listed (L.gapMap owners own handler) face name ↔
      face ∈ L.interfacesAmong owners ∧ name ∈ L.lacking owners own handler face := by
  simp only [Listed, gapMap, List.mem_filter, List.mem_map]
  constructor
  · rintro ⟨names, ⟨⟨face', mem, same⟩, -⟩, place⟩
    cases same
    exact ⟨mem, place⟩
  · rintro ⟨mem, place⟩
    refine ⟨_, ⟨⟨face, mem, rfl⟩, ?_⟩, place⟩
    simpa using List.ne_nil_of_mem place

theorem keys_gapMap :
    ((L.gapMap owners own handler).map Prod.fst).Sublist (L.interfacesAmong owners) := by
  have all : ((L.interfacesAmong owners).map fun face =>
      (face, L.lacking owners own handler face)).map Prod.fst = L.interfacesAmong owners := by
    rw [List.map_map]
    exact List.map_id _
  rw [← all]
  exact List.filter_sublist.map _

theorem Sound.standsIn_iff (h : L.Sound) (walk : L.ancestors cls = .ok owners) :
    L.StandsIn cls face name ↔
      L.holder? owners name = some (.ofModule face) ∧ L.Declares face name := by
  simp only [StandsIn, classResolve, h.lookupName_eq walk, MethodTable.get?_empty, Option.none_or,
    Except.ok.injEq]
  constructor
  · rintro ⟨e, resolved, visible, owner⟩
    obtain ⟨s, text, hit⟩ := Option.bind_eq_some_iff.1 resolved
    rw [h.named.textSymbol?_eq_some_iff] at text
    obtain ⟨first, found⟩ := (h.hit_eq_some_iff text).1 hit
    obtain ⟨mem, rfl⟩ := MethodTable.get?_eq_some_iff.1 found
    rw [owner] at first mem
    exact ⟨first, e, mem, visible, nameOf?_of_text text⟩
  · rintro ⟨first, e, mem, visible, named⟩
    obtain ⟨owner, x, text⟩ := h.tabled.truthful mem
    rw [nameOf?_of_text text, Option.some.injEq] at named
    subst named
    have found := MethodTable.get?_eq_some_iff.2 ⟨mem, rfl⟩
    rw [← owner] at first found
    refine ⟨e, Option.bind_eq_some_iff.2 ⟨e.name, ?_, ?_⟩, visible, owner⟩
    · exact h.named.textSymbol?_eq_some_iff.2 text
    · exact (h.hit_eq_some_iff text).2 ⟨first, found⟩

theorem Declares.holds (declared : L.Declares face name) :
    L.holds name (.ofModule face) = true := by
  obtain ⟨e, place, -, named⟩ := declared
  rw [Ledger.holds, List.any_eq_true]
  exact ⟨e, place, beq_iff_eq.2 named⟩

theorem Sound.missing_iff_standsIn (h : L.Sound) (walk : L.ancestors cls = .ok owners) :
    face ∈ L.interfacesAmong owners ∧ Missing L cls owners face name ↔
      L.StandsIn cls face name ∧ L.Uncaught cls name := by
  rw [h.standsIn_iff walk, mem_interfacesAmong_iff]
  constructor
  · rintro ⟨⟨mem, -⟩, declared, unserved, uncaught⟩
    -- the interface holds what it declares, so the search ends somewhere
    have some : L.holder? owners name ≠ none := by
      intro none
      exact List.find?_eq_none.1 none _ mem declared.holds
    exact ⟨⟨unserved.resolve_right some, declared⟩, uncaught⟩
  · rintro ⟨⟨first, declared⟩, uncaught⟩
    have mem : .ofModule face ∈ owners := List.mem_of_find?_eq_some first
    exact ⟨⟨mem, h.composed.isInterface_of_mem h.named walk mem⟩, declared, .inl first, uncaught⟩

/-- The map of all gaps of a class lists a name under an interface exactly if the class resolves the
    name to the stand-in of that interface and no handler takes it. -/
theorem gaps_agree_with_resolution {L : Ledger} {cls : Symbol} (h : Reachable L)
    (isClass : L.isClass cls = true) :
    ∃ map faces, L.gaps cls ∅ = .ok map ∧ L.interfaces cls = .ok faces ∧
      GapMap L cls map faces := by
  have sound := h.sound
  obtain ⟨owners, walk⟩ := sound.exists_ancestors isClass
  obtain ⟨handler, handled, nearest⟩ := sound.exists_handlerFor isClass
  have agrees : ∀ face name, Listed (L.gapMap owners ∅ handler) face name ↔
      L.StandsIn cls face name ∧ L.Uncaught cls name := by
    intro face name
    rw [listed_gapMap_iff, sound.mem_lacking_iff nearest, sound.missing_iff_standsIn walk]
  have faces : L.interfaces cls = .ok (L.interfacesAmong owners) := by
    rw [interfaces, walk]
    rfl
  refine ⟨_, _, sound.gaps_eq walk handled, faces, ?_⟩
  constructor
  · exact agrees
  · intro face face' name here there
    obtain ⟨⟨e, found, -, owner⟩, -⟩ := (agrees face name).1 here
    obtain ⟨⟨e', found', -, owner'⟩, -⟩ := (agrees face' name).1 there
    rw [found] at found'
    cases found'
    exact Owner.ofModule.inj (owner.symm.trans owner')
  · intro face mem names gap n place
    have interface := (mem_interfacesAmong_iff.1 mem).2
    rw [sound.gap_eq interface walk handled] at gap
    cases gap
    exact listed_gapMap_iff.2 ⟨mem, place⟩
  · exact keys_gapMap
  · exact nodup_interfacesAmong owners
  · intro p mem
    simpa using (List.mem_filter.1 mem).2

theorem gaps_agree_with_resolution_household :
    Reachable household ∧ household.isClass 9 = true ∧
      household.gaps 9 ∅ = .ok [(1, ["off"]), (6, ["toggle"])] ∧
      household.StandsIn 9 1 "off" ∧ ¬ household.StandsIn 9 6 "off" := by
  have isClass : household.isClass 9 = true := by cbv
  have gaps : household.gaps 9 ∅ = .ok [(1, ["off"]), (6, ["toggle"])] := by cbv
  obtain ⟨map, faces, gaps', -, promise⟩ := gaps_agree_with_resolution reachable_household isClass
  rw [gaps] at gaps'
  cases gaps'
  have listed : Listed [(1, ["off"]), (6, ["toggle"])] 1 "off" := ⟨["off"], by decide, by decide⟩
  obtain ⟨front, uncaught⟩ := (promise.agrees 1 "off").1 listed
  refine ⟨reachable_household, isClass, gaps, front, ?_⟩
  intro behind
  cases promise.once listed ((promise.agrees 6 "off").2 ⟨behind, uncaught⟩)

end Ledger

end InterfaceLedger
