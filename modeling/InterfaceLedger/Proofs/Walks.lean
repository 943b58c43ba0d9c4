import InterfaceLedger.Proofs.Gaps
import Mathlib

/-!
Walks without a bound. A class is left for its superclass and an entity for its name, and nothing in
that says that there is an end. In a reachable ledger both go to smaller symbols, so a walk from any
symbol comes to its end, in no more rounds than there are symbols up to it, and what it is asked for
is refused only to what is no class.
-/
namespace InterfaceLedger

inductive Look (σ α : Type) where
  | stop (answer : α)
  | more (gathered : σ)

namespace Ledger

variable {σ α : Type} {L : Ledger} {s t : Symbol} {chain : List (Symbol × ClassRecord)}
  {owners : List Owner} {rounds depth : Nat} {x : String}

section Climb

variable (look : σ → Symbol × ClassRecord → Look σ α) (finish : σ → α)

/-- Goes from class to superclass until there is none left, or there is an answer. Nothing comes of
    it if the rounds run out before that. -/
def climb (L : Ledger) : Nat → σ → Option Symbol → Option (Except Fault α)
  | _, gathered, none => some (.ok (finish gathered))
  | 0, _, some _ => none
  | rounds + 1, gathered, some s =>
    match L.classAt s with
    | .error f => some (.error f)
    | .ok c =>
      match look gathered (s, c) with
      | .stop answer => some (.ok answer)
      | .more gathered => L.climb rounds gathered c.parent

theorem climb_none (L : Ledger) (rounds : Nat) (gathered : σ) :
    L.climb look finish rounds gathered none = some (.ok (finish gathered)) := by
  cases rounds <;> rfl

def along (gathered : σ) : List (Symbol × ClassRecord) → α
  | [] => finish gathered
  | link :: rest =>
    match look gathered link with
    | .stop answer => answer
    | .more gathered => along gathered rest

theorem Named.climb_of_walk (h : L.Named) (walk : Lineage L s chain) (enough : s < rounds)
    (gathered : σ) :
    L.climb look finish rounds gathered (some s) = some (.ok (along look finish gathered chain)) := by
  induction walk generalizing rounds gathered with
  | @root s c found top =>
    obtain ⟨n, rfl⟩ := Nat.exists_eq_add_of_lt enough
    rw [climb, classAt_eq_ok_iff.2 found, along]
    dsimp only
    cases look gathered (s, c) with
    | stop answer => rfl
    | more gathered =>
      dsimp only
      rw [top, climb_none, along]
  | @step s p c rest found super tail ih =>
    -- one round is used up, and the superclass is smaller by one at least
    obtain ⟨smaller, -⟩ := h.super_of_class found super
    obtain ⟨n, rfl⟩ := Nat.exists_eq_add_of_lt enough
    have fewer : p < s + n := Nat.lt_add_right n smaller
    rw [climb, classAt_eq_ok_iff.2 found, along]
    dsimp only
    cases look gathered (s, c) with
    | stop answer => rfl
    | more gathered =>
      dsimp only
      rw [super]
      exact ih fewer gathered

theorem Named.climb_eq (h : L.Named) (enough : s < rounds) (gathered : σ) :
    L.climb look finish rounds gathered (some s) =
      some (along look finish gathered <$> L.lineage s) := by
  cases found : L.classAt s with
  | error f =>
    obtain ⟨n, rfl⟩ := Nat.exists_eq_add_of_lt enough
    rw [climb, found, lineage_of_error found]
    rfl
  | ok c =>
    obtain ⟨chain, walk⟩ := h.exists_lineage (isClass_iff_classAt.2 ⟨c, found⟩)
    rw [h.climb_of_walk look finish walk enough, h.lineage_eq_of_walk walk]
    rfl

end Climb

def gather (owners : List Owner) (link : Symbol × ClassRecord) : Look (List Owner) (List Owner) :=
  .more (owners ++ ownersOf link)

def seek (_ : Unit) (link : Symbol × ClassRecord) : Look Unit (Option Handler) :=
  match link.2.handler with
  | some h => .stop (some h)
  | none => .more ()

theorem along_gather (owners : List Owner) (chain : List (Symbol × ClassRecord)) :
    along gather id owners chain = owners ++ chain.flatMap ownersOf := by
  induction chain generalizing owners with
  | nil => simp [along]
  | cons link rest ih => simp [along, gather, ih]

theorem along_seek (chain : List (Symbol × ClassRecord)) :
    along seek (fun _ => none) () chain = chain.findSome? (·.2.handler) := by
  induction chain with
  | nil => rfl
  | cons link rest ih =>
    rw [along, seek, List.findSome?_cons]
    cases link.2.handler with
    | some h => rfl
    | none => exact ih

theorem Named.climb_gather (h : L.Named) (enough : s < rounds) :
    L.climb gather id rounds [] (some s) = some (L.ancestors s) := by
  rw [h.climb_eq gather id enough, ancestors]
  congr 2
  funext chain
  exact along_gather [] chain

theorem Named.climb_seek (h : L.Named) (enough : s < rounds) :
    L.climb seek (fun _ => none) rounds () (some s) = some (L.handlerFor s) := by
  rw [h.climb_eq seek _ enough, handlerFor]
  congr 2
  funext chain
  exact along_seek chain

/-- The name of a symbol, by way of the symbol of the name. Nothing comes of it if that leads further
    than `depth` symbols. -/
def spell (L : Ledger) : Nat → Symbol → Option (Option String)
  | 0, _ => none
  | depth + 1, s =>
    match L.bindings[s]? with
    | none => some none
    | some (.text x) => some (some x)
    | some (.ofClass c) => L.spell depth c.name
    | some (.ofModule m) => L.spell depth m.name

theorem spell_of_text (text : L.textAt? s = some x) (depth : Nat) :
    L.spell (depth + 1) s = some (some x) := by
  rw [spell, textAt?_eq_some_iff.1 text]

theorem Named.spell_eq (h : L.Named) (enough : 1 < depth) : L.spell depth s = some (L.nameOf? s) := by
  obtain ⟨n, rfl⟩ := Nat.exists_eq_add_of_lt enough
  have named : ∀ {k}, L.nameSymbolAt? s = some k →
      L.spell (1 + n) k = some (L.textAt? k) := by
    intro k name
    obtain ⟨-, x, text⟩ := h.names name
    rw [Nat.add_comm, spell_of_text text, text]
  rw [spell, nameOf?]
  cases found : L.bindings[s]? with
  | none => rfl
  | some b =>
    cases b with
    | text x => rfl
    | ofClass c => exact named (by rw [nameSymbolAt?, found]; rfl)
    | ofModule m => exact named (by rw [nameSymbolAt?, found]; rfl)

theorem Named.le_of_mem_lineage (h : L.Named) (walk : Lineage L s chain)
    (mem : t ∈ chain.map Prod.fst) : t ≤ s := by
  induction walk with
  | root => simp_all
  | @step s p c rest found super tail ih =>
    obtain ⟨smaller, -⟩ := h.super_of_class found super
    rcases List.mem_cons.1 mem with rfl | above
    · exact Nat.le_refl _
    · exact Nat.le_trans (ih above) (Nat.le_of_lt smaller)

theorem Named.nodup_lineage (h : L.Named) (walk : Lineage L s chain) :
    (chain.map Prod.fst).Nodup := by
  induction walk with
  | root => exact List.nodup_singleton _
  | @step s p c rest found super tail ih =>
    obtain ⟨smaller, -⟩ := h.super_of_class found super
    rw [List.map_cons, List.nodup_cons]
    refine ⟨?_, ih⟩
    intro again
    exact absurd smaller (Nat.not_lt_of_le (h.le_of_mem_lineage tail again))

theorem count_ofClass (chain : List (Symbol × ClassRecord)) (t : Symbol) :
    (chain.flatMap ownersOf).count (.ofClass t) = (chain.map Prod.fst).count t := by
  induction chain with
  | nil => rfl
  | cons link rest ih =>
    obtain ⟨s, c⟩ := link
    have modules : (c.includes.map Owner.ofModule).count (.ofClass t) = 0 := by
      simp [List.count_eq_zero]
    rw [List.flatMap_cons, List.count_append, ih, ownersOf, List.count_cons, modules, List.map_cons,
      List.count_cons]
    simp [Nat.add_comm]

theorem Named.count_ancestors_le_one (h : L.Named) (walk : L.ancestors s = .ok owners)
    (t : Symbol) : owners.count (.ofClass t) ≤ 1 := by
  obtain ⟨chain, lineage, rfl⟩ := h.ancestors_eq_ok_iff.1 walk
  rw [count_ofClass]
  exact List.nodup_iff_count_le_one.1 (h.nodup_lineage lineage) t

/-- An answer that is given for every class, and refused to every other symbol for what that is. -/
structure ClassesOnly (L : Ledger) (s : Symbol) (answer : Except Fault α) : Prop where
  granted : L.isClass s = true → ∃ a, answer = .ok a
  unbound : L.nameOf? s = none → answer = .error (.unknownSymbol s)
  other : ∀ x, L.nameOf? s = some x → L.isClass s = false → answer = .error (.notAClass x)

theorem Named.classesOnly (h : L.Named) {answer : Except Fault α}
    (granted : L.isClass s = true → ∃ a, answer = .ok a)
    (refused : ∀ {f}, L.classAt s = .error f → answer = .error f) : ClassesOnly L s answer where
  granted := granted
  unbound := by
    intro nameless
    have absent : L.size ≤ s := by
      rw [← Nat.not_lt]
      intro given
      obtain ⟨x, named⟩ := h.exists_name given
      cases nameless.symm.trans named
    exact refused (classAt_of_absent absent)
  other := by
    intro x named plain
    have given := lt_size_of_bind named
    rw [refused (classAt_of_other given plain), (h.describe_eq_iff given).2 named]

/-- What the walks rely on: they go from a class to a class and from an entity to a text, and in both
    cases to a smaller symbol. -/
structure Grounded (L : Ledger) : Prop where
  parent : ∀ {s c p}, L.classAt s = .ok c → c.parent = some p → p < s ∧ L.isClass p = true
  className : ∀ {s c}, L.classAt s = .ok c → c.name < s ∧ ∃ x, L.textSymbol? x = some c.name
  moduleName : ∀ {s m}, L.moduleAt s = .ok m → m.name < s ∧ ∃ x, L.textSymbol? x = some m.name

/-- The walks from a symbol, with as many rounds as one likes above the symbol. -/
structure WalksEnd (L : Ledger) (s : Symbol) : Prop where
  ancestors : ∀ rounds, s < rounds → L.climb gather id rounds [] (some s) = some (L.ancestors s)
  handler : ∀ rounds, s < rounds →
    L.climb seek (fun _ => none) rounds () (some s) = some (L.handlerFor s)
  name : ∀ depth, 1 < depth → L.spell depth s = some (L.nameOf? s)
  once : ∀ owners, L.ancestors s = .ok owners → ∀ t, owners.count (.ofClass t) ≤ 1

theorem Named.grounded (h : L.Named) : Grounded L where
  parent found super := h.super_of_class (classAt_eq_ok_iff.1 found) super
  className found := by
    obtain ⟨smaller, x, text⟩ := h.names (nameSymbolAt?_of_class (classAt_eq_ok_iff.1 found))
    exact ⟨smaller, x, h.textSymbol?_eq_some_iff.2 text⟩
  moduleName found := by
    obtain ⟨smaller, x, text⟩ := h.names (nameSymbolAt?_of_module (moduleAt_eq_ok_iff.1 found))
    exact ⟨smaller, x, h.textSymbol?_eq_some_iff.2 text⟩

/-- From every symbol the walks end, and what is asked of a class is refused only to what is none. -/
theorem walks_end_and_refuse_non_classes {L : Ledger} (h : Reachable L) :
    Grounded L ∧ ∀ s, WalksEnd L s ∧
      ClassesOnly L s (L.ancestors s) ∧ ClassesOnly L s (L.interfaces s) ∧
      (∀ name, ClassesOnly L s (L.classResolve s name)) ∧ ClassesOnly L s (L.gaps s ∅) := by
  have sound := h.sound
  have named := h.named
  refine ⟨named.grounded, ?_⟩
  intro s
  have ends : WalksEnd L s :=
    { ancestors := fun _ enough => named.climb_gather enough
      handler := fun _ enough => named.climb_seek enough
      name := fun _ enough => named.spell_eq enough
      once := fun _ walk => named.count_ancestors_le_one walk }
  refine ⟨ends, named.classesOnly ?_ ancestors_of_error, named.classesOnly ?_ interfaces_of_error,
    fun name => named.classesOnly ?_ (classResolve_of_error · name),
    named.classesOnly ?_ (gaps_of_error · ∅)⟩
  · exact sound.exists_ancestors
  · intro isClass
    obtain ⟨owners, walk⟩ := sound.exists_ancestors isClass
    exact ⟨_, interfaces_eq_ok_iff.2 ⟨owners, walk, rfl⟩⟩
  · intro isClass
    obtain ⟨owners, walk⟩ := sound.exists_ancestors isClass
    exact ⟨_, sound.lookupName_eq walk ∅ name⟩
  · intro isClass
    obtain ⟨owners, walk⟩ := sound.exists_ancestors isClass
    obtain ⟨handler, handled, -⟩ := sound.exists_handlerFor isClass
    exact ⟨_, sound.gaps_eq walk handled⟩

theorem walks_end_and_refuse_non_classes_household :
    Reachable household ∧ household.climb gather id 1 [] (some 11) = none ∧
      household.climb gather id 12 [] (some 11) =
        some (.ok [.ofClass 11, .ofClass 9, .ofModule 1, .ofModule 6]) ∧
      household.gaps 1 ∅ = .error (.notAClass "Remote") ∧
      household.classResolve 10 "on" = .error (.notAClass "Lamp") ∧
      household.interfaces 12 = .error (.unknownSymbol 12) := by
  have walk : household.ancestors 11 =
      .ok [.ofClass 11, .ofClass 9, .ofModule 1, .ofModule 6] := by cbv
  have short : household.climb gather id 1 [] (some 11) = none := by cbv
  have remote : household.nameOf? 1 = some "Remote" ∧ household.isClass 1 = false := by
    constructor <;> cbv
  have lamp : household.nameOf? 10 = some "Lamp" ∧ household.isClass 10 = false := by
    constructor <;> cbv
  have nothing : household.nameOf? 12 = none := by cbv
  obtain ⟨-, all⟩ := walks_end_and_refuse_non_classes reachable_household
  obtain ⟨ends, -⟩ := all 11
  obtain ⟨-, -, -, -, gaps⟩ := all 1
  obtain ⟨-, -, -, resolved, -⟩ := all 10
  obtain ⟨-, -, interfaces, -⟩ := all 12
  have full := ends.ancestors 12 (by decide)
  rw [walk] at full
  exact ⟨reachable_household, short, full, gaps.other _ remote.1 remote.2,
    (resolved "on").other _ lamp.1 lamp.2, interfaces.unbound nothing⟩

end Ledger

end InterfaceLedger
