import InterfaceLedger.Proofs.Inheritance
import InterfaceLedger.Proofs.Tables
import Mathlib

/-!
Linking a definition. The name of a class or module comes first, then the class or module itself,
then its methods, each of them with its name interned and its entry placed. However the names repeat
each other or what is there already, each text that is new is bound once, where it comes first, and
the table has the names in the order in which they come first, each with what was said of it last.
-/
namespace InterfaceLedger

/-- The method of this name that counts: the last one. -/
def lastNamed? (ms : List MethodDecl) (x : String) : Option MethodDecl :=
  ms.reverse.find? (·.name = x)

theorem lastNamed?_concat (ms : List MethodDecl) (m : MethodDecl) (x : String) :
    lastNamed? (ms ++ [m]) x = if m.name = x then some m else lastNamed? ms x := by
  by_cases here : m.name = x <;> simp [lastNamed?, here]

theorem Row.forall₂_put {P Q : String → Entry → Prop} {x : String} {e : Entry} {xs : List String}
    {row : List Entry} (pairs : List.Forall₂ P xs row) (distinct : xs.Nodup)
    (named : ∀ y a, P y a → (a.name = e.name ↔ y = x)) (here : Q x e)
    (others : ∀ y a, y ≠ x → P y a → Q y a) :
    List.Forall₂ Q (if x ∈ xs then xs else xs ++ [x]) (Row.put e row) := by
  induction pairs with
  | nil => exact .cons here .nil
  | @cons y a xs row first tail ih =>
    obtain ⟨new, distinct⟩ := List.nodup_cons.1 distinct
    have replaced : a.name = e.name ↔ y = x := named y a first
    by_cases same : y = x
    · subst same
      have apart : ∀ z ∈ xs, z ≠ y := fun z mem same => new (same ▸ mem)
      have kept : List.Forall₂ Q xs row :=
        ((List.forall₂_and_left _ _).2 ⟨apart, tail⟩).imp fun z b both => others z b both.1 both.2
      simpa [Row.put, replaced] using And.intro here kept
    · have step := List.Forall₂.cons (others y a same first) (ih distinct)
      by_cases again : x ∈ xs <;>
        simpa [Row.put, replaced, same, Ne.symm same, again] using step

namespace Ledger

variable {L M K : Ledger} {o : Owner} {n s : Symbol} {x y : String} {ms : List MethodDecl}
  {t : MethodTable} {home : MethodTable → Binding}

/-- The texts in a list that have no symbol yet, each once, in the order in which they come first. -/
def newTexts (L : Ledger) (xs : List String) : List String :=
  xs.eraseDups.filter (L.textSymbol? · = none)

theorem newTexts_concat (L : Ledger) (xs : List String) (x : String) :
    L.newTexts (xs ++ [x]) =
      L.newTexts xs ++ if L.textSymbol? x = none ∧ x ∉ xs then [x] else [] := by
  rw [newTexts, newTexts, eraseDups_concat]
  by_cases again : x ∈ xs
  · simp [again]
  · by_cases new : L.textSymbol? x = none <;> simp [again, new]

theorem mem_newTexts_iff {xs : List String} :
    x ∈ L.newTexts xs ↔ x ∈ xs ∧ L.textSymbol? x = none := by
  simp [newTexts]

theorem newTexts_singleton (L : Ledger) (x : String) :
    L.newTexts [x] = if L.textSymbol? x = none then [x] else [] := by
  have none : L.newTexts [] = [] := rfl
  simpa [none] using L.newTexts_concat [] x

theorem bindings_intern (L : Ledger) (x : String) :
    (L.intern x).2.bindings = L.bindings ++ (L.newTexts [x]).map .text := by
  rw [newTexts_singleton]
  cases found : L.textSymbol? x <;> simp [intern, found, push]

theorem textSymbol?_eq_none_iff_mem : L.textSymbol? x = none ↔ .text x ∉ L.bindings := by
  simp only [textSymbol?_eq_none_iff, textAt?_eq_some_iff, List.mem_iff_getElem?, ne_eq, not_exists]

theorem textSymbol?_append (A B : List Binding) (x : String) :
    (Ledger.mk (A ++ B)).textSymbol? x =
      ((Ledger.mk A).textSymbol? x).or (((Ledger.mk B).textSymbol? x).map (· + A.length)) :=
  List.findIdx?_append

theorem textSymbol?_append_of_some {A B : List Binding}
    (known : (Ledger.mk A).textSymbol? x = some s) :
    (Ledger.mk (A ++ B)).textSymbol? x = some s := by
  rw [textSymbol?_append, known, Option.some_or]

theorem textSymbol?_intern_of_some (known : L.textSymbol? y = some s) (x : String) :
    (L.intern x).2.textSymbol? y = some s := by
  have grown : (L.intern x).2 = ⟨L.bindings ++ (L.newTexts [x]).map .text⟩ :=
    congrArg Ledger.mk (bindings_intern L x)
  rw [grown]
  exact textSymbol?_append_of_some known

theorem textSymbol?_intern_self (L : Ledger) (x : String) :
    (L.intern x).2.textSymbol? x = some (L.intern x).1 := by
  cases found : L.textSymbol? x with
  | some s => simp [intern, found]
  | none =>
    simp only [intern, found, push, textSymbol?_append]
    simp [textSymbol?, Binding.text?, size]

theorem symbol_eq_iff {u : Symbol} (left : L.textSymbol? x = some s)
    (right : L.textSymbol? y = some u) : s = u ↔ x = y := by
  constructor
  · rintro rfl
    exact Option.some.inj ((textAt?_of_textSymbol? left).symm.trans (textAt?_of_textSymbol? right))
  · rintro rfl
    exact Option.some.inj (left.symm.trans right)

/-- An owner whose symbol is `n` and which is bound to `home t` as long as its table is `t`. -/
structure OwnerBinding (o : Owner) (n : Symbol) (home : MethodTable → Binding) : Prop where
  plain : ∀ t, (home t).text? = none
  place : ∀ {A B : List Binding} {t e}, A.length = n → e.owner = o →
    (Ledger.mk (A ++ home t :: B)).place e = ⟨A ++ home (t.insert e).2 :: B⟩

theorem modify_append_cons {α : Type} (A B : List α) (b : α) (f : α → α) :
    (A ++ b :: B).modify A.length f = A ++ f b :: B :=
  List.modifyTailIdx_add (List.modifyHead f) 0 A (b :: B)

theorem ownerBinding_ofClass (n name : Symbol) (parent : Option Symbol) :
    OwnerBinding (.ofClass n) n fun table => .ofClass { name, parent, table } where
  plain _ := rfl
  place {A B t e} here owner := by
    subst here
    rw [Ledger.place, owner]
    exact congrArg Ledger.mk (modify_append_cons A B _ _)

theorem ownerBinding_ofModule (n name : Symbol) :
    OwnerBinding (.ofModule n) n fun table => .ofModule { name, table } where
  plain _ := rfl
  place {A B t e} here owner := by
    subst here
    rw [Ledger.place, owner]
    exact congrArg Ledger.mk (modify_append_cons A B _ _)

theorem OwnerBinding.textSymbol?_eq (h : OwnerBinding o n home) (A B : List Binding)
    (t u : MethodTable) (x : String) : (Ledger.mk (A ++ home u :: B)).textSymbol? x =
      (Ledger.mk (A ++ home t :: B)).textSymbol? x := by
  simp [textSymbol?, List.findIdx?_append, List.findIdx?_cons, h.plain]

theorem OwnerBinding.textSymbol?_eq_none_iff (h : OwnerBinding o n home) (xs : List String)
    (x : String) :
    (Ledger.mk (K.bindings ++ home t :: (K.newTexts xs).map .text)).textSymbol? x = none ↔
      K.textSymbol? x = none ∧ x ∉ xs := by
  have other : Binding.text x ≠ home t := fun same => by
    have plain := h.plain t
    rw [← same] at plain
    cases plain
  rw [textSymbol?_eq_none_iff_mem, List.mem_append, not_or, ← textSymbol?_eq_none_iff_mem]
  apply and_congr_right
  intro new
  simp [other, mem_newTexts_iff, new]

/-- The entry has the signature, the visibility and the body of the method. The first type of a
    signature is the result, which is nothing if there is none, and the others are the parameters. -/
structure Conveys (e : Entry) (m : MethodDecl) : Prop where
  params : e.params = m.signature.types.tail
  result : e.result = m.signature.types.headD .void
  visibility : e.visibility = m.visibility
  body : e.body = m.body

theorem conveys_toEntry (m : MethodDecl) (name : Symbol) (o : Owner) :
    Conveys (m.toEntry name o) m where
  params := rfl
  result := rfl
  visibility := rfl
  body := rfl

/-- The entry that a table has for a name: what the last method of this name says. -/
structure LastEntry (M : Ledger) (o : Owner) (ms : List MethodDecl) (x : String) (e : Entry) :
    Prop where
  name : M.textSymbol? x = some e.name
  owner : e.owner = o
  method : ∃ m, lastNamed? ms x = some m ∧ Conveys e m

structure Linking (K : Ledger) (o : Owner) (home : MethodTable → Binding) (ms : List MethodDecl)
    (M : Ledger) (t : MethodTable) : Prop where
  bindings : M.bindings = K.bindings ++ home t :: (K.newTexts (ms.map (·.name))).map .text
  entries : List.Forall₂ (LastEntry M o ms) (ms.map (·.name)).eraseDups t.toList

theorem linking_nil (K : Ledger) (o : Owner) (home : MethodTable → Binding) :
    Linking K o home [] (K.push (home ∅)) ∅ where
  bindings := rfl
  entries := .nil

theorem Linking.bindings_intern (h : Linking K o home ms M t) (bound : OwnerBinding o n home)
    (m : MethodDecl) : (M.intern m.name).2.bindings =
      K.bindings ++ home t :: (K.newTexts ((ms ++ [m]).map (·.name))).map .text := by
  have fresh : M.textSymbol? m.name = none ↔
      K.textSymbol? m.name = none ∧ m.name ∉ ms.map (·.name) := by
    rw [← bound.textSymbol?_eq_none_iff (t := t), ← h.bindings]
  rw [Ledger.bindings_intern, newTexts_singleton, h.bindings, List.map_append, List.map_singleton,
    newTexts_concat]
  simp [fresh]

theorem Linking.step (h : Linking K o home ms M t) (bound : OwnerBinding o K.size home)
    (m : MethodDecl) : ∃ u, Linking K o home (ms ++ [m]) (link o M m) u := by
  generalize made : m.toEntry (M.intern m.name).1 o = e
  have owner : e.owner = o := by rw [← made]; rfl
  have interned : (M.intern m.name).2 =
      ⟨K.bindings ++ home t :: (K.newTexts ((ms ++ [m]).map (·.name))).map .text⟩ :=
    congrArg Ledger.mk (h.bindings_intern bound m)
  have placed : link o M m =
      ⟨K.bindings ++ home (t.insert e).2 ::
        (K.newTexts ((ms ++ [m]).map (·.name))).map .text⟩ := by
    change (M.intern m.name).2.place (m.toEntry (M.intern m.name).1 o) = _
    rw [made, interned, bound.place rfl owner]
  -- placing the entry changes no text symbol, interning its name at most adds one
  have spelled : ∀ y, (link o M m).textSymbol? y = (M.intern m.name).2.textSymbol? y := by
    intro y
    rw [placed, interned, bound.textSymbol?_eq]
  have known : ∀ {y a}, LastEntry M o ms y a → (link o M m).textSymbol? y = some a.name :=
    fun entry => (spelled _).trans (textSymbol?_intern_of_some entry.name m.name)
  have named : (link o M m).textSymbol? m.name = some e.name := by
    rw [spelled, textSymbol?_intern_self, ← made]
    rfl
  refine ⟨(t.insert e).2, by rw [placed], ?_⟩
  rw [MethodTable.toList_insert, List.map_append, List.map_singleton, eraseDups_concat]
  have row := Row.forall₂_put h.entries (nodup_eraseDups _) (x := m.name) (e := e)
    (Q := LastEntry (link o M m) o (ms ++ [m])) ?_ ?_ ?_
  · simpa only [List.mem_eraseDups] using row
  · intro y a entry
    exact symbol_eq_iff (known entry) named
  · have last : lastNamed? (ms ++ [m]) m.name = some m := by rw [lastNamed?_concat, if_pos rfl]
    exact ⟨named, owner, m, last, made ▸ conveys_toEntry m _ o⟩
  · rintro y a other entry
    refine ⟨known entry, entry.owner, ?_⟩
    rw [lastNamed?_concat, if_neg (Ne.symm other)]
    exact entry.method

theorem exists_linking (bound : OwnerBinding o K.size home) (ms : List MethodDecl) :
    ∃ t, Linking K o home ms (ms.foldl (link o) (K.push (home ∅))) t := by
  induction ms using List.reverseRecOn with
  | nil => exact ⟨∅, linking_nil K o home⟩
  | append_singleton ms m ih =>
    obtain ⟨t, linking⟩ := ih
    rw [List.foldl_concat]
    exact linking.step bound m

theorem textSymbol?_intern_eq_none_iff :
    (L.intern x).2.textSymbol? y = none ↔ L.textSymbol? y = none ∧ y ≠ x := by
  rw [textSymbol?_eq_none_iff_mem, Ledger.bindings_intern, List.mem_append, not_or,
    ← textSymbol?_eq_none_iff_mem]
  apply and_congr_right
  intro new
  simp only [List.mem_map, Binding.text.injEq, exists_eq_right, mem_newTexts_iff, List.mem_singleton,
    new, and_true]

theorem newTexts_intern (L : Ledger) (x : String) (xs : List String) :
    (L.intern x).2.newTexts xs = (L.newTexts xs).filter (· ≠ x) := by
  simp [newTexts, List.filter_filter, textSymbol?_intern_eq_none_iff, and_comm]

/-- How `M` comes about from `L` when a class or module that is called `title` is bound to `s` and
    its methods are linked to it. -/
structure Defined (L M : Ledger) (title : String) (ms : List MethodDecl) (s : Symbol) (o : Owner)
    (name : Symbol) (table : MethodTable) (entity : Binding) : Prop where
  symbol : s = L.size + (L.newTexts [title]).length
  bindings : M.bindings = L.bindings ++ (L.newTexts [title]).map .text ++
    entity :: ((L.newTexts (ms.map (·.name))).filter (· ≠ title)).map .text
  title : M.textSymbol? title = some name
  entries : List.Forall₂ (LastEntry M o ms) (ms.map (·.name)).eraseDups table.toList

theorem Linking.defined {title : String} (h : Linking (L.intern title).2 o home ms M t) :
    Defined L M title ms (L.intern title).2.size o (L.intern title).1 t (home t) where
  symbol := by simp [size, Ledger.bindings_intern]
  bindings := by rw [h.bindings, newTexts_intern, Ledger.bindings_intern]
  title := by
    have grown : M = ⟨(L.intern title).2.bindings ++ _⟩ := congrArg Ledger.mk h.bindings
    rw [grown]
    exact textSymbol?_append_of_some (textSymbol?_intern_self L title)
  entries := h.entries

theorem Conveys.eq_toEntry {e : Entry} {m : MethodDecl} (h : Conveys e m) :
    e = m.toEntry e.name e.owner := by
  obtain ⟨params, result, visibility, body⟩ := h
  cases e
  cases params
  cases result
  cases visibility
  cases body
  rfl

theorem Defined.exists_entry {title : String} {name : Symbol} {table : MethodTable}
    {entity : Binding} (h : Defined L M title ms s o name table entity) {m : MethodDecl}
    (last : lastNamed? ms x = some m) :
    ∃ u, M.textSymbol? x = some u ∧ m.toEntry u o ∈ table.toList := by
  have called : m.name = x := by simpa using List.find?_some last
  have listed : m ∈ ms := List.mem_reverse.1 (List.mem_of_find?_eq_some last)
  have named : x ∈ (ms.map (·.name)).eraseDups :=
    List.mem_eraseDups.2 (List.mem_map.2 ⟨m, listed, called⟩)
  obtain ⟨i, here, rfl⟩ := List.getElem_of_mem named
  have there := h.entries.length_eq ▸ here
  obtain ⟨text, owner, m', last', conveys⟩ := h.entries.get here there
  cases last.symm.trans last'
  refine ⟨_, text, ?_⟩
  rw [← owner, ← conveys.eq_toEntry]
  exact List.getElem_mem there

/-- What a definition binds are the texts that it brings in, in the order in which they come first,
    and between its title and the names of its methods the class or module. The table has each name
    once, with what was said of it last, and everything that was there before stays as it was. -/
theorem definition_links_in_order (L : Ledger) :
    (∀ d s M, defineClass d L = .ok s M → ∃ name parent table,
      L.parentOf d.parent = .ok parent ∧ Defined L M d.name d.methods s (.ofClass s) name table
        (.ofClass { name, parent, table })) ∧
    ∀ d s M, defineModule d L = .ok s M → ∃ name table,
      Defined L M d.name d.methods s (.ofModule s) name table (.ofModule { name, table }) := by
  constructor
  · intro d s M done
    obtain ⟨parent, -, super, rfl, rfl⟩ := exists_of_defineClass done
    obtain ⟨table, linking⟩ :=
      exists_linking (ownerBinding_ofClass (L.intern d.name).2.size (L.intern d.name).1 parent) d.methods
    exact ⟨_, parent, table, super, linking.defined⟩
  · intro d s M done
    obtain ⟨-, rfl, rfl⟩ := exists_of_defineModule done
    obtain ⟨table, linking⟩ :=
      exists_linking (ownerBinding_ofModule (L.intern d.name).2.size (L.intern d.name).1) d.methods
    exact ⟨_, table, linking.defined⟩

/-- A class with a method of its own name, one of the name of a class, and two that are given twice. -/
def radio : ClassDecl :=
  { name := "Radio", parent := some "Device", methods := [{ name := "on" }, { name := "Radio" },
    { name := "tune" }, { name := "on", visibility := .priv }, { name := "Lamp" },
    { name := "tune", signature := ⟨[.bool, .u8]⟩ }] }

def onModule : ModuleDecl :=
  { name := "on", methods :=
      [{ name := "dial" }, { name := "on" }, { name := "dial", visibility := .priv }] }

theorem definition_links_in_order_radio :
    (∃ M name parent table, defineClass radio household = .ok 13 M ∧
      Defined household M "Radio" radio.methods 13 (.ofClass 13) name table
        (.ofClass { name, parent, table }) ∧
      M.bindings = household.bindings ++
        [.text "Radio", .ofClass { name, parent, table }, .text "tune"] ∧
      (∃ s, M.textSymbol? "on" = some s ∧
        ⟨s, .ofClass 13, [], .void, .priv, .blank⟩ ∈ table.toList) ∧
      ∃ s, M.textSymbol? "tune" = some s ∧
        ⟨s, .ofClass 13, [.u8], .bool, .pub, .blank⟩ ∈ table.toList) ∧
    ∃ M name table, defineModule onModule household = .ok 12 M ∧
      Defined household M "on" onModule.methods 12 (.ofModule 12) name table
        (.ofModule { name, table }) ∧
      M.bindings = household.bindings ++ [.ofModule { name, table }, .text "dial"] := by
  constructor
  · have vacant : household.vacant radio.name = .ok () := by cbv
    have super : household.parentOf radio.parent = .ok (some 9) := by cbv
    have title : household.newTexts ["Radio"] = ["Radio"] := by cbv
    have news : household.newTexts (radio.methods.map (·.name)) = ["Radio", "tune"] := by cbv
    obtain ⟨s, M, done⟩ : ∃ s M, defineClass radio household = .ok s M := by
      rw [defineClass_apply, vacant, super]
      exact ⟨_, _, rfl⟩
    obtain ⟨name, parent, table, -, defined⟩ := (definition_links_in_order household).1 _ _ _ done
    have symbol : s = 13 := defined.symbol.trans (by cbv)
    subst symbol
    have bindings := defined.bindings
    have called : radio.name = "Radio" := rfl
    rw [called, title, news, List.append_assoc] at bindings
    have hidden : lastNamed? radio.methods "on" = some { name := "on", visibility := .priv } := rfl
    have tuned : lastNamed? radio.methods "tune" =
      some { name := "tune", signature := ⟨[.bool, .u8]⟩ } := rfl
    exact ⟨M, name, parent, table, done, defined, bindings, defined.exists_entry hidden,
      defined.exists_entry tuned⟩
  · have vacant : household.vacant onModule.name = .ok () := by cbv
    have title : household.newTexts ["on"] = [] := by cbv
    have news : household.newTexts (onModule.methods.map (·.name)) = ["dial"] := by cbv
    obtain ⟨s, M, done⟩ : ∃ s M, defineModule onModule household = .ok s M := by
      rw [defineModule_apply, vacant]
      exact ⟨_, _, rfl⟩
    obtain ⟨name, table, defined⟩ := (definition_links_in_order household).2 _ _ _ done
    have symbol : s = 12 := defined.symbol.trans (by cbv)
    subst symbol
    have bindings := defined.bindings
    have called : onModule.name = "on" := rfl
    rw [called, title, news, List.append_assoc] at bindings
    exact ⟨M, name, table, done, defined, bindings⟩

end Ledger

end InterfaceLedger
