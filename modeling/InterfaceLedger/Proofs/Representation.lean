import InterfaceLedger.Registry
import InterfaceLedger.Proofs.Labels

/-!
Which ledger a registry shows. `Tabulates` ties the tables and the map of texts to a row: every symbol
leads to a place that is there, no two symbols lead to the same class or module, and the map finds the
texts of the row. `Represents` says the same of the map of names. The questions that are put to a
registry come to what they come to in the ledger, and each single write keeps the tie.
-/
namespace InterfaceLedger

namespace Ledger

variable {L M : Ledger} {s : Symbol} {x y : String}

theorem Named.textSymbol?_congr (h : L.Named) (h' : M.Named)
    (texts : ∀ t, M.textAt? t = L.textAt? t) (x : String) : M.textSymbol? x = L.textSymbol? x := by
  apply Option.ext
  intro s
  rw [h'.textSymbol?_eq_some_iff, h.textSymbol?_eq_some_iff, texts]

theorem Named.entity?_congr (h : L.Named) (h' : M.Named)
    (titles : ∀ t, M.titleAt? t = L.titleAt? t) (x : String) : M.entity? x = L.entity? x := by
  apply Option.ext
  intro s
  rw [h'.entity?_eq_some_iff, h.entity?_eq_some_iff, titles]

theorem Alike.titleAt? (same : Alike L M) (t : Symbol) : M.titleAt? t = L.titleAt? t := by
  rw [Ledger.titleAt?, Ledger.titleAt?, same.name, funext same.text]

theorem Named.titleAt?_push (h : L.Named) (b : Binding) (t : Symbol) :
    (L.push b).titleAt? t =
      if t = L.size then b.nameSymbol?.bind (L.push b).textAt? else L.titleAt? t := by
  rw [titleAt?, nameSymbolAt?_push]
  split
  · rfl
  · rw [titleAt?]
    cases named : L.nameSymbolAt? t with
    | none => rfl
    | some n =>
      obtain ⟨-, x, text⟩ := h.names named
      exact (textAt?_push_of_some b text).trans text.symm

theorem Named.entity?_intern (h : L.Named) (x y : String) :
    (L.intern x).2.entity? y = L.entity? y := by
  apply h.entity?_congr (h.edits (intern_edits L x))
  intro t
  rw [intern]
  split
  · rfl
  · rw [h.titleAt?_push]
    split
    · rename_i here
      simp [titleAt?, nameSymbolAt?, here, size, Binding.nameSymbol?]
    · rfl

theorem Named.entity?_foldl_link (h : L.Named) {o : Owner} (unsealed : L.Open o)
    (ms : List MethodDecl) (y : String) :
    (ms.foldl (link o) L).entity? y = L.entity? y := by
  induction ms generalizing L with
  | nil => rfl
  | cons m rest ih =>
    obtain ⟨edits, unsealed'⟩ := link_edits unsealed m
    have named := h.edits edits
    have interned := h.edits (intern_edits L m.name)
    rw [List.foldl_cons, ih named unsealed', ← h.entity?_intern m.name]
    exact interned.entity?_congr named (alike_place _ _).titleAt? y

theorem Named.entity?_push (h : L.Named) {b : Binding} (h' : (L.push b).Named) {n : Symbol}
    (name : b.nameSymbol? = some n) (text : L.textAt? n = some x) (y : String) :
    (L.push b).entity? y = if x = y then some L.size else L.entity? y := by
  have title : b.nameSymbol?.bind (L.push b).textAt? = some x := by
    rw [name]
    exact textAt?_push_of_some b text
  apply Option.ext
  intro s
  rw [h'.entity?_eq_some_iff, h.titleAt?_push, title]
  split
  · rename_i here
    subst here
    have absent : L.entity? y ≠ some L.size := fun found => by
      rw [h.entity?_eq_some_iff] at found
      obtain ⟨k, here, -⟩ := Option.bind_eq_some_iff.1 found
      exact Nat.lt_irrefl _ (lt_size_of_bind here)
    split <;> simp_all
  · rename_i other
    split
    · rename_i same
      subst same
      constructor
      · intro titled
        -- the name would belong to two symbols of the new row
        have here : (L.push b).titleAt? L.size = some x := by
          rw [h.titleAt?_push, if_pos rfl, title]
        have there : (L.push b).titleAt? s = some x := by
          rw [h.titleAt?_push, if_neg other, titled]
        exact absurd (h'.eq_of_title there here) other
      · intro same
        exact absurd (Option.some.inj same).symm other
    · exact h.entity?_eq_some_iff.symm

theorem textSymbol?_push_text (fresh : L.textSymbol? x = none) (y : String) :
    (L.push (.text x)).textSymbol? y = if x = y then some L.size else L.textSymbol? y := by
  rw [textSymbol?_eq_none_iff] at fresh
  rw [textSymbol?, push, List.findIdx?_append]
  change (L.textSymbol? y).or _ = _
  by_cases same : x = y
  · subst same
    rw [textSymbol?_eq_none_iff.2 fresh]
    simp [Binding.text?, size]
  · simp [Binding.text?, same]

theorem textSymbol?_push_of_entity {b : Binding} (plain : b.text? = none) (y : String) :
    (L.push b).textSymbol? y = L.textSymbol? y := by
  rw [textSymbol?, push, List.findIdx?_append]
  change (L.textSymbol? y).or _ = _
  simp [plain]

theorem modifyClass_of_other (kind : L.isClass s = false) (f : ClassRecord → ClassRecord) :
    L.modifyClass s f = L := by
  apply ext_bindings
  intro t
  rw [modifyClass, List.getElem?_modify]
  by_cases here : s = t
  · subst here
    rw [isClass] at kind
    revert kind
    rcases L.bindings[s]? with _ | (_ | _ | _) <;> simp
  · simp [here]

theorem modifyModule_of_other (kind : L.isModule s = false) (f : ModuleRecord → ModuleRecord) :
    L.modifyModule s f = L := by
  apply ext_bindings
  intro t
  rw [modifyModule, List.getElem?_modify]
  by_cases here : s = t
  · subst here
    rw [isModule] at kind
    revert kind
    rcases L.bindings[s]? with _ | (_ | _ | _) <;> simp
  · simp [here]

end Ledger

namespace Registry

open Ledger

variable {R R' : Registry} {L : Ledger} {s : Symbol} {e : SymbolEntry} {b : Binding} {x : String}

def bindingAt? (R : Registry) (s : Symbol) : Option Binding := R.symbols[s]?.bind R.binding?

theorem isClass_iff (R : Registry) : R.isClass s = true ↔ ∃ i, R.symbols[s]? = some (.ofClass i) := by
  rw [isClass]
  rcases R.symbols[s]? with _ | (_ | _ | _) <;> simp

theorem isModule_iff (R : Registry) :
    R.isModule s = true ↔ ∃ i, R.symbols[s]? = some (.ofModule i) := by
  rw [isModule]
  rcases R.symbols[s]? with _ | (_ | _ | _) <;> simp

theorem modifyClass_of_other (R : Registry) (kind : R.isClass s = false)
    (f : ClassRecord → ClassRecord) : R.modifyClass s f = R := by
  rw [isClass] at kind
  revert kind
  rw [modifyClass]
  rcases R.symbols[s]? with _ | (_ | _ | _) <;> simp

theorem modifyModule_of_other (R : Registry) (kind : R.isModule s = false)
    (f : ModuleRecord → ModuleRecord) : R.modifyModule s f = R := by
  rw [isModule] at kind
  revert kind
  rw [modifyModule]
  rcases R.symbols[s]? with _ | (_ | _ | _) <;> simp

theorem getElem?_push_of_some {α : Type} {xs : Array α} {i : Nat} {a : α} (here : xs[i]? = some a)
    (new : α) : (xs.push new)[i]? = some a := by
  rw [Array.getElem?_push, if_neg (Nat.ne_of_lt (Array.getElem?_eq_some_iff.1 here).1), here]

theorem binding?_of_tables
    (texts : ∀ {i : Nat} {x}, R.texts[i]? = some x → R'.texts[i]? = some x)
    (classes : ∀ {i : Nat} {c}, R.classes[i]? = some c → R'.classes[i]? = some c)
    (modules : ∀ {i : Nat} {m}, R.modules[i]? = some m → R'.modules[i]? = some m)
    (found : R.binding? e = some b) : R'.binding? e = some b := by
  cases e with
  | text i =>
    obtain ⟨x, here, rfl⟩ := Option.map_eq_some_iff.1 found
    exact Option.map_eq_some_iff.2 ⟨x, texts here, rfl⟩
  | ofClass i =>
    obtain ⟨c, here, rfl⟩ := Option.map_eq_some_iff.1 found
    exact Option.map_eq_some_iff.2 ⟨c, classes here, rfl⟩
  | ofModule i =>
    obtain ⟨m, here, rfl⟩ := Option.map_eq_some_iff.1 found
    exact Option.map_eq_some_iff.2 ⟨m, modules here, rfl⟩

structure Tabulates (R : Registry) (L : Ledger) : Prop where
  size : R.symbols.size = L.size
  bindings : ∀ s, R.bindingAt? s = L.bindings[s]?
  distinct : ∀ {s t : Symbol} {e : SymbolEntry},
    R.symbols[s]? = some e → R.symbols[t]? = some e → s = t
  texts : ∀ x, R.textSymbol? x = L.textSymbol? x
  named : L.Named

structure Represents (R : Registry) (L : Ledger) : Prop extends Tabulates R L where
  entities : ∀ x, R.entity? x = L.entity? x

theorem represents_empty : Represents ∅ ∅ where
  size := rfl
  bindings _ := rfl
  distinct h := by cases h
  texts _ := Std.TreeMap.getElem?_emptyc
  named := named_empty
  entities _ := Std.TreeMap.getElem?_emptyc

/-- What there is at a symbol, in the tables and in the row. -/
inductive Shown (R : Registry) (L : Ledger) (s : Symbol) : Prop where
  | nothing (entry : R.symbols[s]? = none) (bound : L.bindings[s]? = none)
  | text {i : Nat} {x : String} (entry : R.symbols[s]? = some (.text i))
      (here : R.texts[i]? = some x) (bound : L.bindings[s]? = some (.text x))
  | cls {i : Nat} {c : ClassRecord} (entry : R.symbols[s]? = some (.ofClass i))
      (here : R.classes[i]? = some c) (bound : L.bindings[s]? = some (.ofClass c))
  | mod {i : Nat} {m : ModuleRecord} (entry : R.symbols[s]? = some (.ofModule i))
      (here : R.modules[i]? = some m) (bound : L.bindings[s]? = some (.ofModule m))

namespace Tabulates

variable (h : Tabulates R L)
include h

/-- No symbol points past the end of its table. -/
theorem exists_binding (entry : R.symbols[s]? = some e) : ∃ b, R.binding? e = some b := by
  have given : s < L.size := by
    rw [← h.size]
    exact (Array.getElem?_eq_some_iff.1 entry).1
  obtain ⟨b, bound⟩ := Option.isSome_iff_exists.1 (lt_size_iff.1 given)
  rw [← h.bindings, bindingAt?, entry] at bound
  exact ⟨b, bound⟩

theorem shown (s : Symbol) : Shown R L s := by
  have bound := h.bindings s
  rw [bindingAt?] at bound
  cases entry : R.symbols[s]? with
  | none =>
    rw [entry] at bound
    exact .nothing entry bound.symm
  | some e =>
    obtain ⟨b, there⟩ := h.exists_binding entry
    rw [entry, Option.bind_some, there] at bound
    cases e with
    | text i =>
      obtain ⟨x, here, rfl⟩ := Option.map_eq_some_iff.1 there
      exact .text entry here bound.symm
    | ofClass i =>
      obtain ⟨c, here, rfl⟩ := Option.map_eq_some_iff.1 there
      exact .cls entry here bound.symm
    | ofModule i =>
      obtain ⟨m, here, rfl⟩ := Option.map_eq_some_iff.1 there
      exact .mod entry here bound.symm

theorem isClass_eq (s : Symbol) : R.isClass s = L.isClass s := by
  rw [Registry.isClass, Ledger.isClass]
  cases h.shown s <;> simp only [*]

theorem isModule_eq (s : Symbol) : R.isModule s = L.isModule s := by
  rw [Registry.isModule, Ledger.isModule]
  cases h.shown s <;> simp only [*]

theorem nameOf?_of_textAt? (text : L.textAt? s = some x) : R.nameOf? s = some x := by
  rw [textAt?_eq_some_iff] at text
  rw [nameOf?]
  cases h.shown s with
  | nothing _ bound => cases bound.symm.trans text
  | text entry here bound =>
    cases bound.symm.trans text
    rw [entry]
    exact here
  | cls _ _ bound => cases bound.symm.trans text
  | mod _ _ bound => cases bound.symm.trans text

theorem nameOf?_of_entity {n : Symbol} (name : L.nameSymbolAt? s = some n) :
    n < s ∧ R.nameOf? n = L.textAt? n := by
  obtain ⟨lt, x, text⟩ := h.named.names name
  exact ⟨lt, (h.nameOf?_of_textAt? text).trans text.symm⟩

theorem nameOf?_eq (s : Symbol) : R.nameOf? s = L.nameOf? s := by
  rw [Registry.nameOf?, Ledger.nameOf?]
  cases h.shown s with
  | nothing entry bound => rw [entry, bound, Option.bind_none]
  | text entry here bound =>
    rw [entry, bound]
    exact here
  | @cls i c entry here bound =>
    have named := nameSymbolAt?_of_class (classAt?_eq_some_iff.2 bound)
    obtain ⟨lt, name⟩ := h.nameOf?_of_entity named
    simp only [entry, here, bound]
    rw [if_pos lt]
    exact name
  | @mod i m entry here bound =>
    have named := nameSymbolAt?_of_module (moduleAt?_eq_some_iff.2 bound)
    obtain ⟨lt, name⟩ := h.nameOf?_of_entity named
    simp only [entry, here, bound]
    rw [if_pos lt]
    exact name

/-- The name of a symbol can be found without a look at which symbol is the smaller one. -/
theorem nameOf?_unguarded (s : Symbol) :
    R.nameOf? s =
      match R.symbols[s]? with
      | none => none
      | some (.text i) => R.texts[i]?
      | some (.ofClass i) => R.classes[i]?.bind fun c => R.nameOf? c.name
      | some (.ofModule i) => R.modules[i]?.bind fun m => R.nameOf? m.name := by
  rw [Registry.nameOf?]
  cases h.shown s with
  | nothing entry _ => rw [entry]
  | text entry _ _ => rw [entry]
  | @cls i c entry here bound =>
    have lt := (h.nameOf?_of_entity (nameSymbolAt?_of_class (classAt?_eq_some_iff.2 bound))).1
    simp only [entry, here, Option.bind_some]
    rw [if_pos lt]
  | @mod i m entry here bound =>
    have lt := (h.nameOf?_of_entity (nameSymbolAt?_of_module (moduleAt?_eq_some_iff.2 bound))).1
    simp only [entry, here, Option.bind_some]
    rw [if_pos lt]

theorem describe_eq (s : Symbol) : R.describe s = L.describe s := by
  rw [Registry.describe, h.nameOf?_eq, Ledger.describe]

theorem classAt_eq (s : Symbol) : R.classAt s = L.classAt s := by
  rw [Registry.classAt, Ledger.classAt, h.describe_eq]
  cases h.shown s <;> simp only [*]

theorem moduleAt_eq (s : Symbol) : R.moduleAt s = L.moduleAt s := by
  rw [Registry.moduleAt, Ledger.moduleAt, h.describe_eq]
  cases h.shown s <;> simp only [*]

theorem isInterface_eq (s : Symbol) : R.isInterface s = L.isInterface s := by
  rw [Registry.isInterface, h.moduleAt_eq, Ledger.moduleAt, Ledger.isInterface]
  rcases L.bindings[s]? with _ | (_ | _ | _) <;> rfl

theorem row_eq : R.row = L := by
  have same : R.symbols.toList.map R.binding? = L.bindings.map some := by
    apply List.ext_getElem?
    intro s
    have bound := h.bindings s
    rw [bindingAt?] at bound
    cases entry : R.symbols[s]? with
    | none =>
      rw [entry] at bound
      simp [entry, ← bound]
    | some e =>
      obtain ⟨b, there⟩ := h.exists_binding entry
      rw [entry, Option.bind_some] at bound
      simp [entry, ← bound, there]
  have bindings : R.symbols.toList.filterMap R.binding? = L.bindings :=
    calc R.symbols.toList.filterMap R.binding?
      _ = (R.symbols.toList.map R.binding?).filterMap id := by rw [List.filterMap_map]; rfl
      _ = (L.bindings.map some).filterMap id := by rw [same]
      _ = L.bindings := by simp
  exact congrArg Ledger.mk bindings

/-- A symbol for something new: its entry points to a place that no symbol has pointed to yet. -/
theorem push (symbols : R'.symbols = R.symbols.push e)
    (keeps : ∀ {e b}, R.binding? e = some b → R'.binding? e = some b)
    (vacant : R.binding? e = none) (new : R'.binding? e = some b)
    (texts : ∀ x, R'.textSymbol? x = (L.push b).textSymbol? x) (named : (L.push b).Named) :
    Tabulates R' (L.push b) where
  size := by
    rw [symbols, Array.size_push, h.size]
    simp [Ledger.size, Ledger.push]
  bindings := by
    intro s
    have whole := bind_push some L b s
    rw [Option.bind_fun_some, Option.bind_fun_some] at whole
    rw [whole, bindingAt?, symbols, Array.getElem?_push, h.size]
    split
    · exact new
    · rw [← h.bindings, bindingAt?]
      cases entry : R.symbols[s]? with
      | none => rfl
      | some e =>
        obtain ⟨b, there⟩ := h.exists_binding entry
        exact (keeps there).trans there.symm
  distinct := by
    have unused : ∀ {s : Symbol}, R.symbols[s]? ≠ some e := fun entry => by
      obtain ⟨b, there⟩ := h.exists_binding entry
      cases vacant.symm.trans there
    intro s t e' hs ht
    rw [symbols, Array.getElem?_push] at hs ht
    split at hs <;> split at ht
    · rename_i atEnd atEnd'
      exact atEnd.trans atEnd'.symm
    · cases hs
      exact absurd ht unused
    · cases ht
      exact absurd hs unused
    · exact h.distinct hs ht
  texts := texts
  named := named

theorem intern (x : String) :
    (R.intern x).1 = (L.intern x).1 ∧ Tabulates (R.intern x).2 (L.intern x).2 := by
  have named := h.named.edits (intern_edits L x)
  rw [Registry.intern, h.texts]
  rw [Ledger.intern] at named ⊢
  cases found : L.textSymbol? x with
  | some s => exact ⟨rfl, h⟩
  | none =>
    rw [found] at named
    refine ⟨h.size, h.push (e := .text R.texts.size) rfl ?_ ?_ ?_ ?_ named⟩
    · exact binding?_of_tables (getElem?_push_of_some · x) id id
    · simp [binding?]
    · simp [binding?, addSymbol]
    · intro y
      rw [textSymbol?_push_text found, ← h.texts, ← h.size]
      simp only [textSymbol?, addSymbol, Std.TreeMap.getElem?_insert,
        Std.LawfulEqCmp.compare_eq_iff_eq]

theorem insertClass {c : ClassRecord} (named : (L.push (.ofClass c)).Named) :
    Tabulates ((R.addSymbol (.ofClass R.classes.size)).2.insertClass c) (L.push (.ofClass c)) := by
  refine h.push (e := .ofClass R.classes.size) rfl ?_ ?_ ?_ ?_ named
  · exact binding?_of_tables id (getElem?_push_of_some · c) id
  · simp [binding?]
  · simp [binding?, Registry.insertClass, addSymbol]
  · intro y
    rw [textSymbol?_push_of_entity rfl]
    exact h.texts y

theorem insertModule {m : ModuleRecord} (named : (L.push (.ofModule m)).Named) :
    Tabulates ((R.addSymbol (.ofModule R.modules.size)).2.insertModule m)
      (L.push (.ofModule m)) := by
  refine h.push (e := .ofModule R.modules.size) rfl ?_ ?_ ?_ ?_ named
  · exact binding?_of_tables id id (getElem?_push_of_some · m)
  · simp [binding?]
  · simp [binding?, Registry.insertModule, addSymbol]
  · intro y
    rw [textSymbol?_push_of_entity rfl]
    exact h.texts y

theorem rewrite {M : Ledger} (symbols : R'.symbols = R.symbols) (texts : R'.textMap = R.textMap)
    (alike : Alike L M) (size : M.size = L.size)
    (bindings : ∀ s, R'.bindingAt? s = M.bindings[s]?) : Tabulates R' M where
  size := by rw [symbols, h.size, size]
  bindings := bindings
  distinct hs ht := by
    rw [symbols] at hs ht
    exact h.distinct hs ht
  texts x := by
    rw [h.named.textSymbol?_congr (h.named.of_alike alike) alike.text, ← h.texts, textSymbol?, texts,
      textSymbol?]
  named := h.named.of_alike alike

theorem entry_eq_iff {t : Symbol} {e' : SymbolEntry} (here : R.symbols[s]? = some e)
    (there : R.symbols[t]? = some e') : e' = e ↔ s = t := by
  constructor
  · rintro rfl
    exact h.distinct here there
  · rintro rfl
    exact Option.some.inj (there.symm.trans here)

theorem modifyClass (s : Symbol) {f : ClassRecord → ClassRecord}
    (name : ∀ c, (f c).name = c.name := by intro; rfl)
    (parent : ∀ c, (f c).parent = c.parent := by intro; rfl) :
    Tabulates (R.modifyClass s f) (L.modifyClass s f) := by
  cases kind : R.isClass s with
  | false =>
    rw [R.modifyClass_of_other kind, Ledger.modifyClass_of_other (h.isClass_eq s ▸ kind)]
    exact h
  | true =>
    obtain ⟨i, entry⟩ := R.isClass_iff.1 kind
    rw [Registry.modifyClass, entry]
    have size : (L.modifyClass s f).size = L.size := by simp [Ledger.size, Ledger.modifyClass]
    -- no other symbol has this entry, so the record of `s` alone is another one
    refine h.rewrite rfl rfl (alike_modifyClass L s name parent) size fun t => ?_
    rw [Ledger.modifyClass, List.getElem?_modify, ← h.bindings, bindingAt?, bindingAt?]
    cases there : R.symbols[t]? with
    | none => simp
    | some e =>
      have here := h.entry_eq_iff entry there
      by_cases same : s = t
      · cases here.2 same
        cases found : R.classes[i]? <;> simp [binding?, same, found, Array.getElem?_modify]
      · cases e with
        | text j => simp [binding?, same]
        | ofClass j =>
          have apart : i ≠ j := fun hit => same (here.1 (hit ▸ rfl))
          simp [binding?, same, apart, Array.getElem?_modify]
        | ofModule j => simp [binding?, same]

theorem modifyModule (s : Symbol) {f : ModuleRecord → ModuleRecord}
    (name : ∀ c, (f c).name = c.name := by intro; rfl) :
    Tabulates (R.modifyModule s f) (L.modifyModule s f) := by
  cases kind : R.isModule s with
  | false =>
    rw [R.modifyModule_of_other kind, Ledger.modifyModule_of_other (h.isModule_eq s ▸ kind)]
    exact h
  | true =>
    obtain ⟨i, entry⟩ := R.isModule_iff.1 kind
    rw [Registry.modifyModule, entry]
    have size : (L.modifyModule s f).size = L.size := by simp [Ledger.size, Ledger.modifyModule]
    -- no other symbol has this entry, so the record of `s` alone is another one
    refine h.rewrite rfl rfl (alike_modifyModule L s name) size fun t => ?_
    rw [Ledger.modifyModule, List.getElem?_modify, ← h.bindings, bindingAt?, bindingAt?]
    cases there : R.symbols[t]? with
    | none => simp
    | some e =>
      have here := h.entry_eq_iff entry there
      by_cases same : s = t
      · cases here.2 same
        cases found : R.modules[i]? <;> simp [binding?, same, found, Array.getElem?_modify]
      · cases e with
        | text j => simp [binding?, same]
        | ofModule j =>
          have apart : i ≠ j := fun hit => same (here.1 (hit ▸ rfl))
          simp [binding?, same, apart, Array.getElem?_modify]
        | ofClass j => simp [binding?, same]

end Tabulates

end Registry

end InterfaceLedger
