import InterfaceLedger.Proofs.Refinement

/-!
From names to symbols and back. A symbol that is given out has a name, and the name together with the
question asked leads back to the symbol: asked for a text, to the only text of that name, and asked
for an entity, to the only class or module. A text and an entity may share a name, but no symbol.
-/
namespace InterfaceLedger

namespace Ledger

variable {L : Ledger} {s : Symbol} {x : String} {k : Kind}

def isEntity (L : Ledger) (s : Symbol) : Bool := L.isClass s || L.isModule s

theorem isEntity_of_label (h : L.label? s = some (k, x)) : L.isEntity s = (k != .text) := by
  rw [isEntity, isClass_of_label h, isModule_of_label h]
  cases k <;> rfl

theorem Named.textSymbol?_iff (h : L.Named) :
    L.textSymbol? x = some s ↔ L.nameOf? s = some x ∧ L.isEntity s = false := by
  rw [h.textSymbol?_eq_some_iff, ← label?_text_iff]
  constructor
  · intro label
    exact ⟨nameOf?_of_label label, isEntity_of_label label⟩
  · rintro ⟨named, plain⟩
    obtain ⟨k, label⟩ := nameOf?_eq_some_iff.1 named
    rw [isEntity_of_label label] at plain
    cases k with
    | text => exact label
    | cls => cases plain
    | mod => cases plain

theorem Named.entity?_iff (h : L.Named) :
    L.entity? x = some s ↔ L.nameOf? s = some x ∧ L.isEntity s = true := by
  rw [h.entity?_eq_some_iff, titleAt?_eq_some_iff]
  constructor
  · rintro ⟨k, entity, label⟩
    rw [isEntity_of_label label]
    exact ⟨nameOf?_of_label label, bne_iff_ne.2 entity⟩
  · rintro ⟨named, entity⟩
    obtain ⟨k, label⟩ := nameOf?_eq_some_iff.1 named
    rw [isEntity_of_label label] at entity
    exact ⟨k, bne_iff_ne.1 entity, label⟩

theorem Named.isSome_nameOf?_iff (h : L.Named) : (L.nameOf? s).isSome = true ↔ s < L.size := by
  constructor
  · intro named
    obtain ⟨x, here⟩ := Option.isSome_iff_exists.1 named
    exact lt_size_of_bind here
  · intro given
    obtain ⟨x, named⟩ := h.exists_name given
    rw [named]
    rfl

end Ledger

namespace Registry

variable {R : Registry} {L : Ledger}

def isEntity (R : Registry) (s : Symbol) : Bool := R.isClass s || R.isModule s

theorem Represents.isEntity_eq (h : Represents R L) (s : Symbol) :
    R.isEntity s = L.isEntity s := by
  rw [isEntity, Ledger.isEntity, h.isClass_eq, h.isModule_eq]

/-- How the two maps of names and the tables behind the symbols go together. -/
structure TwoWay (R : Registry) : Prop where
  given : ∃ bound, ∀ s, (R.nameOf? s).isSome = true ↔ s < bound
  text : ∀ x s, R.textSymbol? x = some s ↔
    R.nameOf? s = some x ∧ R.isClass s = false ∧ R.isModule s = false
  entity : ∀ x s, R.entity? x = some s ↔
    R.nameOf? s = some x ∧ (R.isClass s = true ∨ R.isModule s = true)
  texts : ∀ {s t x}, R.nameOf? s = some x → R.nameOf? t = some x →
    R.isEntity s = false → R.isEntity t = false → s = t
  entities : ∀ {s t x}, R.nameOf? s = some x → R.nameOf? t = some x →
    R.isEntity s = true → R.isEntity t = true → s = t
  kinds : ∀ s, ¬ (R.isClass s = true ∧ R.isModule s = true)

theorem Represents.textSymbol?_iff (h : Represents R L) {x : String} {s : Symbol} :
    R.textSymbol? x = some s ↔ R.nameOf? s = some x ∧ R.isEntity s = false := by
  rw [h.texts, h.nameOf?_eq, h.isEntity_eq, h.named.textSymbol?_iff]

theorem Represents.entity?_iff (h : Represents R L) {x : String} {s : Symbol} :
    R.entity? x = some s ↔ R.nameOf? s = some x ∧ R.isEntity s = true := by
  rw [h.entities, h.nameOf?_eq, h.isEntity_eq, h.named.entity?_iff]

theorem not_class_and_module (R : Registry) (s : Symbol) :
    ¬ (R.isClass s = true ∧ R.isModule s = true) := by
  rw [isClass, isModule]
  rcases R.symbols[s]? with _ | (_ | _ | _) <;> simp

theorem Represents.twoWay (h : Represents R L) : TwoWay R where
  given := ⟨L.size, fun s => by rw [h.nameOf?_eq, h.named.isSome_nameOf?_iff]⟩
  text := by
    intro x s
    rw [h.textSymbol?_iff, isEntity, Bool.or_eq_false_iff]
  entity := by
    intro x s
    rw [h.entity?_iff, isEntity, Bool.or_eq_true]
  texts := by
    intro s t x namedS namedT plainS plainT
    have foundS := h.textSymbol?_iff.2 ⟨namedS, plainS⟩
    have foundT := h.textSymbol?_iff.2 ⟨namedT, plainT⟩
    exact Option.some.inj (foundS.symm.trans foundT)
  entities := by
    intro s t x namedS namedT entityS entityT
    have foundS := h.entity?_iff.2 ⟨namedS, entityS⟩
    have foundT := h.entity?_iff.2 ⟨namedT, entityT⟩
    exact Option.some.inj (foundS.symm.trans foundT)
  kinds := not_class_and_module R

/-- In whatever order texts, classes and modules have come, names and symbols go together. -/
theorem names_and_symbols_two_way (events : List Event) :
    TwoWay ((∅ : Registry).afterAll events) :=
  (represents_empty.afterAll events).twoWay

/-- A module, a class with a method of the same name, and a second module that is refused since it
    is named like the class. -/
def namesakes : Registry :=
  (∅ : Registry).afterAll
    [.operation (.defineModule { name := "Remote", methods := [{ name := "on" }] }),
      .operation (.defineClass { name := "Lamp", methods := [{ name := "Remote" }] }),
      .operation (.defineModule { name := "Lamp", methods := [{ name := "dim" }] }),
      .operation (.intern "Lamp")]

example : namesakes.textSymbol? "Remote" = some 0 ∧ namesakes.entity? "Remote" = some 1 ∧
    namesakes.nameOf? 0 = some "Remote" ∧ namesakes.nameOf? 1 = some "Remote" := by
  decide +kernel

example : namesakes.textSymbol? "Lamp" = some 3 ∧ namesakes.entity? "Lamp" = some 4 ∧
    namesakes.isClass 4 = true ∧ namesakes.textSymbol? "dim" = none := by
  decide +kernel

end Registry

end InterfaceLedger
