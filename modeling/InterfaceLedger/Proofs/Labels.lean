import Mathlib.Logic.Relator
import InterfaceLedger.Proofs.Lookup

/-!
Labels. Whatever number a symbol has, it stands for a text, a class or a module of some name, and
in a named ledger that label belongs to no other symbol. No edit takes it away. Twins are symbols
of two ledgers with the same label: to go by labels is to go without the numbers.
-/
namespace InterfaceLedger

inductive Kind where
  | text | cls | mod
  deriving DecidableEq, Repr

abbrev Label := Kind × String

def Binding.kind : Binding → Kind
  | text _ => .text
  | ofClass _ => .cls
  | ofModule _ => .mod

namespace Ledger

variable {L M L' M' : Ledger} {s t : Symbol} {x : String} {k : Kind} {l : Label}

/-- What a symbol stands for, and its name. -/
def label? (L : Ledger) (s : Symbol) : Option Label :=
  L.bindings[s]?.bind fun b => (L.nameOfBinding? b).map (b.kind, ·)

def titleAt? (L : Ledger) (s : Symbol) : Option String := (L.nameSymbolAt? s).bind L.textAt?

theorem label?_text_iff : L.label? s = some (.text, x) ↔ L.textAt? s = some x := by
  rw [label?, textAt?]
  rcases L.bindings[s]? with _ | (_ | _ | _) <;>
    simp [Binding.kind, nameOfBinding?, Binding.text?]

theorem label?_cls_iff :
    L.label? s = some (.cls, x) ↔ L.isClass s = true ∧ L.titleAt? s = some x := by
  rw [label?, isClass, titleAt?, nameSymbolAt?]
  rcases L.bindings[s]? with _ | (_ | _ | _) <;>
    simp [Binding.kind, nameOfBinding?, Binding.nameSymbol?]

theorem label?_mod_iff :
    L.label? s = some (.mod, x) ↔ L.isModule s = true ∧ L.titleAt? s = some x := by
  rw [label?, isModule, titleAt?, nameSymbolAt?]
  rcases L.bindings[s]? with _ | (_ | _ | _) <;>
    simp [Binding.kind, nameOfBinding?, Binding.nameSymbol?]

theorem label?_eq_some_iff :
    L.label? s = some (k, x) ↔
      ∃ b, L.bindings[s]? = some b ∧ b.kind = k ∧ L.nameOfBinding? b = some x := by
  rw [label?, Option.bind_eq_some_iff]
  apply exists_congr
  intro b
  rw [Option.map_eq_some_iff]
  simp only [Prod.mk.injEq]
  constructor
  · rintro ⟨found, y, named, kind, rfl⟩
    exact ⟨found, kind, named⟩
  · rintro ⟨found, kind, named⟩
    exact ⟨found, x, named, kind, rfl⟩

theorem titleAt?_eq_some_iff :
    L.titleAt? s = some x ↔ ∃ k, k ≠ .text ∧ L.label? s = some (k, x) := by
  constructor
  · intro titled
    obtain ⟨n, name, text⟩ := Option.bind_eq_some_iff.1 titled
    obtain ⟨b, found, here⟩ := Option.bind_eq_some_iff.1 name
    cases b with
    | text => cases here
    | ofClass c =>
      cases here
      exact ⟨.cls, by decide, label?_eq_some_iff.2 ⟨_, found, rfl, text⟩⟩
    | ofModule m =>
      cases here
      exact ⟨.mod, by decide, label?_eq_some_iff.2 ⟨_, found, rfl, text⟩⟩
  · rintro ⟨k, entity, label⟩
    cases k with
    | text => exact absurd rfl entity
    | cls => exact (label?_cls_iff.1 label).2
    | mod => exact (label?_mod_iff.1 label).2

theorem nameOf?_of_label (h : L.label? s = some (k, x)) : L.nameOf? s = some x := by
  obtain ⟨b, found, -, named⟩ := label?_eq_some_iff.1 h
  rw [nameOf?, found]
  exact named

theorem nameOf?_eq_some_iff : L.nameOf? s = some x ↔ ∃ k, L.label? s = some (k, x) := by
  constructor
  · intro named
    obtain ⟨b, found, here⟩ := Option.bind_eq_some_iff.1 named
    exact ⟨b.kind, label?_eq_some_iff.2 ⟨b, found, rfl, here⟩⟩
  · rintro ⟨k, label⟩
    exact nameOf?_of_label label

theorem describe_of_label (h : L.label? s = some (k, x)) : L.describe s = x := by
  rw [describe, nameOf?_of_label h]
  rfl

theorem isClass_of_label (h : L.label? s = some (k, x)) : L.isClass s = (k == .cls) := by
  obtain ⟨b, found, rfl, -⟩ := label?_eq_some_iff.1 h
  rw [isClass, found]
  cases b <;> rfl

theorem isModule_of_label (h : L.label? s = some (k, x)) : L.isModule s = (k == .mod) := by
  obtain ⟨b, found, rfl, -⟩ := label?_eq_some_iff.1 h
  rw [isModule, found]
  cases b <;> rfl

theorem lt_size_of_label (h : L.label? s = some l) : s < L.size := lt_size_of_bind h

theorem Named.exists_label (h : L.Named) (given : s < L.size) : ∃ l, L.label? s = some l := by
  obtain ⟨b, found⟩ := Option.isSome_iff_exists.1 (lt_size_iff.1 given)
  obtain ⟨x, named⟩ := h.exists_name given
  rw [nameOf?, found] at named
  exact ⟨(b.kind, x), label?_eq_some_iff.2 ⟨b, found, rfl, named⟩⟩

theorem Named.eq_of_title (h : L.Named) (hs : L.titleAt? s = some x) (ht : L.titleAt? t = some x) :
    s = t := by
  obtain ⟨i, nameS, textS⟩ := Option.bind_eq_some_iff.1 hs
  obtain ⟨j, nameT, textT⟩ := Option.bind_eq_some_iff.1 ht
  cases h.texts textS textT
  exact h.entities nameS nameT

theorem Named.eq_of_label (h : L.Named) (hs : L.label? s = some l) (ht : L.label? t = some l) :
    s = t := by
  obtain ⟨k, x⟩ := l
  cases k with
  | text => exact h.texts (label?_text_iff.1 hs) (label?_text_iff.1 ht)
  | cls => exact h.eq_of_title (label?_cls_iff.1 hs).2 (label?_cls_iff.1 ht).2
  | mod => exact h.eq_of_title (label?_mod_iff.1 hs).2 (label?_mod_iff.1 ht).2

theorem Named.entity?_eq_some_iff (h : L.Named) : L.entity? x = some s ↔ L.titleAt? s = some x := by
  have title : ∀ {t}, L.entity? x = some t → L.titleAt? t = some x := by
    intro t found
    obtain ⟨inside, hit, -⟩ := List.findIdx?_eq_some_iff_getElem.1 found
    rw [titleAt?, nameSymbolAt?, List.getElem?_eq_getElem inside]
    exact beq_iff_eq.1 hit
  constructor
  · exact title
  · intro hs
    cases found : L.entity? x with
    | none =>
      obtain ⟨k, name, text⟩ := Option.bind_eq_some_iff.1 hs
      exact absurd text (entity?_eq_none_iff.1 found s k name)
    | some t => rw [h.eq_of_title (title found) hs]

theorem Alike.label? (same : Alike L M) (s : Symbol) : M.label? s = L.label? s := by
  have title : M.titleAt? s = L.titleAt? s := by
    rw [titleAt?, titleAt?, same.name]
    exact congrArg _ (funext same.text)
  apply Option.ext
  rintro ⟨k, x⟩
  cases k with
  | text => rw [label?_text_iff, label?_text_iff, same.text]
  | cls => rw [label?_cls_iff, label?_cls_iff, same.isClass, title]
  | mod => rw [label?_mod_iff, label?_mod_iff, same.isModule, title]

theorem label?_push_of_some (b : Binding) (h : L.label? s = some l) :
    (L.push b).label? s = some l := by
  obtain ⟨k, x⟩ := l
  have title : L.titleAt? s = some x → (L.push b).titleAt? s = some x := by
    intro titled
    obtain ⟨n, name, text⟩ := Option.bind_eq_some_iff.1 titled
    refine Option.bind_eq_some_iff.2 ⟨n, ?_, textAt?_push_of_some b text⟩
    simp [Nat.ne_of_lt (lt_size_of_bind name), name]
  cases k with
  | text =>
    rw [label?_text_iff] at h ⊢
    exact textAt?_push_of_some b h
  | cls =>
    rw [label?_cls_iff] at h ⊢
    exact ⟨isClass_push_of_isClass b h.1, title h.2⟩
  | mod =>
    rw [label?_mod_iff] at h ⊢
    exact ⟨isModule_push_of_isModule b h.1, title h.2⟩

theorem Named.label?_push (h : L.Named) {b : Binding} (old : s ≠ L.size) :
    (L.push b).label? s = L.label? s := by
  rcases Nat.lt_or_gt_of_ne old with given | outside
  · obtain ⟨l, label⟩ := h.exists_label given
    rw [label, label?_push_of_some b label]
  · have absent : (L.push b).bindings[s]? = none := by
      rw [Ledger.push, List.getElem?_eq_none]
      rw [List.length_append]
      exact outside
    rw [label?, label?, absent, List.getElem?_eq_none (Nat.le_of_lt outside)]
    rfl

theorem Edit.keeps_label (edit : Edit L M) (h : L.label? s = some l) : M.label? s = some l := by
  rcases edit.alike_or_push with alike | ⟨b, rfl⟩
  · exact (alike.label? s).trans h
  · exact label?_push_of_some b h

theorem Edits.keeps_label (edits : Edits L M) (h : L.label? s = some l) : M.label? s = some l :=
  edits.keep (P := fun N => N.label? s = some l) (fun edit => edit.keeps_label) h

theorem Edits.keeps_name (edits : Edits L M) (h : L.nameOf? s = some x) : M.nameOf? s = some x := by
  obtain ⟨k, label⟩ := nameOf?_eq_some_iff.1 h
  exact nameOf?_of_label (edits.keeps_label label)

/-- The symbols stand for something of the same kind and the same name. -/
def Twin (L M : Ledger) (s t : Symbol) : Prop := ∃ l, L.label? s = some l ∧ M.label? t = some l

theorem Twin.isClass (h : Twin L M s t) : M.isClass t = L.isClass s := by
  obtain ⟨⟨k, x⟩, left, right⟩ := h
  rw [isClass_of_label left, isClass_of_label right]

theorem Twin.isModule (h : Twin L M s t) : M.isModule t = L.isModule s := by
  obtain ⟨⟨k, x⟩, left, right⟩ := h
  rw [isModule_of_label left, isModule_of_label right]

theorem Twin.nameOf? (h : Twin L M s t) : M.nameOf? t = L.nameOf? s := by
  obtain ⟨⟨k, x⟩, left, right⟩ := h
  rw [nameOf?_of_label left, nameOf?_of_label right]

theorem Twin.describe (h : Twin L M s t) : M.describe t = L.describe s := by
  obtain ⟨⟨k, x⟩, left, right⟩ := h
  rw [describe_of_label left, describe_of_label right]

theorem Twin.edits (h : Twin L M s t) (left : Edits L L') (right : Edits M M') :
    Twin L' M' s t := by
  obtain ⟨l, labelL, labelM⟩ := h
  exact ⟨l, left.keeps_label labelL, right.keeps_label labelM⟩

theorem twin_of_text (left : L.textAt? s = some x) (right : M.textAt? t = some x) :
    Twin L M s t :=
  ⟨(.text, x), label?_text_iff.2 left, label?_text_iff.2 right⟩

theorem twin_biUnique (left : L.Named) (right : M.Named) : Relator.BiUnique (Twin L M) := by
  constructor
  · rintro s s' t ⟨l, labelS, labelT⟩ ⟨l', labelS', labelT'⟩
    cases labelT.symm.trans labelT'
    exact left.eq_of_label labelS labelS'
  · rintro s t t' ⟨l, labelS, labelT⟩ ⟨l', labelS', labelT'⟩
    cases labelS.symm.trans labelS'
    exact right.eq_of_label labelT labelT'

end Ledger

end InterfaceLedger
