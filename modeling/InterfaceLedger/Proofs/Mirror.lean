import InterfaceLedger.Proofs.Labels
import InterfaceLedger.Proofs.Likeness

/-!
Mirrors. Two ledgers mirror each other if they have classes and modules of the same names, and
twins among these have records that are alike up to twins. Nothing is said of the texts, so each
may have texts of its own; that is all that a name which only one of them has met leaves behind.
What is done to twins on both sides, and a text that comes in on one side, keeps the mirror.
-/
namespace InterfaceLedger

namespace Ledger

variable {L M L' M' : Ledger} {s t : Symbol} {x : String} {k : Kind}

structure Mirror (L M : Ledger) : Prop where
  left : L.Sound
  right : M.Sound
  forth : ∀ {s x k}, k ≠ .text → L.label? s = some (k, x) → ∃ t, M.label? t = some (k, x)
  back : ∀ {t x k}, k ≠ .text → M.label? t = some (k, x) → ∃ s, L.label? s = some (k, x)
  classes : ∀ {s t}, Twin L M s t →
    Option.Rel (ClassRecord.Like (Twin L M)) (L.classAt? s) (M.classAt? t)
  modules : ∀ {s t}, Twin L M s t →
    Option.Rel (ModuleRecord.Like (Twin L M)) (L.moduleAt? s) (M.moduleAt? t)

theorem mirror_empty (sound : (∅ : Ledger).Sound) : Mirror ∅ ∅ where
  left := sound
  right := sound
  forth _ label := by cases label
  back _ label := by cases label
  classes _ := .none
  modules _ := .none

theorem Mirror.unique (h : Mirror L M) : Relator.BiUnique (Twin L M) :=
  twin_biUnique h.left.named h.right.named

theorem Mirror.entity? (h : Mirror L M) (x : String) :
    Option.Rel (Twin L M) (L.entity? x) (M.entity? x) := by
  cases here : L.entity? x with
  | some s =>
    obtain ⟨k, entity, label⟩ := titleAt?_eq_some_iff.1 (h.left.named.entity?_eq_some_iff.1 here)
    obtain ⟨t, label'⟩ := h.forth entity label
    have title := titleAt?_eq_some_iff.2 ⟨k, entity, label'⟩
    rw [h.right.named.entity?_eq_some_iff.2 title]
    exact .some ⟨_, label, label'⟩
  | none =>
    cases there : M.entity? x with
    | none => exact .none
    | some t =>
      obtain ⟨k, entity, label⟩ :=
        titleAt?_eq_some_iff.1 (h.right.named.entity?_eq_some_iff.1 there)
      obtain ⟨s, label'⟩ := h.back entity label
      have title := titleAt?_eq_some_iff.2 ⟨k, entity, label'⟩
      rw [h.left.named.entity?_eq_some_iff.2 title] at here
      cases here

/-- A ledger later on that only knows more texts. -/
structure TextsAdded (L L' : Ledger) : Prop where
  edits : Edits L L'
  classAt? : ∀ s, L'.classAt? s = L.classAt? s
  moduleAt? : ∀ s, L'.moduleAt? s = L.moduleAt? s

theorem TextsAdded.refl (L : Ledger) : TextsAdded L L := ⟨.refl, fun _ => rfl, fun _ => rfl⟩

theorem textsAdded_intern (L : Ledger) (x : String) : TextsAdded L (L.intern x).2 := by
  refine ⟨intern_edits L x, ?_, ?_⟩
  · intro s
    rw [intern]
    split
    · rfl
    · exact bind_push_of_none Binding.class? rfl L s
  · intro s
    rw [intern]
    split
    · rfl
    · exact bind_push_of_none Binding.module? rfl L s

theorem TextsAdded.label? (h : TextsAdded L L') (named : L.Named) (entity : k ≠ .text)
    (label : L'.label? s = some (k, x)) : L.label? s = some (k, x) := by
  have given : s < L.size := by
    cases k with
    | text => exact absurd rfl entity
    | cls =>
      have isClass := (label?_cls_iff.1 label).1
      rw [isClass_eq, h.classAt?, ← isClass_eq] at isClass
      exact lt_size_of_isClass isClass
    | mod =>
      have isModule := (label?_mod_iff.1 label).1
      rw [isModule_eq, h.moduleAt?, ← isModule_eq] at isModule
      exact lt_size_of_isModule isModule
  obtain ⟨l, old⟩ := named.exists_label given
  rw [h.edits.keeps_label old] at label
  exact old.trans label

theorem classAt?_of_text (h : L.label? s = some (.text, x)) : L.classAt? s = none := by
  rw [classAt?, textAt?_eq_some_iff.1 (label?_text_iff.1 h)]
  rfl

theorem moduleAt?_of_text (h : L.label? s = some (.text, x)) : L.moduleAt? s = none := by
  rw [moduleAt?, textAt?_eq_some_iff.1 (label?_text_iff.1 h)]
  rfl

theorem Mirror.textsAdded (h : Mirror L M) (left : TextsAdded L L') (right : TextsAdded M M') :
    Mirror L' M' := by
  have mono : ∀ s t, Twin L M s t → Twin L' M' s t := fun _ _ twin =>
    twin.edits left.edits right.edits
  have old : ∀ {s t k x}, k ≠ .text → L'.label? s = some (k, x) → M'.label? t = some (k, x) →
      Twin L M s t := fun entity hs ht =>
    ⟨_, left.label? h.left.named entity hs, right.label? h.right.named entity ht⟩
  constructor
  · exact h.left.edits left.edits
  · exact h.right.edits right.edits
  · intro s x k entity label
    obtain ⟨t, twin⟩ := h.forth entity (left.label? h.left.named entity label)
    exact ⟨t, right.edits.keeps_label twin⟩
  · intro t x k entity label
    obtain ⟨s, twin⟩ := h.back entity (right.label? h.right.named entity label)
    exact ⟨s, left.edits.keeps_label twin⟩
  · rintro s t ⟨⟨k, x⟩, labelS, labelT⟩
    -- twins that are texts may be new, but have no record
    by_cases text : k = .text
    · subst text
      rw [classAt?_of_text labelS, classAt?_of_text labelT]
      exact .none
    · rw [left.classAt?, right.classAt?]
      exact optionRel_mono (fun _ _ like => like.mono mono) (h.classes (old text labelS labelT))
  · rintro s t ⟨⟨k, x⟩, labelS, labelT⟩
    by_cases text : k = .text
    · subst text
      rw [moduleAt?_of_text labelS, moduleAt?_of_text labelT]
      exact .none
    · rw [left.moduleAt?, right.moduleAt?]
      exact optionRel_mono (fun _ _ like => like.mono mono) (h.modules (old text labelS labelT))

theorem Mirror.intern (h : Mirror L M) (x : String) : Mirror (L.intern x).2 (M.intern x).2 :=
  h.textsAdded (textsAdded_intern L x) (textsAdded_intern M x)

theorem twin_intern (L M : Ledger) (x : String) :
    Twin (L.intern x).2 (M.intern x).2 (L.intern x).1 (M.intern x).1 :=
  twin_of_text (textAt?_intern L x) (textAt?_intern M x)

theorem twin_of_alike (left : Alike L L') (right : Alike M M') : Twin L' M' = Twin L M := by
  funext s t
  simp only [Twin, left.label?, right.label?]

theorem Mirror.of_alike (h : Mirror L M) (left : Alike L L') (right : Alike M M')
    (sound : L'.Sound) (sound' : M'.Sound)
    (classes : ∀ {s t}, Twin L M s t →
      Option.Rel (ClassRecord.Like (Twin L M)) (L'.classAt? s) (M'.classAt? t))
    (modules : ∀ {s t}, Twin L M s t →
      Option.Rel (ModuleRecord.Like (Twin L M)) (L'.moduleAt? s) (M'.moduleAt? t)) :
    Mirror L' M' := by
  have same := twin_of_alike left right
  constructor
  · exact sound
  · exact sound'
  · intro s x k
    simp only [left.label?, right.label?]
    exact h.forth
  · intro t x k
    simp only [left.label?, right.label?]
    exact h.back
  · rw [same]
    exact classes
  · rw [same]
    exact modules

section Modify

variable {f g : ClassRecord → ClassRecord} {f' g' : ModuleRecord → ModuleRecord}

theorem Mirror.modifyClass (h : Mirror L M) (twin : Twin L M s t)
    (sound : (L.modifyClass s f).Sound) (sound' : (M.modifyClass t g).Sound)
    (acts : ∀ c d, L.classAt? s = some c → M.classAt? t = some d →
      c.Like (Twin L M) d → (f c).Like (Twin L M) (g d))
    (left : Alike L (L.modifyClass s f)) (right : Alike M (M.modifyClass t g)) :
    Mirror (L.modifyClass s f) (M.modifyClass t g) := by
  apply h.of_alike left right sound sound'
  · intro u v other
    have here := Relator.rel_eq h.unique twin other
    rw [classAt?_modifyClass, classAt?_modifyClass]
    apply optionRel_map _ (h.classes other)
    intro c d found found' like
    by_cases same : s = u
    · rw [if_pos same, if_pos (here.1 same)]
      exact acts c d (same ▸ found) (here.1 same ▸ found') like
    · rw [if_neg same, if_neg (mt here.2 same)]
      exact like
  · intro u v other
    rw [moduleAt?_modifyClass, moduleAt?_modifyClass]
    exact h.modules other

theorem Mirror.modifyModule (h : Mirror L M) (twin : Twin L M s t)
    (sound : (L.modifyModule s f').Sound) (sound' : (M.modifyModule t g').Sound)
    (acts : ∀ c d, L.moduleAt? s = some c → M.moduleAt? t = some d →
      c.Like (Twin L M) d → (f' c).Like (Twin L M) (g' d))
    (left : Alike L (L.modifyModule s f')) (right : Alike M (M.modifyModule t g')) :
    Mirror (L.modifyModule s f') (M.modifyModule t g') := by
  apply h.of_alike left right sound sound'
  · intro u v other
    rw [classAt?_modifyModule, classAt?_modifyModule]
    exact h.classes other
  · intro u v other
    have here := Relator.rel_eq h.unique twin other
    rw [moduleAt?_modifyModule, moduleAt?_modifyModule]
    apply optionRel_map _ (h.modules other)
    intro c d found found' like
    by_cases same : s = u
    · rw [if_pos same, if_pos (here.1 same)]
      exact acts c d (same ▸ found) (here.1 same ▸ found') like
    · rw [if_neg same, if_neg (mt here.2 same)]
      exact like

end Modify

theorem Mirror.push (h : Mirror L M) {b b' : Binding} {k : Kind} {x : String}
    (sound : (L.push b).Sound) (sound' : (M.push b').Sound)
    (label : (L.push b).label? L.size = some (k, x))
    (label' : (M.push b').label? M.size = some (k, x))
    (classes : Option.Rel (ClassRecord.Like (Twin L M)) b.class? b'.class?)
    (modules : Option.Rel (ModuleRecord.Like (Twin L M)) b.module? b'.module?) :
    Mirror (L.push b) (M.push b') := by
  have mono : ∀ s t, Twin L M s t → Twin (L.push b) (M.push b') s t := fun _ _ ⟨l, hs, ht⟩ =>
    ⟨l, label?_push_of_some b hs, label?_push_of_some b' ht⟩
  have new : Twin (L.push b) (M.push b') L.size M.size := ⟨_, label, label'⟩
  -- the twins are the old ones and the two new symbols
  have cases_twin : ∀ {s t}, Twin (L.push b) (M.push b') s t →
      s = L.size ∧ t = M.size ∨ s ≠ L.size ∧ t ≠ M.size ∧ Twin L M s t := by
    intro s t twin
    have here := Relator.rel_eq (twin_biUnique sound.named sound'.named) twin new
    by_cases same : s = L.size
    · exact .inl ⟨same, here.1 same⟩
    · refine .inr ⟨same, mt here.2 same, ?_⟩
      obtain ⟨l, hs, ht⟩ := twin
      rw [h.left.named.label?_push same] at hs
      rw [h.right.named.label?_push (mt here.2 same)] at ht
      exact ⟨l, hs, ht⟩
  constructor
  · exact sound
  · exact sound'
  · intro s y j entity here
    by_cases same : s = L.size
    · subst same
      cases label.symm.trans here
      exact ⟨_, label'⟩
    · rw [h.left.named.label?_push same] at here
      obtain ⟨t, there⟩ := h.forth entity here
      exact ⟨t, label?_push_of_some b' there⟩
  · intro t y j entity there
    by_cases same : t = M.size
    · subst same
      cases label'.symm.trans there
      exact ⟨_, label⟩
    · rw [h.right.named.label?_push same] at there
      obtain ⟨s, here⟩ := h.back entity there
      exact ⟨s, label?_push_of_some b here⟩
  · intro s t twin
    rw [classAt?_push, classAt?_push]
    rcases cases_twin twin with ⟨rfl, rfl⟩ | ⟨apart, apart', old⟩
    · rw [if_pos rfl, if_pos rfl]
      exact optionRel_mono (fun _ _ like => like.mono mono) classes
    · rw [if_neg apart, if_neg apart']
      exact optionRel_mono (fun _ _ like => like.mono mono) (h.classes old)
  · intro s t twin
    rw [moduleAt?_push, moduleAt?_push]
    rcases cases_twin twin with ⟨rfl, rfl⟩ | ⟨apart, apart', old⟩
    · rw [if_pos rfl, if_pos rfl]
      exact optionRel_mono (fun _ _ like => like.mono mono) modules
    · rw [if_neg apart, if_neg apart']
      exact optionRel_mono (fun _ _ like => like.mono mono) (h.modules old)

end Ledger

end InterfaceLedger
