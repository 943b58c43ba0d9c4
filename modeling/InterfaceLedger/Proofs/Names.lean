import InterfaceLedger.Proofs.Bindings

/-!
Names and superclasses. `Named` is what a ledger promises about them: no text and no name of a class
or module stands for two symbols, and a name or a superclass always lies further up in the row. A
changed record keeps the promise as long as its name and superclass stay, and a new binding keeps
it if its own name is free.
-/
namespace InterfaceLedger

namespace Ledger

variable {L M : Ledger} {s : Symbol} {x : String}

structure Named (L : Ledger) : Prop where
  texts : ∀ {i j x}, L.textAt? i = some x → L.textAt? j = some x → i = j
  entities : ∀ {i j k}, L.nameSymbolAt? i = some k → L.nameSymbolAt? j = some k → i = j
  names : ∀ {s k}, L.nameSymbolAt? s = some k → k < s ∧ ∃ x, L.textAt? k = some x
  parents : ∀ {s p}, L.parentAt? s = some p → p < s ∧ L.isClass p = true

theorem named_empty : (∅ : Ledger).Named where
  texts h := by cases h
  entities h := by cases h
  names h := by cases h
  parents h := by cases h

/-- Two ledgers that agree on texts, names, kinds and superclasses. -/
structure Alike (L M : Ledger) : Prop where
  text : ∀ t, M.textAt? t = L.textAt? t
  name : ∀ t, M.nameSymbolAt? t = L.nameSymbolAt? t
  parent : ∀ t, M.parentAt? t = L.parentAt? t
  isClass : ∀ t, M.isClass t = L.isClass t
  isModule : ∀ t, M.isModule t = L.isModule t

theorem alike_modifyClass (L : Ledger) (s : Symbol) {f : ClassRecord → ClassRecord}
    (name : ∀ c, (f c).name = c.name := by intro; rfl)
    (parent : ∀ c, (f c).parent = c.parent := by intro; rfl) : Alike L (L.modifyClass s f) where
  text t := textAt?_modifyClass L s t f
  name t := bind_modifyClass Binding.nameSymbol? f (fun c => congrArg some (name c)) L s t
  parent t := bind_modifyClass Binding.parent? f parent L s t
  isClass t := isClass_modifyClass L s t f
  isModule t := isModule_modifyClass L s t f

theorem alike_modifyModule (L : Ledger) (s : Symbol) {g : ModuleRecord → ModuleRecord}
    (name : ∀ m, (g m).name = m.name := by intro; rfl) : Alike L (L.modifyModule s g) where
  text t := textAt?_modifyModule L s t g
  name t := bind_modifyModule Binding.nameSymbol? g (fun m => congrArg some (name m)) L s t
  parent t := parentAt?_modifyModule L s t g
  isClass t := isClass_modifyModule L s t g
  isModule t := isModule_modifyModule L s t g

theorem Named.of_alike (h : L.Named) (same : Alike L M) : M.Named where
  texts hi hj := by
    rw [same.text] at hi hj
    exact h.texts hi hj
  entities hi hj := by
    rw [same.name] at hi hj
    exact h.entities hi hj
  names hs := by
    rw [same.name] at hs
    simp only [same.text]
    exact h.names hs
  parents hs := by
    rw [same.parent] at hs
    rw [same.isClass]
    exact h.parents hs

theorem isClass_push_of_isClass (b : Binding) (h : L.isClass s = true) :
    (L.push b).isClass s = true := by
  obtain ⟨c, hc⟩ := isClass_iff.1 h
  exact isClass_iff.2 ⟨c, classAt?_push_of_some b hc⟩

theorem isModule_push_of_isModule (b : Binding) (h : L.isModule s = true) :
    (L.push b).isModule s = true := by
  obtain ⟨m, hm⟩ := isModule_iff.1 h
  exact isModule_iff.2 ⟨m, moduleAt?_push_of_some b hm⟩

theorem textAt?_push_of_some (b : Binding) (h : L.textAt? s = some x) :
    (L.push b).textAt? s = some x := by
  simp [Nat.ne_of_lt (lt_size_of_bind h), h]

theorem Named.push (h : L.Named) {b : Binding}
    (text : ∀ {x}, b.text? = some x → ∀ i, L.textAt? i ≠ some x)
    (name : ∀ {k}, b.nameSymbol? = some k →
      (∃ x, L.textAt? k = some x) ∧ ∀ i, L.nameSymbolAt? i ≠ some k)
    (parent : ∀ {p}, b.parent? = some p → L.isClass p = true) : (L.push b).Named where
  texts := by
    intro i j x hi hj
    rw [textAt?_push] at hi hj
    split at hi <;> split at hj
    · rename_i atEnd atEnd'
      exact atEnd.trans atEnd'.symm
    · exact absurd hj (text hi j)
    · exact absurd hi (text hj i)
    · exact h.texts hi hj
  entities := by
    intro i j k hi hj
    rw [nameSymbolAt?_push] at hi hj
    split at hi <;> split at hj
    · rename_i atEnd atEnd'
      exact atEnd.trans atEnd'.symm
    · exact absurd hj ((name hi).2 j)
    · exact absurd hi ((name hj).2 i)
    · exact h.entities hi hj
  names := by
    intro s k hs
    rw [nameSymbolAt?_push] at hs
    split at hs
    · rename_i here
      obtain ⟨x, hx⟩ := (name hs).1
      exact ⟨here ▸ lt_size_of_bind hx, x, textAt?_push_of_some b hx⟩
    · obtain ⟨lt, x, hx⟩ := h.names hs
      exact ⟨lt, x, textAt?_push_of_some b hx⟩
  parents := by
    intro s p hs
    rw [parentAt?_push] at hs
    split at hs
    · rename_i here
      have isClass := parent hs
      obtain ⟨c, hc⟩ := isClass_iff.1 isClass
      exact ⟨here ▸ lt_size_of_bind hc, isClass_push_of_isClass b isClass⟩
    · exact ⟨(h.parents hs).1, isClass_push_of_isClass b (h.parents hs).2⟩

theorem textAt?_of_textSymbol? (h : L.textSymbol? x = some s) : L.textAt? s = some x := by
  obtain ⟨inside, hit, -⟩ := List.findIdx?_eq_some_iff_getElem.1 h
  rw [textAt?, List.getElem?_eq_getElem inside]
  exact beq_iff_eq.1 hit

theorem textSymbol?_eq_none_iff : L.textSymbol? x = none ↔ ∀ i, L.textAt? i ≠ some x := by
  rw [textSymbol?, List.findIdx?_eq_none_iff]
  constructor
  · intro none i hi
    rw [textAt?_eq_some_iff] at hi
    exact absurd (none _ (List.mem_of_getElem? hi)) (by simp [Binding.text?])
  · intro none b hb
    obtain ⟨i, hi⟩ := List.mem_iff_getElem?.1 hb
    have := none i
    simpa [textAt?, hi] using this

theorem entity?_eq_none_iff :
    L.entity? x = none ↔ ∀ i k, L.nameSymbolAt? i = some k → L.textAt? k ≠ some x := by
  rw [entity?, List.findIdx?_eq_none_iff]
  constructor
  · intro none i k hi named
    obtain ⟨b, hb, hk⟩ := Option.bind_eq_some_iff.1 hi
    have := none b (List.mem_of_getElem? hb)
    simp [hk, named] at this
  · intro none b hb
    obtain ⟨i, hi⟩ := List.mem_iff_getElem?.1 hb
    rw [beq_eq_false_iff_ne]
    intro named
    obtain ⟨k, hk, hx⟩ := Option.bind_eq_some_iff.1 named
    exact none i k (by rw [nameSymbolAt?, hi]; exact hk) hx

theorem Named.textSymbol?_eq_some_iff (h : L.Named) :
    L.textSymbol? x = some s ↔ L.textAt? s = some x := by
  constructor
  · exact textAt?_of_textSymbol?
  · intro hs
    cases found : L.textSymbol? x with
    | none => exact absurd hs (textSymbol?_eq_none_iff.1 found s)
    | some t => rw [h.texts (textAt?_of_textSymbol? found) hs]

theorem nameOf?_of_text (h : L.textAt? s = some x) : L.nameOf? s = some x := by
  rw [textAt?_eq_some_iff] at h
  rw [nameOf?, h]
  rfl

theorem describe_of_text (h : L.textAt? s = some x) : L.describe s = x := by
  rw [describe, nameOf?_of_text h]
  rfl

theorem nameSymbolAt?_of_class {c : ClassRecord} (found : L.classAt? s = some c) :
    L.nameSymbolAt? s = some c.name := by
  rw [classAt?_eq_some_iff] at found
  rw [nameSymbolAt?, found]
  rfl

theorem nameSymbolAt?_of_module {m : ModuleRecord} (found : L.moduleAt? s = some m) :
    L.nameSymbolAt? s = some m.name := by
  rw [moduleAt?_eq_some_iff] at found
  rw [nameSymbolAt?, found]
  rfl

theorem nameOf?_of_class {c : ClassRecord} (found : L.classAt? s = some c) :
    L.nameOf? s = L.textAt? c.name := by
  rw [classAt?_eq_some_iff] at found
  rw [nameOf?, found]
  rfl

theorem Named.exists_name (h : L.Named) (given : s < L.size) : ∃ x, L.nameOf? s = some x := by
  obtain ⟨b, hb⟩ := Option.isSome_iff_exists.1 (lt_size_iff.1 given)
  cases b with
  | text x => exact ⟨x, nameOf?_of_text (textAt?_eq_some_iff.2 hb)⟩
  | ofClass c =>
    obtain ⟨-, x, hx⟩ := h.names (s := s) (k := c.name) (by rw [nameSymbolAt?, hb]; rfl)
    exact ⟨x, by rw [nameOf?, hb]; exact hx⟩
  | ofModule m =>
    obtain ⟨-, x, hx⟩ := h.names (s := s) (k := m.name) (by rw [nameSymbolAt?, hb]; rfl)
    exact ⟨x, by rw [nameOf?, hb]; exact hx⟩

/-- Why a symbol is refused where one of another kind is asked for: it is not given out, or it is
    given to something else, and then the fault carries the name of that. -/
inductive Misfit (L : Ledger) (kind : Symbol → Bool) (wrong : String → Fault) (s : Symbol) :
    Fault → Prop where
  | unknown (absent : L.size ≤ s) : Misfit L kind wrong s (.unknownSymbol s)
  | other {x : String} (given : s < L.size) (unfit : kind s = false)
      (name : L.nameOf? s = some x) : Misfit L kind wrong s (wrong x)

abbrev ClassFault (L : Ledger) (s : Symbol) : Fault → Prop := Misfit L L.isClass .notAClass s

abbrev ModuleFault (L : Ledger) (s : Symbol) : Fault → Prop := Misfit L L.isModule .notAModule s

theorem Named.describe_eq_iff (h : L.Named) (given : s < L.size) :
    L.describe s = x ↔ L.nameOf? s = some x := by
  obtain ⟨y, named⟩ := h.exists_name given
  rw [describe, named, Option.getD_some, Option.some.injEq]

theorem Named.error_iff_misfit (h : L.Named) {α : Type} {answer : Except Fault α}
    {kind : Symbol → Bool} {wrong : String → Fault} {f : Fault}
    (absent : L.size ≤ s → answer = .error (.unknownSymbol s))
    (other : s < L.size → kind s = false → answer = .error (wrong (L.describe s)))
    (good : kind s = true → ∃ a, answer = .ok a) :
    answer = .error f ↔ Misfit L kind wrong s f := by
  constructor
  · intro refused
    rcases Nat.lt_or_ge s L.size with given | outside
    · cases right : kind s with
      | true =>
        obtain ⟨a, fine⟩ := good right
        cases fine.symm.trans refused
      | false =>
        cases (other given right).symm.trans refused
        exact .other given right ((h.describe_eq_iff given).1 rfl)
    · cases (absent outside).symm.trans refused
      exact .unknown outside
  · intro fault
    cases fault with
    | unknown outside => exact absent outside
    | other given right name => rw [other given right, (h.describe_eq_iff given).2 name]

theorem classAt_of_absent (absent : L.size ≤ s) : L.classAt s = .error (.unknownSymbol s) := by
  rw [classAt, List.getElem?_eq_none absent]

theorem moduleAt_of_absent (absent : L.size ≤ s) : L.moduleAt s = .error (.unknownSymbol s) := by
  rw [moduleAt, List.getElem?_eq_none absent]

theorem classAt_of_other (given : s < L.size) (kind : L.isClass s = false) :
    L.classAt s = .error (.notAClass (L.describe s)) := by
  obtain ⟨b, found⟩ := Option.isSome_iff_exists.1 (lt_size_iff.1 given)
  rw [isClass, found] at kind
  rw [classAt, found]
  cases b with
  | ofClass c => cases kind
  | text => rfl
  | ofModule => rfl

theorem moduleAt_of_other (given : s < L.size) (kind : L.isModule s = false) :
    L.moduleAt s = .error (.notAModule (L.describe s)) := by
  obtain ⟨b, found⟩ := Option.isSome_iff_exists.1 (lt_size_iff.1 given)
  rw [isModule, found] at kind
  rw [moduleAt, found]
  cases b with
  | ofModule m => cases kind
  | text => rfl
  | ofClass => rfl

theorem isClass_iff_classAt : L.isClass s = true ↔ ∃ c, L.classAt s = .ok c := by
  simp only [isClass_iff, classAt_eq_ok_iff]

theorem isModule_iff_moduleAt : L.isModule s = true ↔ ∃ m, L.moduleAt s = .ok m := by
  simp only [isModule_iff, moduleAt_eq_ok_iff]

theorem Named.classAt_eq_error_iff (h : L.Named) {f : Fault} :
    L.classAt s = .error f ↔ ClassFault L s f :=
  h.error_iff_misfit classAt_of_absent classAt_of_other isClass_iff_classAt.1

theorem Named.moduleAt_eq_error_iff (h : L.Named) {f : Fault} :
    L.moduleAt s = .error f ↔ ModuleFault L s f :=
  h.error_iff_misfit moduleAt_of_absent moduleAt_of_other isModule_iff_moduleAt.1

end Ledger

end InterfaceLedger
