import InterfaceLedger.Ledger.Define

/-!
What a ledger says about one symbol, and how the three ways of writing to the row change that. A
new binding only speaks about the first free symbol; a changed record only about its own. What is
read off a binding stays the same wherever the change does not touch the part that is read.
-/
namespace InterfaceLedger

namespace Binding

def class? : Binding → Option ClassRecord
  | ofClass c => some c
  | _ => none

def module? : Binding → Option ModuleRecord
  | ofModule m => some m
  | _ => none

def parent? : Binding → Option Symbol
  | ofClass c => c.parent
  | _ => none

def includes? : Binding → Option (List Symbol)
  | ofClass c => some c.includes
  | _ => none

end Binding

namespace Ledger

variable {L : Ledger} {s t : Symbol}

def classAt? (L : Ledger) (s : Symbol) : Option ClassRecord := L.bindings[s]?.bind Binding.class?

def moduleAt? (L : Ledger) (s : Symbol) : Option ModuleRecord := L.bindings[s]?.bind Binding.module?

/-- The symbol of the name of the class or module that is bound to `s`. -/
def nameSymbolAt? (L : Ledger) (s : Symbol) : Option Symbol :=
  L.bindings[s]?.bind Binding.nameSymbol?

def parentAt? (L : Ledger) (s : Symbol) : Option Symbol := L.bindings[s]?.bind Binding.parent?

def includesOf (L : Ledger) (s : Symbol) : List Symbol :=
  (L.bindings[s]?.bind Binding.includes?).getD []

theorem textAt?_eq_some_iff {x : String} :
    L.textAt? s = some x ↔ L.bindings[s]? = some (.text x) := by
  rw [textAt?]
  rcases L.bindings[s]? with _ | (_ | _ | _) <;> simp [Binding.text?]

theorem classAt?_eq_some_iff {c : ClassRecord} :
    L.classAt? s = some c ↔ L.bindings[s]? = some (.ofClass c) := by
  rw [classAt?]
  rcases L.bindings[s]? with _ | (_ | _ | _) <;> simp [Binding.class?]

theorem moduleAt?_eq_some_iff {m : ModuleRecord} :
    L.moduleAt? s = some m ↔ L.bindings[s]? = some (.ofModule m) := by
  rw [moduleAt?]
  rcases L.bindings[s]? with _ | (_ | _ | _) <;> simp [Binding.module?]

theorem classAt_eq_ok_iff {c : ClassRecord} : L.classAt s = .ok c ↔ L.classAt? s = some c := by
  rw [classAt, classAt?]
  rcases L.bindings[s]? with _ | (_ | _ | _) <;> simp [Binding.class?]

theorem moduleAt_eq_ok_iff {m : ModuleRecord} : L.moduleAt s = .ok m ↔ L.moduleAt? s = some m := by
  rw [moduleAt, moduleAt?]
  rcases L.bindings[s]? with _ | (_ | _ | _) <;> simp [Binding.module?]

theorem isClass_iff : L.isClass s = true ↔ ∃ c, L.classAt? s = some c := by
  rw [isClass, classAt?]
  rcases L.bindings[s]? with _ | (_ | _ | _) <;> simp [Binding.class?]

theorem isModule_iff : L.isModule s = true ↔ ∃ m, L.moduleAt? s = some m := by
  rw [isModule, moduleAt?]
  rcases L.bindings[s]? with _ | (_ | _ | _) <;> simp [Binding.module?]

theorem isInterface_iff :
    L.isInterface s = true ↔ ∃ m, L.moduleAt? s = some m ∧ m.role = .interface := by
  rw [isInterface, moduleAt?]
  rcases L.bindings[s]? with _ | (_ | _ | _) <;> simp [Binding.module?, ModuleRecord.isInterface]

theorem tableOf_ofClass (L : Ledger) (s : Symbol) :
    L.tableOf (.ofClass s) = ((L.classAt? s).map (·.table)).getD ∅ := by
  rw [tableOf, classAt?]
  rcases L.bindings[s]? with _ | (_ | _ | _) <;> rfl

theorem tableOf_ofModule (L : Ledger) (s : Symbol) :
    L.tableOf (.ofModule s) = ((L.moduleAt? s).map (·.table)).getD ∅ := by
  rw [tableOf, moduleAt?]
  rcases L.bindings[s]? with _ | (_ | _ | _) <;> rfl

theorem tableOf_of_class {c : ClassRecord} (found : L.classAt? s = some c) :
    L.tableOf (.ofClass s) = c.table := by
  rw [tableOf_ofClass, found]
  rfl

theorem tableOf_of_module {m : ModuleRecord} (found : L.moduleAt? s = some m) :
    L.tableOf (.ofModule s) = m.table := by
  rw [tableOf_ofModule, found]
  rfl

@[simp]
theorem tableOf_singleton (L : Ledger) : L.tableOf .singleton = ∅ := rfl

theorem parentAt?_of_class {c : ClassRecord} (h : L.classAt? s = some c) :
    L.parentAt? s = c.parent := by
  rw [classAt?_eq_some_iff] at h
  rw [parentAt?, h]
  rfl

theorem includesOf_of_class {c : ClassRecord} (h : L.classAt? s = some c) :
    L.includesOf s = c.includes := by
  rw [classAt?_eq_some_iff] at h
  rw [includesOf, h]
  rfl

theorem isClass_eq (L : Ledger) (s : Symbol) : L.isClass s = (L.classAt? s).isSome := by
  rw [isClass, classAt?]
  rcases L.bindings[s]? with _ | (_ | _ | _) <;> rfl

theorem isModule_eq (L : Ledger) (s : Symbol) : L.isModule s = (L.moduleAt? s).isSome := by
  rw [isModule, moduleAt?]
  rcases L.bindings[s]? with _ | (_ | _ | _) <;> rfl

theorem ext_bindings {M : Ledger} (same : ∀ s : Symbol, M.bindings[s]? = L.bindings[s]?) : M = L :=
  congrArg Ledger.mk (List.ext_getElem? same)

theorem lt_size_iff : s < L.size ↔ L.bindings[s]?.isSome := by
  simp [size]

theorem lt_size_of_bind {α : Type} {part : Binding → Option α} {a : α}
    (h : L.bindings[s]?.bind part = some a) : s < L.size := by
  rw [lt_size_iff]
  obtain ⟨b, hb, -⟩ := Option.bind_eq_some_iff.1 h
  simp [hb]

theorem lt_size_of_isClass (isClass : L.isClass s = true) : s < L.size := by
  obtain ⟨c, found⟩ := isClass_iff.1 isClass
  exact lt_size_of_bind found

theorem lt_size_of_isModule (isModule : L.isModule s = true) : s < L.size := by
  obtain ⟨m, found⟩ := isModule_iff.1 isModule
  exact lt_size_of_bind found

section Writes

variable {α : Type} (part : Binding → Option α)

theorem bind_push (L : Ledger) (b : Binding) (t : Symbol) :
    (L.push b).bindings[t]?.bind part =
      if t = L.size then part b else L.bindings[t]?.bind part := by
  rw [push, List.getElem?_append, size]
  rcases Nat.lt_trichotomy t L.bindings.length with lt | same | gt
  · rw [if_pos lt, if_neg (Nat.ne_of_lt lt)]
  · subst same
    simp
  · have outside : [b].length ≤ t - L.bindings.length := Nat.le_sub_of_add_le' gt
    rw [if_neg (Nat.not_lt_of_gt gt), if_neg (Nat.ne_of_gt gt),
      List.getElem?_eq_none (Nat.le_of_lt gt), List.getElem?_eq_none outside]

theorem bind_push_of_none {b : Binding} (blank : part b = none) (L : Ledger) (t : Symbol) :
    (L.push b).bindings[t]?.bind part = L.bindings[t]?.bind part := by
  rw [bind_push]
  split
  · rename_i here
    rw [blank, List.getElem?_eq_none (Nat.le_of_eq here.symm)]
    rfl
  · rfl

theorem bind_modifyClass (f : ClassRecord → ClassRecord)
    (keeps : ∀ c, part (.ofClass (f c)) = part (.ofClass c)) (L : Ledger) (s t : Symbol) :
    (L.modifyClass s f).bindings[t]?.bind part = L.bindings[t]?.bind part := by
  rw [modifyClass, List.getElem?_modify]
  by_cases here : s = t
  · rcases L.bindings[t]? with _ | (_ | c | _) <;> simp [here, keeps]
  · simp [here]

theorem bind_modifyModule (f : ModuleRecord → ModuleRecord)
    (keeps : ∀ m, part (.ofModule (f m)) = part (.ofModule m)) (L : Ledger) (s t : Symbol) :
    (L.modifyModule s f).bindings[t]?.bind part = L.bindings[t]?.bind part := by
  rw [modifyModule, List.getElem?_modify]
  by_cases here : s = t
  · rcases L.bindings[t]? with _ | (_ | _ | m) <;> simp [here, keeps]
  · simp [here]

theorem getElem?_modifyClass_of_ne {s t : Symbol} (apart : s ≠ t) (L : Ledger)
    (f : ClassRecord → ClassRecord) : (L.modifyClass s f).bindings[t]? = L.bindings[t]? := by
  rw [modifyClass, List.getElem?_modify]
  simp [apart]

theorem modifyClass_of_fixed {f : ClassRecord → ClassRecord} {c : ClassRecord}
    (found : L.classAt? s = some c) (fixed : f c = c) : L.modifyClass s f = L := by
  rw [classAt?_eq_some_iff] at found
  apply ext_bindings
  intro i
  rw [modifyClass, List.getElem?_modify]
  by_cases here : s = i
  · subst here
    simp [found, fixed]
  · simp [here]

theorem modifyClass_modifyClass (L : Ledger) (s : Symbol) (f g : ClassRecord → ClassRecord) :
    (L.modifyClass s f).modifyClass s g = L.modifyClass s fun c => g (f c) := by
  apply ext_bindings
  intro t
  rw [modifyClass, modifyClass, modifyClass, List.getElem?_modify, List.getElem?_modify,
    List.getElem?_modify]
  by_cases here : s = t
  · rcases L.bindings[t]? with _ | (_ | _ | _) <;> simp [here]
  · simp [here]

theorem modifyClass_congr {f g : ClassRecord → ClassRecord} {c : ClassRecord}
    (found : L.classAt? s = some c) (same : f c = g c) : L.modifyClass s f = L.modifyClass s g := by
  rw [classAt?_eq_some_iff] at found
  apply ext_bindings
  intro t
  rw [modifyClass, modifyClass, List.getElem?_modify, List.getElem?_modify]
  by_cases here : s = t
  · subst here
    simp [found, same]
  · simp [here]

end Writes

section Push

variable (L : Ledger) (b : Binding) (t : Symbol)

@[simp]
theorem textAt?_push : (L.push b).textAt? t = if t = L.size then b.text? else L.textAt? t :=
  bind_push Binding.text? L b t

@[simp]
theorem classAt?_push : (L.push b).classAt? t = if t = L.size then b.class? else L.classAt? t :=
  bind_push Binding.class? L b t

@[simp]
theorem moduleAt?_push :
    (L.push b).moduleAt? t = if t = L.size then b.module? else L.moduleAt? t :=
  bind_push Binding.module? L b t

@[simp]
theorem nameSymbolAt?_push :
    (L.push b).nameSymbolAt? t = if t = L.size then b.nameSymbol? else L.nameSymbolAt? t :=
  bind_push Binding.nameSymbol? L b t

@[simp]
theorem parentAt?_push :
    (L.push b).parentAt? t = if t = L.size then b.parent? else L.parentAt? t :=
  bind_push Binding.parent? L b t

theorem classAt?_push_of_some {L : Ledger} {t : Symbol} {c : ClassRecord} (b : Binding)
    (h : L.classAt? t = some c) : (L.push b).classAt? t = some c := by
  simp [Nat.ne_of_lt (lt_size_of_bind h), h]

theorem moduleAt?_push_of_some {L : Ledger} {t : Symbol} {m : ModuleRecord} (b : Binding)
    (h : L.moduleAt? t = some m) : (L.push b).moduleAt? t = some m := by
  simp [Nat.ne_of_lt (lt_size_of_bind h), h]

end Push

section Modify

variable (L : Ledger) (s t : Symbol) (f : ClassRecord → ClassRecord)
  (g : ModuleRecord → ModuleRecord)

@[simp]
theorem classAt?_modifyClass :
    (L.modifyClass s f).classAt? t = (L.classAt? t).map fun c => if s = t then f c else c := by
  rw [classAt?, classAt?, modifyClass, List.getElem?_modify]
  by_cases here : s = t
  · rcases L.bindings[t]? with _ | (_ | _ | _) <;> simp [here, Binding.class?]
  · rcases L.bindings[t]? with _ | (_ | _ | _) <;> simp [here, Binding.class?]

@[simp]
theorem moduleAt?_modifyModule :
    (L.modifyModule s g).moduleAt? t = (L.moduleAt? t).map fun m => if s = t then g m else m := by
  rw [moduleAt?, moduleAt?, modifyModule, List.getElem?_modify]
  by_cases here : s = t
  · rcases L.bindings[t]? with _ | (_ | _ | _) <;> simp [here, Binding.module?]
  · rcases L.bindings[t]? with _ | (_ | _ | _) <;> simp [here, Binding.module?]

@[simp]
theorem textAt?_modifyClass : (L.modifyClass s f).textAt? t = L.textAt? t :=
  bind_modifyClass Binding.text? f (fun _ => rfl) L s t

@[simp]
theorem textAt?_modifyModule : (L.modifyModule s g).textAt? t = L.textAt? t :=
  bind_modifyModule Binding.text? g (fun _ => rfl) L s t

@[simp]
theorem moduleAt?_modifyClass : (L.modifyClass s f).moduleAt? t = L.moduleAt? t :=
  bind_modifyClass Binding.module? f (fun _ => rfl) L s t

@[simp]
theorem classAt?_modifyModule : (L.modifyModule s g).classAt? t = L.classAt? t :=
  bind_modifyModule Binding.class? g (fun _ => rfl) L s t

@[simp]
theorem parentAt?_modifyModule : (L.modifyModule s g).parentAt? t = L.parentAt? t :=
  bind_modifyModule Binding.parent? g (fun _ => rfl) L s t

@[simp]
theorem isClass_modifyClass : (L.modifyClass s f).isClass t = L.isClass t := by
  simp [isClass_eq]

@[simp]
theorem isClass_modifyModule : (L.modifyModule s g).isClass t = L.isClass t := by
  simp [isClass_eq]

@[simp]
theorem isModule_modifyClass : (L.modifyClass s f).isModule t = L.isModule t := by
  simp [isModule_eq]

@[simp]
theorem isModule_modifyModule : (L.modifyModule s g).isModule t = L.isModule t := by
  simp [isModule_eq]

end Modify

end Ledger

end InterfaceLedger
