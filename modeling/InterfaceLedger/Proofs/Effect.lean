import InterfaceLedger.Ledger.Conformance
import InterfaceLedger.Proofs.Bindings

/-!
What each update does, as one equation. On the left the update runs on a ledger; on the right
stand the check that decides, the answer, and the ledger that is left, which is the old one
wherever the update is refused.
-/
namespace InterfaceLedger

namespace Ledger

variable {α β : Type}

theorem ask_bind {σ : Type} (question : σ → Except Fault α) (next : α → EStateM Fault σ β) (L : σ) :
    (ask question >>= next) L =
      match question L with
      | .ok a => next a L
      | .error f => .error f L := by
  change EStateM.bind (ask question) next L = _
  cases h : question L <;> simp [EStateM.bind, ask, h]

theorem get_bind {σ : Type} (next : σ → EStateM Fault σ β) (L : σ) :
    (get >>= next) L = next L L := rfl

theorem updateClass_apply (cls : Symbol) (f : ClassRecord → ClassRecord) (L : Ledger) :
    updateClass cls f L =
      match L.classAt cls with
      | .ok _ => .ok () (L.modifyClass cls f)
      | .error e => .error e L := by
  rw [updateClass, ask_bind]
  cases L.classAt cls <;> rfl

theorem updateModule_apply (mod : Symbol) (f : ModuleRecord → ModuleRecord) (L : Ledger) :
    updateModule mod f L =
      match L.moduleAt mod with
      | .ok _ => .ok () (L.modifyModule mod f)
      | .error e => .error e L := by
  rw [updateModule, ask_bind]
  cases L.moduleAt mod <;> rfl

theorem classAt_intern {L : Ledger} {cls : Symbol} {c : ClassRecord} (x : String)
    (h : L.classAt cls = .ok c) : (L.intern x).2.classAt cls = .ok c := by
  rw [classAt_eq_ok_iff] at h ⊢
  rw [intern]
  split
  · exact h
  · exact classAt?_push_of_some _ h

theorem moduleAt_intern {L : Ledger} {mod : Symbol} {m : ModuleRecord} (x : String)
    (h : L.moduleAt mod = .ok m) : (L.intern x).2.moduleAt mod = .ok m := by
  rw [moduleAt_eq_ok_iff] at h ⊢
  rw [intern]
  split
  · exact h
  · exact moduleAt?_push_of_some _ h

theorem defineClass_apply (d : ClassDecl) (L : Ledger) :
    defineClass d L =
      match L.vacant d.name, L.parentOf d.parent with
      | .ok _, .ok parent =>
        let (name, M) := L.intern d.name
        .ok M.size (d.methods.foldl (link (.ofClass M.size)) (M.push (.ofClass { name, parent })))
      | .error f, _ => .error f L
      | .ok _, .error f => .error f L := by
  rw [defineClass, ask_bind]
  cases L.vacant d.name with
  | error f => rfl
  | ok _ =>
    rw [ask_bind]
    cases L.parentOf d.parent <;> rfl

theorem exists_of_defineClass {L M : Ledger} {s : Symbol} {d : ClassDecl}
    (done : defineClass d L = .ok s M) :
    ∃ parent, L.vacant d.name = .ok () ∧ L.parentOf d.parent = .ok parent ∧
      s = (L.intern d.name).2.size ∧ M = d.methods.foldl (link (.ofClass s))
        ((L.intern d.name).2.push (.ofClass { name := (L.intern d.name).1, parent })) := by
  rw [defineClass_apply] at done
  split at done
  · rename_i parent vacancy super
    cases done
    exact ⟨parent, vacancy, super, rfl, rfl⟩
  · cases done
  · cases done

theorem defineModule_apply (d : ModuleDecl) (L : Ledger) :
    defineModule d L =
      match L.vacant d.name with
      | .ok _ =>
        let (name, M) := L.intern d.name
        .ok M.size (d.methods.foldl (link (.ofModule M.size)) (M.push (.ofModule { name })))
      | .error f => .error f L := by
  rw [defineModule, ask_bind]
  cases L.vacant d.name <;> rfl

theorem exists_of_defineModule {L M : Ledger} {s : Symbol} {d : ModuleDecl}
    (done : defineModule d L = .ok s M) :
    L.vacant d.name = .ok () ∧ s = (L.intern d.name).2.size ∧
      M = d.methods.foldl (link (.ofModule s))
        ((L.intern d.name).2.push (.ofModule { name := (L.intern d.name).1 })) := by
  rw [defineModule_apply] at done
  split at done
  · rename_i vacancy
    cases done
    exact ⟨vacancy, rfl, rfl⟩
  · cases done

theorem defineMethod_apply (cls : Symbol) (m : MethodDecl) (L : Ledger) :
    defineMethod cls m L =
      match L.classAt cls with
      | .ok _ => .ok () (link (.ofClass cls) L m)
      | .error f => .error f L := by
  rw [defineMethod, ask_bind]
  cases found : L.classAt cls with
  | error f => rfl
  | ok c =>
    change updateClass cls _ (L.intern m.name).2 = _
    rw [updateClass_apply, classAt_intern m.name found]
    rfl

theorem removeMethod_apply (cls : Symbol) (name : String) (L : Ledger) :
    removeMethod cls name L =
      match L.classAt cls, L.textSymbol? name with
      | .ok c, some s =>
        .ok (c.table.contains s)
          (L.modifyClass cls fun c => { c with table := (c.table.remove s).2 })
      | .ok _, none => .ok false L
      | .error f, _ => .error f L := by
  rw [removeMethod, ask_bind]
  cases L.classAt cls with
  | error f => rfl
  | ok c =>
    dsimp only
    rw [get_bind]
    cases L.textSymbol? name <;> rfl

theorem extendModule_apply (mod : Symbol) (m : MethodDecl) (L : Ledger) :
    extendModule mod m L =
      match L.moduleAt mod with
      | .ok record =>
        if record.isInterface then .error (.interfaceSealed (L.describe mod)) L
        else .ok () (link (.ofModule mod) L m)
      | .error f => .error f L := by
  rw [extendModule, ask_bind]
  cases found : L.moduleAt mod with
  | error f => rfl
  | ok record =>
    dsimp only
    cases record.isInterface with
    | true => rfl
    | false =>
      change updateModule mod _ (L.intern m.name).2 = _
      rw [updateModule_apply, moduleAt_intern m.name found]
      rfl

theorem mark_apply (mod : Symbol) (L : Ledger) :
    mark mod L =
      match L.moduleAt mod with
      | .ok _ => .ok mod (L.modifyModule mod fun m => { m with role := .interface })
      | .error f => .error f L := by
  change EStateM.bind (updateModule mod _) _ L = _
  rw [EStateM.bind, updateModule_apply]
  cases L.moduleAt mod <;> rfl

theorem setHandler_apply (cls : Symbol) (h : Option Handler) (L : Ledger) :
    setHandler cls h L =
      match L.classAt cls with
      | .ok _ => .ok () (L.modifyClass cls fun c => { c with handler := h })
      | .error f => .error f L := by
  rw [setHandler, updateClass_apply]

theorem exists_class_of_ancestors {L : Ledger} {cls : Symbol} {owners : List Owner}
    (h : L.ancestors cls = .ok owners) : ∃ c, L.classAt cls = .ok c := by
  cases found : L.classAt cls with
  | ok c => exact ⟨c, rfl⟩
  | error f =>
    rw [ancestors, lineage, found] at h
    cases h

theorem attach_apply (cls mod : Symbol) (L : Ledger) :
    attach cls mod L =
      match L.moduleAt mod with
      | .ok _ =>
        let M := L.modifyModule mod fun m => { m with role := .interface }
        match M.ancestors cls with
        | .ok owners =>
          if .ofModule mod ∈ owners then .ok () M
          else .ok () (M.modifyClass cls fun c => { c with includes := mod :: c.includes })
        | .error f => .error f M
      | .error f => .error f L := by
  change EStateM.bind (mark mod) _ L = _
  rw [EStateM.bind, mark_apply]
  cases L.moduleAt mod with
  | error f => rfl
  | ok _ =>
    dsimp only
    rw [ask_bind]
    cases walk : ancestors (L.modifyModule mod _) cls with
    | error f => rfl
    | ok owners =>
      obtain ⟨c, found⟩ := exists_class_of_ancestors walk
      dsimp only
      split
      · rfl
      · rw [updateClass_apply, found]

def moduleFault? (L : Ledger) (mod : Symbol) : Option Fault :=
  match L.moduleAt mod with
  | .ok _ => none
  | .error f => some f

theorem moduleFault?_eq_none_iff {L : Ledger} {mod : Symbol} :
    L.moduleFault? mod = none ↔ ∃ m, L.moduleAt mod = .ok m := by
  rw [moduleFault?]
  cases L.moduleAt mod <;> simp

theorem moduleFault?_eq_some_iff {L : Ledger} {mod : Symbol} {f : Fault} :
    L.moduleFault? mod = some f ↔ L.moduleAt mod = .error f := by
  rw [moduleFault?]
  cases L.moduleAt mod <;> simp

theorem checkModules_apply (mods : List Symbol) (L : Ledger) :
    (mods.forM fun m => discard (ask (moduleAt · m)) : Update Unit) L =
      match mods.findSome? L.moduleFault? with
      | none => .ok () L
      | some f => .error f L := by
  induction mods with
  | nil => rfl
  | cons m rest ih =>
    change EStateM.bind (EStateM.map _ (ask (moduleAt · m))) (fun _ => rest.forM _) L = _
    rw [EStateM.bind, EStateM.map, ask, List.findSome?_cons, moduleFault?]
    cases L.moduleAt m with
    | error f => rfl
    | ok record => exact ih

theorem declare_apply (cls : Symbol) (mods : List Symbol) (L : Ledger) :
    declare cls mods L =
      match L.classAt cls, mods.findSome? L.moduleFault? with
      | .ok _, none => mods.reverse.forM (attach cls) L
      | .ok _, some f => .error f L
      | .error f, _ => .error f L := by
  rw [declare, ask_bind]
  cases L.classAt cls with
  | error f => rfl
  | ok c =>
    change EStateM.bind _ (fun _ => mods.reverse.forM (attach cls)) L = _
    rw [EStateM.bind, checkModules_apply]
    cases mods.findSome? L.moduleFault? <;> rfl

theorem instantiate_eq_ok_iff {L : Ledger} {cls : Symbol} {o : Instance} :
    L.instantiate cls = .ok o ↔ (∃ c, L.classAt cls = .ok c) ∧ o = { cls } := by
  change (L.classAt cls).bind (fun _ => .ok { cls }) = .ok o ↔ _
  cases L.classAt cls <;> simp [Except.bind, eq_comm]

end Ledger

end InterfaceLedger
