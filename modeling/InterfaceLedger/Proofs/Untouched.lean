import InterfaceLedger.Proofs.Edits

/-!
What an event leaves alone. Five operations are about one class, and that class is the only one
whose record they write to; all other events write to no class that is there already.
-/
namespace InterfaceLedger

/-- The class that an event is about, if it is about one. -/
def Event.target? : Event → Option Symbol
  | .operation (.defineMethod cls _) => some cls
  | .operation (.removeMethod cls _) => some cls
  | .operation (.setHandler cls _) => some cls
  | .operation (.clearHandler cls) => some cls
  | .operation (.declare cls _) => some cls
  | _ => none

namespace Ledger

variable {L : Ledger} {s : Symbol} {c : ClassRecord} {o : Owner}

theorem classAt?_modifyClass_of_ne {t : Symbol} (apart : t ≠ s) (f : ClassRecord → ClassRecord)
    (found : L.classAt? s = some c) : (L.modifyClass t f).classAt? s = some c := by
  simp [found, apart]

theorem classAt?_place_of_ne {e : Entry} (other : e.owner ≠ .ofClass s)
    (found : L.classAt? s = some c) : (L.place e).classAt? s = some c := by
  rw [place]
  cases owner : e.owner with
  | ofClass t =>
    rw [owner] at other
    exact classAt?_modifyClass_of_ne (fun same => other (congrArg _ same)) _ found
  | ofModule t => simpa using found
  | singleton => exact found

theorem classAt?_intern_of_some (x : String) (found : L.classAt? s = some c) :
    (L.intern x).2.classAt? s = some c :=
  classAt_eq_ok_iff.1 (classAt_intern x (classAt_eq_ok_iff.2 found))

theorem classAt?_link_of_ne (other : o ≠ .ofClass s) (m : MethodDecl)
    (found : L.classAt? s = some c) : (link o L m).classAt? s = some c :=
  classAt?_place_of_ne other (classAt?_intern_of_some m.name found)

theorem classAt?_foldl_link_of_ne (other : o ≠ .ofClass s) (ms : List MethodDecl)
    (found : L.classAt? s = some c) : (ms.foldl (link o) L).classAt? s = some c := by
  induction ms generalizing L with
  | nil => exact found
  | cons m rest ih => exact ih (classAt?_link_of_ne other m found)

theorem ofClass_size_ne (found : L.classAt? s = some c) : Owner.ofClass L.size ≠ .ofClass s := by
  intro same
  cases same
  exact Nat.lt_irrefl _ (lt_size_of_bind found)

theorem defineClass_keeps_class (d : ClassDecl) (found : L.classAt? s = some c) :
    (resulting (defineClass d L)).classAt? s = some c := by
  rw [defineClass_apply]
  cases L.vacant d.name with
  | error f => exact found
  | ok _ =>
    cases L.parentOf d.parent with
    | error f => exact found
    | ok parent =>
      have named := classAt?_intern_of_some d.name found
      exact classAt?_foldl_link_of_ne (ofClass_size_ne named) d.methods
        (classAt?_push_of_some _ named)

theorem defineModule_keeps_class (d : ModuleDecl) (found : L.classAt? s = some c) :
    (resulting (defineModule d L)).classAt? s = some c := by
  rw [defineModule_apply]
  cases L.vacant d.name with
  | error f => exact found
  | ok _ =>
    have named := classAt?_intern_of_some d.name found
    exact classAt?_foldl_link_of_ne (by nofun) d.methods (classAt?_push_of_some _ named)

theorem defineMethod_keeps_class {cls : Symbol} (away : cls ≠ s) (m : MethodDecl)
    (found : L.classAt? s = some c) : (resulting (defineMethod cls m L)).classAt? s = some c := by
  rw [defineMethod_apply]
  cases L.classAt cls with
  | error f => exact found
  | ok _ => exact classAt?_link_of_ne (fun same => away (Owner.ofClass.inj same)) m found

theorem removeMethod_keeps_class {cls : Symbol} (away : cls ≠ s) (name : String)
    (found : L.classAt? s = some c) : (resulting (removeMethod cls name L)).classAt? s = some c := by
  rw [removeMethod_apply]
  cases L.classAt cls with
  | error f => exact found
  | ok _ =>
    cases L.textSymbol? name with
    | none => exact found
    | some t => exact classAt?_modifyClass_of_ne away _ found

theorem extendModule_keeps_class (mod : Symbol) (m : MethodDecl) (found : L.classAt? s = some c) :
    (resulting (extendModule mod m L)).classAt? s = some c := by
  rw [extendModule_apply]
  cases L.moduleAt mod with
  | error f => exact found
  | ok record =>
    dsimp only
    split
    · exact found
    · exact classAt?_link_of_ne (o := .ofModule mod) nofun m found

theorem mark_keeps_class (mod : Symbol) (found : L.classAt? s = some c) :
    (resulting (mark mod L)).classAt? s = some c := by
  rw [mark_apply]
  cases L.moduleAt mod with
  | error f => exact found
  | ok _ => simpa [resulting] using found

theorem setHandler_keeps_class {cls : Symbol} (away : cls ≠ s) (h : Option Handler)
    (found : L.classAt? s = some c) : (resulting (setHandler cls h L)).classAt? s = some c := by
  rw [setHandler_apply]
  cases L.classAt cls with
  | error f => exact found
  | ok _ => exact classAt?_modifyClass_of_ne away _ found

theorem attach_keeps_class {cls : Symbol} (away : cls ≠ s) (mod : Symbol)
    (found : L.classAt? s = some c) : (resulting (attach cls mod L)).classAt? s = some c := by
  rw [attach_apply]
  cases L.moduleAt mod with
  | error f => exact found
  | ok _ =>
    have marked := (classAt?_modifyModule L mod s fun m => { m with role := .interface }).trans found
    dsimp only
    split
    · split
      · exact marked
      · exact classAt?_modifyClass_of_ne away _ marked
    · exact marked

theorem declare_keeps_class {cls : Symbol} (away : cls ≠ s) (mods : List Symbol)
    (found : L.classAt? s = some c) : (resulting (declare cls mods L)).classAt? s = some c := by
  rw [declare_apply]
  cases L.classAt cls with
  | error f => exact found
  | ok _ =>
    cases mods.findSome? L.moduleFault? with
    | some f => exact found
    | none =>
      exact forM_keep (P := fun N => N.classAt? s = some c)
        (fun _ mod found => attach_keeps_class away mod found) found mods.reverse

theorem after_keeps_class (found : L.classAt? s = some c) (e : Event)
    (away : e.target? ≠ some s) : (L.after e).classAt? s = some c := by
  cases e with
  | singleton o m => exact classAt?_intern_of_some m.name found
  | operation op =>
    have other : ∀ {cls}, Event.target? (.operation op) = some cls → cls ≠ s := by
      intro cls target same
      exact away (same ▸ target)
    rw [after_eq_resulting]
    cases op with
    | intern x =>
      rw [Operation.run, resulting_map]
      exact classAt?_intern_of_some x found
    | defineClass d =>
      rw [Operation.run, resulting_map]
      exact defineClass_keeps_class d found
    | defineModule d =>
      rw [Operation.run, resulting_map]
      exact defineModule_keeps_class d found
    | defineMethod cls m =>
      rw [Operation.run, resulting_map]
      exact defineMethod_keeps_class (other rfl) m found
    | removeMethod cls name =>
      rw [Operation.run, resulting_map]
      exact removeMethod_keeps_class (other rfl) name found
    | extendModule mod m =>
      rw [Operation.run, resulting_map]
      exact extendModule_keeps_class mod m found
    | mark mod =>
      rw [Operation.run, resulting_map]
      exact mark_keeps_class mod found
    | setHandler cls handler =>
      rw [Operation.run, resulting_map]
      exact setHandler_keeps_class (other rfl) (some handler) found
    | clearHandler cls =>
      rw [Operation.run, resulting_map]
      exact setHandler_keeps_class (other rfl) none found
    | declare cls mods =>
      rw [Operation.run, resulting_map]
      exact declare_keeps_class (other rfl) mods found

end Ledger

end InterfaceLedger
