import Mathlib.Logic.Relation
import InterfaceLedger.History
import InterfaceLedger.Proofs.Effect
import InterfaceLedger.Proofs.Names

/-!
Edits: the eight ways in which a ledger ever changes, each with what has been checked when it
happens. Every event, refused or not, is a row of edits, so what each edit keeps holds of every
reachable ledger.
-/
namespace InterfaceLedger

namespace Ledger

open Relation (ReflTransGen)

variable {α β : Type} {L M : Ledger} {x : String} {cls mod : Symbol}

/-- An owner whose table takes new methods: a class, or a module that is no interface yet. -/
def Open (L : Ledger) : Owner → Prop
  | .ofClass s => ∃ c, L.classAt? s = some c
  | .ofModule s => ∃ m, L.moduleAt? s = some m ∧ m.role = .capability
  | .singleton => False

inductive Edit (L : Ledger) : Ledger → Prop where
  | text {x : String} (fresh : ∀ i, L.textAt? i ≠ some x) : Edit L (L.push (.text x))
  | newClass {name : Symbol} {parent : Option Symbol} (named : ∃ x, L.textAt? name = some x)
      (vacant : ∀ i, L.nameSymbolAt? i ≠ some name)
      (super : ∀ p, parent = some p → L.isClass p = true) :
      Edit L (L.push (.ofClass { name, parent }))
  | newModule {name : Symbol} (named : ∃ x, L.textAt? name = some x)
      (vacant : ∀ i, L.nameSymbolAt? i ≠ some name) : Edit L (L.push (.ofModule { name }))
  | place {e : Entry} (named : ∃ x, L.textAt? e.name = some x) (unsealed : L.Open e.owner) :
      Edit L (L.place e)
  | remove (cls s : Symbol) :
      Edit L (L.modifyClass cls fun c => { c with table := (c.table.remove s).2 })
  | handle (cls : Symbol) (h : Option Handler) :
      Edit L (L.modifyClass cls fun c => { c with handler := h })
  | mark (mod : Symbol) : Edit L (L.modifyModule mod fun m => { m with role := .interface })
  | attach {cls mod : Symbol} {owners : List Owner} (face : L.isInterface mod = true)
      (walk : L.ancestors cls = .ok owners) (absent : .ofModule mod ∉ owners) :
      Edit L (L.modifyClass cls fun c => { c with includes := mod :: c.includes })

abbrev Edits : Ledger → Ledger → Prop := ReflTransGen Edit

theorem alike_place (L : Ledger) (e : Entry) : Alike L (L.place e) := by
  rw [place]
  cases e.owner with
  | ofClass s => exact alike_modifyClass L s
  | ofModule s => exact alike_modifyModule L s
  | singleton => exact ⟨fun _ => rfl, fun _ => rfl, fun _ => rfl, fun _ => rfl, fun _ => rfl⟩

theorem Edit.alike_or_push (edit : Edit L M) : Alike L M ∨ ∃ b, M = L.push b := by
  cases edit with
  | text => exact .inr ⟨_, rfl⟩
  | newClass => exact .inr ⟨_, rfl⟩
  | newModule => exact .inr ⟨_, rfl⟩
  | place => exact .inl (alike_place L _)
  | remove => exact .inl (alike_modifyClass L _)
  | handle => exact .inl (alike_modifyClass L _)
  | mark => exact .inl (alike_modifyModule L _)
  | attach => exact .inl (alike_modifyClass L _)

theorem Edit.keeps_text (edit : Edit L M) {t : Symbol} (h : L.textAt? t = some x) :
    M.textAt? t = some x := by
  rcases edit.alike_or_push with alike | ⟨b, rfl⟩
  · exact (alike.text t).trans h
  · exact textAt?_push_of_some b h

theorem Edit.keeps_isClass (edit : Edit L M) {t : Symbol} (h : L.isClass t = true) :
    M.isClass t = true := by
  rcases edit.alike_or_push with alike | ⟨b, rfl⟩
  · exact (alike.isClass t).trans h
  · exact isClass_push_of_isClass b h

theorem Edit.keeps_isModule (edit : Edit L M) {t : Symbol} (h : L.isModule t = true) :
    M.isModule t = true := by
  rcases edit.alike_or_push with alike | ⟨b, rfl⟩
  · exact (alike.isModule t).trans h
  · exact isModule_push_of_isModule b h

theorem Edits.keep {P : Ledger → Prop} (one : ∀ {L M}, Edit L M → P L → P M)
    (edits : Edits L M) (h : P L) : P M := by
  induction edits with
  | refl => exact h
  | tail _ edit ih => exact one edit ih

theorem Edits.keeps_isClass (edits : Edits L M) {t : Symbol} (h : L.isClass t = true) :
    M.isClass t = true :=
  edits.keep (P := fun N => N.isClass t = true) (fun edit => edit.keeps_isClass) h

theorem Edits.keeps_isModule (edits : Edits L M) {t : Symbol} (h : L.isModule t = true) :
    M.isModule t = true :=
  edits.keep (P := fun N => N.isModule t = true) (fun edit => edit.keeps_isModule) h

theorem Edits.keeps_text (edits : Edits L M) {t : Symbol} (h : L.textAt? t = some x) :
    M.textAt? t = some x :=
  edits.keep (P := fun N => N.textAt? t = some x) (fun edit => edit.keeps_text) h

theorem Named.edit (h : L.Named) (edit : Edit L M) : M.Named := by
  cases edit with
  | text fresh =>
    apply h.push
    · intro x hx
      cases hx
      exact fresh
    · intro k hk
      cases hk
    · intro p hp
      cases hp
  | newClass named vacant super =>
    apply h.push
    · intro x hx
      cases hx
    · intro k hk
      cases hk
      exact ⟨named, vacant⟩
    · intro p hp
      exact super p hp
  | newModule named vacant =>
    apply h.push
    · intro x hx
      cases hx
    · intro k hk
      cases hk
      exact ⟨named, vacant⟩
    · intro p hp
      cases hp
  | place => exact h.of_alike (alike_place L _)
  | remove => exact h.of_alike (alike_modifyClass L _)
  | handle => exact h.of_alike (alike_modifyClass L _)
  | mark => exact h.of_alike (alike_modifyModule L _)
  | attach => exact h.of_alike (alike_modifyClass L _)

theorem Named.edits (h : L.Named) (edits : Edits L M) : M.Named :=
  edits.keep (fun edit named => named.edit edit) h

/-- The ledger that an update leaves behind, whether or not it was refused. -/
def resulting : EStateM.Result Fault Ledger α → Ledger
  | .ok _ M => M
  | .error _ M => M

theorem resulting_map (f : α → β) (u : Update α) (L : Ledger) :
    resulting ((f <$> u) L) = resulting (u L) := by
  change resulting (EStateM.map f u L) = _
  rw [EStateM.map]
  cases u L <;> rfl

theorem intern_edits (L : Ledger) (x : String) : Edits L (L.intern x).2 := by
  rw [intern]
  cases found : L.textSymbol? x with
  | some s => exact .refl
  | none => exact .single (.text (textSymbol?_eq_none_iff.1 found))

theorem textAt?_intern (L : Ledger) (x : String) :
    (L.intern x).2.textAt? (L.intern x).1 = some x := by
  rw [intern]
  cases found : L.textSymbol? x with
  | some s => exact textAt?_of_textSymbol? found
  | none => simp [Binding.text?]

theorem Named.vacant_intern (h : L.Named) (free : L.entity? x = none) (i : Symbol) :
    (L.intern x).2.nameSymbolAt? i ≠ some (L.intern x).1 := by
  rw [intern]
  cases found : L.textSymbol? x with
  | some s =>
    intro hi
    exact entity?_eq_none_iff.1 free i s hi (textAt?_of_textSymbol? found)
  | none =>
    intro hi
    rw [nameSymbolAt?_push] at hi
    split at hi
    · cases hi
    · obtain ⟨-, y, hy⟩ := h.names hi
      exact absurd (lt_size_of_bind hy) (Nat.lt_irrefl _)

theorem isClass_intern {p : Symbol} (x : String) (h : L.isClass p = true) :
    (L.intern x).2.isClass p = true := by
  rw [intern]
  split
  · exact h
  · exact isClass_push_of_isClass _ h

theorem Open.push {o : Owner} (h : L.Open o) (b : Binding) : (L.push b).Open o := by
  cases o with
  | ofClass s =>
    obtain ⟨c, hc⟩ := h
    exact ⟨c, classAt?_push_of_some b hc⟩
  | ofModule s =>
    obtain ⟨m, hm, role⟩ := h
    exact ⟨m, moduleAt?_push_of_some b hm, role⟩
  | singleton => exact h

theorem Open.intern {o : Owner} (h : L.Open o) (x : String) : (L.intern x).2.Open o := by
  rw [Ledger.intern]
  split
  · exact h
  · exact h.push _

theorem Open.place {o : Owner} (h : L.Open o) (e : Entry) : (L.place e).Open o := by
  rw [Ledger.place]
  cases o with
  | ofClass s =>
    obtain ⟨c, hc⟩ := h
    cases e.owner with
    | ofClass t => simp [Open, hc]
    | ofModule t => simp [Open, hc]
    | singleton => exact ⟨c, hc⟩
  | ofModule s =>
    obtain ⟨m, hm, role⟩ := h
    cases e.owner with
    | ofClass t => simp [Open, hm, role]
    | ofModule t => by_cases here : t = s <;> simp [Open, hm, here, role]
    | singleton => exact ⟨m, hm, role⟩
  | singleton => exact h

theorem link_edits {o : Owner} (h : L.Open o) (m : MethodDecl) :
    Edits L (link o L m) ∧ (link o L m).Open o := by
  have named := textAt?_intern L m.name
  have unsealed := h.intern m.name
  exact ⟨(intern_edits L m.name).tail (.place ⟨_, named⟩ unsealed), unsealed.place _⟩

theorem foldl_link_edits {o : Owner} (h : L.Open o) (ms : List MethodDecl) :
    Edits L (ms.foldl (link o) L) := by
  induction ms generalizing L with
  | nil => exact .refl
  | cons m rest ih => exact (link_edits h m).1.trans (ih (link_edits h m).2)

theorem open_push_class (L : Ledger) (c : ClassRecord) :
    (L.push (.ofClass c)).Open (.ofClass L.size) := by simp [Open, Binding.class?]

theorem open_push_module (L : Ledger) {m : ModuleRecord} (role : m.role = .capability) :
    (L.push (.ofModule m)).Open (.ofModule L.size) := by simp [Open, Binding.module?, role]

theorem entity?_of_vacant {u : Unit} (h : L.vacant x = .ok u) : L.entity? x = none := by
  rw [vacant] at h
  split at h
  · cases h
  · assumption

theorem isClass_of_parentOf {x? : Option String} {parent : Option Symbol} {p : Symbol}
    (h : L.parentOf x? = .ok parent) (hp : parent = some p) : L.isClass p = true := by
  subst hp
  unfold parentOf at h
  split at h
  · cases h
  · split at h
    · cases h
    · split at h
      · cases h
        assumption
      · cases h

theorem Named.newClass_edit (h : L.Named) {u : Unit} {x? : Option String} {parent : Option Symbol}
    (vacancy : L.vacant x = .ok u) (super : L.parentOf x? = .ok parent) :
    Edit (L.intern x).2 ((L.intern x).2.push (.ofClass { name := (L.intern x).1, parent })) := by
  have vacant := h.vacant_intern (entity?_of_vacant vacancy)
  have named := textAt?_intern L x
  have classes : ∀ p, parent = some p → (L.intern x).2.isClass p = true := by
    intro p hp
    exact isClass_intern x (isClass_of_parentOf super hp)
  exact .newClass ⟨_, named⟩ vacant classes

theorem Named.newModule_edit (h : L.Named) {u : Unit} (vacancy : L.vacant x = .ok u) :
    Edit (L.intern x).2 ((L.intern x).2.push (.ofModule { name := (L.intern x).1 })) := by
  have vacant := h.vacant_intern (entity?_of_vacant vacancy)
  have named := textAt?_intern L x
  exact .newModule ⟨_, named⟩ vacant

theorem Named.defineClass_edits (h : L.Named) (d : ClassDecl) :
    Edits L (resulting (defineClass d L)) := by
  rw [defineClass_apply]
  cases vacancy : L.vacant d.name with
  | error f => exact .refl
  | ok _ =>
    cases super : L.parentOf d.parent with
    | error f => exact .refl
    | ok parent =>
      have bound := (intern_edits L d.name).tail (h.newClass_edit vacancy super)
      exact bound.trans (foldl_link_edits (open_push_class _ _) d.methods)

theorem Named.defineModule_edits (h : L.Named) (d : ModuleDecl) :
    Edits L (resulting (defineModule d L)) := by
  rw [defineModule_apply]
  cases vacancy : L.vacant d.name with
  | error f => exact .refl
  | ok _ =>
    have bound := (intern_edits L d.name).tail (h.newModule_edit vacancy)
    exact bound.trans (foldl_link_edits (open_push_module _ rfl) d.methods)

theorem defineMethod_edits (L : Ledger) (cls : Symbol) (m : MethodDecl) :
    Edits L (resulting (defineMethod cls m L)) := by
  rw [defineMethod_apply]
  cases found : L.classAt cls with
  | error f => exact .refl
  | ok c => exact (link_edits (o := .ofClass cls) ⟨c, classAt_eq_ok_iff.1 found⟩ m).1

theorem removeMethod_edits (L : Ledger) (cls : Symbol) (name : String) :
    Edits L (resulting (removeMethod cls name L)) := by
  rw [removeMethod_apply]
  cases L.classAt cls with
  | error f => exact .refl
  | ok c =>
    cases L.textSymbol? name with
    | none => exact .refl
    | some s => exact .single (.remove cls s)

theorem open_of_plain {m : ModuleRecord} (found : L.moduleAt mod = .ok m)
    (plain : ¬ m.isInterface = true) : L.Open (.ofModule mod) := by
  refine ⟨m, moduleAt_eq_ok_iff.1 found, ?_⟩
  cases role : m.role with
  | capability => rfl
  | interface => simp [ModuleRecord.isInterface, role] at plain

theorem extendModule_edits (L : Ledger) (mod : Symbol) (m : MethodDecl) :
    Edits L (resulting (extendModule mod m L)) := by
  rw [extendModule_apply]
  cases found : L.moduleAt mod with
  | error f => exact .refl
  | ok record =>
    dsimp only
    split
    · exact .refl
    · rename_i role
      exact (link_edits (open_of_plain found role) m).1

theorem mark_edits (L : Ledger) (mod : Symbol) : Edits L (resulting (mark mod L)) := by
  rw [mark_apply]
  cases L.moduleAt mod with
  | error f => exact .refl
  | ok m => exact .single (.mark mod)

theorem setHandler_edits (L : Ledger) (cls : Symbol) (h : Option Handler) :
    Edits L (resulting (setHandler cls h L)) := by
  rw [setHandler_apply]
  cases L.classAt cls with
  | error f => exact .refl
  | ok c => exact .single (.handle cls h)

theorem isInterface_mark {m : ModuleRecord} (h : L.moduleAt mod = .ok m) :
    (L.modifyModule mod fun m => { m with role := .interface }).isInterface mod = true := by
  rw [moduleAt_eq_ok_iff] at h
  simp [isInterface_iff, h]

theorem attach_edits (L : Ledger) (cls mod : Symbol) : Edits L (resulting (attach cls mod L)) := by
  rw [attach_apply]
  cases found : L.moduleAt mod with
  | error f => exact .refl
  | ok m =>
    dsimp only
    have marked : Edits L (L.modifyModule mod fun m => { m with role := .interface }) :=
      .single (.mark mod)
    cases walk : ancestors (L.modifyModule mod _) cls with
    | error f => exact marked
    | ok owners =>
      dsimp only
      split
      · exact marked
      · rename_i absent
        exact marked.tail (.attach (isInterface_mark found) walk absent)

theorem forM_keep {P : Ledger → Prop} {step : Symbol → Update Unit}
    (one : ∀ L m, P L → P (resulting (step m L))) {L : Ledger} (h : P L) (ms : List Symbol) :
    P (resulting (ms.forM step L)) := by
  induction ms generalizing L with
  | nil => exact h
  | cons m rest ih =>
    have first := one L m h
    change P (resulting (EStateM.bind (step m) (fun _ => rest.forM step) L))
    rw [EStateM.bind]
    cases done : step m L with
    | error f M => rwa [done] at first
    | ok u M =>
      rw [done] at first
      exact ih first

theorem forM_edits {step : Symbol → Update Unit} (one : ∀ L m, Edits L (resulting (step m L)))
    (L : Ledger) (ms : List Symbol) : Edits L (resulting (ms.forM step L)) :=
  forM_keep (P := Edits L) (fun M m edits => edits.trans (one M m)) .refl ms

theorem declare_edits (L : Ledger) (cls : Symbol) (mods : List Symbol) :
    Edits L (resulting (declare cls mods L)) := by
  rw [declare_apply]
  cases L.classAt cls with
  | error f => exact .refl
  | ok c =>
    cases mods.findSome? L.moduleFault? with
    | some f => exact .refl
    | none => exact forM_edits (attach_edits · cls ·) L mods.reverse

theorem edits_of_declare {mods : List Symbol} (done : declare cls mods L = .ok () M) :
    Edits L M := by
  have edits := declare_edits L cls mods
  rwa [done] at edits

theorem after_eq_resulting (L : Ledger) (op : Operation Symbol) :
    L.after (.operation op) = resulting (op.run L) := by
  rw [after]
  cases op.run L <;> rfl

theorem Named.after_edits (h : L.Named) (e : Event) : Edits L (L.after e) := by
  cases e with
  | singleton o m => exact intern_edits L m.name
  | operation op =>
    rw [after_eq_resulting]
    cases op with
    | intern x =>
      rw [Operation.run, resulting_map]
      exact intern_edits L x
    | defineClass d =>
      rw [Operation.run, resulting_map]
      exact h.defineClass_edits d
    | defineModule d =>
      rw [Operation.run, resulting_map]
      exact h.defineModule_edits d
    | defineMethod cls m =>
      rw [Operation.run, resulting_map]
      exact defineMethod_edits L cls m
    | removeMethod cls name =>
      rw [Operation.run, resulting_map]
      exact removeMethod_edits L cls name
    | extendModule mod m =>
      rw [Operation.run, resulting_map]
      exact extendModule_edits L mod m
    | mark mod =>
      rw [Operation.run, resulting_map]
      exact mark_edits L mod
    | setHandler cls handler =>
      rw [Operation.run, resulting_map]
      exact setHandler_edits L cls (some handler)
    | clearHandler cls =>
      rw [Operation.run, resulting_map]
      exact setHandler_edits L cls none
    | declare cls mods =>
      rw [Operation.run, resulting_map]
      exact declare_edits L cls mods

end Ledger

open Ledger

theorem Reachable.edits_and_named {L : Ledger} (h : Reachable L) : Edits ∅ L ∧ L.Named := by
  induction h with
  | empty => exact ⟨.refl, named_empty⟩
  | step e _ ih =>
    have edits := ih.2.after_edits e
    exact ⟨ih.1.trans edits, ih.2.edits edits⟩

theorem Reachable.named {L : Ledger} (h : Reachable L) : L.Named := h.edits_and_named.2

theorem Reachable.afterAll_edits {L : Ledger} (h : Reachable L) (events : List Event) :
    Edits L (L.afterAll events) := by
  induction events generalizing L with
  | nil => exact .refl
  | cons e rest ih => exact (h.named.after_edits e).trans (ih (h.step e))

/-- What the empty ledger has and every edit of a named ledger keeps, every reachable ledger has. -/
theorem Reachable.of_edit {P : Ledger → Prop} (empty : P ∅)
    (edit : ∀ {L M}, L.Named → P L → Edit L M → P M) {L : Ledger} (h : Reachable L) : P L := by
  obtain ⟨edits, -⟩ := h.edits_and_named
  clear h
  have both : L.Named ∧ P L := by
    induction edits with
    | refl => exact ⟨named_empty, empty⟩
    | tail _ step ih => exact ⟨ih.1.edit step, edit ih.1 ih.2 step⟩
  exact both.2

end InterfaceLedger
