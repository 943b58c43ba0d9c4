import InterfaceLedger.Proofs.Reflection

/-!
Updates in lockstep. The same operation about twins, done to two ledgers that mirror each other,
goes well on both sides or is refused on both for the same reason; the answers are alike and the
ledgers that are left mirror each other again. A loop over symbols keeps step with the same loop
over their twins.
-/
namespace InterfaceLedger

inductive Operation.Like (R : Symbol → Symbol → Prop) : Operation Symbol → Operation Symbol → Prop
  | intern (x : String) : Like R (.intern x) (.intern x)
  | defineClass (d : ClassDecl) : Like R (.defineClass d) (.defineClass d)
  | defineModule (d : ModuleDecl) : Like R (.defineModule d) (.defineModule d)
  | defineMethod {s t : Symbol} (cls : R s t) (m : MethodDecl) :
      Like R (.defineMethod s m) (.defineMethod t m)
  | removeMethod {s t : Symbol} (cls : R s t) (x : String) :
      Like R (.removeMethod s x) (.removeMethod t x)
  | extendModule {s t : Symbol} (mod : R s t) (m : MethodDecl) :
      Like R (.extendModule s m) (.extendModule t m)
  | mark {s t : Symbol} (mod : R s t) : Like R (.mark s) (.mark t)
  | setHandler {s t : Symbol} (cls : R s t) (h : Handler) :
      Like R (.setHandler s h) (.setHandler t h)
  | clearHandler {s t : Symbol} (cls : R s t) : Like R (.clearHandler s) (.clearHandler t)
  | declare {s t : Symbol} {l l' : List Symbol} (cls : R s t) (mods : List.Forall₂ R l l') :
      Like R (.declare s l) (.declare t l')

namespace Ledger

variable {α β γ δ : Type} {L M : Ledger} {s t : Symbol} {o o' : Owner} {name : String}

/-- Both updates go well, with answers that `P` relates, or both are refused for the same reason. -/
inductive Likewise (P : Ledger → Ledger → α → β → Prop) :
    EStateM.Result Fault Ledger α → EStateM.Result Fault Ledger β → Prop
  | ok {L M : Ledger} {a : α} {b : β} (mirror : Mirror L M) (answer : P L M a b) :
      Likewise P (.ok a L) (.ok b M)
  | error {L M : Ledger} (mirror : Mirror L M) (f : Fault) : Likewise P (.error f L) (.error f M)

abbrev Done : Ledger → Ledger → Unit → Unit → Prop := fun _ _ _ _ => True

theorem Likewise.map {P : Ledger → Ledger → α → β → Prop} {Q : Ledger → Ledger → γ → δ → Prop}
    {f : α → γ} {g : β → δ} (acts : ∀ L M a b, P L M a b → Q L M (f a) (g b)) {u : Update α}
    {v : Update β} (h : Likewise P (u L) (v M)) : Likewise Q ((f <$> u) L) ((g <$> v) M) := by
  change Likewise Q (EStateM.map f u L) (EStateM.map g v M)
  rw [EStateM.map, EStateM.map]
  generalize u L = x, v M = y at h
  cases h with
  | ok mirror answer => exact .ok mirror (acts _ _ _ _ answer)
  | error mirror f => exact .error mirror f

theorem Mirror.place (h : Mirror L M) {e e' : Entry} (like : e.Like (Twin L M) e')
    (edit : Edit L (L.place e)) (edit' : Edit M (M.place e')) :
    Mirror (L.place e) (M.place e') := by
  have sound := h.left.edits (.single edit)
  have sound' := h.right.edits (.single edit')
  have owner := like.owner
  rw [Ledger.place] at sound sound' ⊢
  rw [Ledger.place]
  generalize e.owner = o, e'.owner = o' at owner sound sound' ⊢
  cases owner with
  | ofClass twin =>
    apply h.modifyClass twin sound sound' _ (alike_modifyClass L _) (alike_modifyClass M _)
    intro c d _ _ record
    exact { record with table := record.table.insert h.unique like }
  | ofModule twin =>
    apply h.modifyModule twin sound sound' _ (alike_modifyModule L _) (alike_modifyModule M _)
    intro m n _ _ record
    exact { record with table := record.table.insert h.unique like }
  | singleton => exact h

theorem Mirror.link (h : Mirror L M) (owner : o.Like (Twin L M) o') (unsealed : L.Open o)
    (unsealed' : M.Open o') (m : MethodDecl) : Mirror (link o L m) (link o' M m) := by
  have mono : ∀ s t, Twin L M s t → Twin (L.intern m.name).2 (M.intern m.name).2 s t :=
    fun _ _ twin => twin.edits (intern_edits L m.name) (intern_edits M m.name)
  have entry := m.like_toEntry (twin_intern L M m.name) (owner.mono mono)
  exact (h.intern m.name).place entry
    (.place ⟨_, textAt?_intern L m.name⟩ (unsealed.intern m.name))
    (.place ⟨_, textAt?_intern M m.name⟩ (unsealed'.intern m.name))

theorem Mirror.foldl_link (h : Mirror L M) (owner : o.Like (Twin L M) o') (unsealed : L.Open o)
    (unsealed' : M.Open o') (ms : List MethodDecl) :
    Mirror (ms.foldl (Ledger.link o) L) (ms.foldl (Ledger.link o') M) := by
  induction ms generalizing L M with
  | nil => exact h
  | cons m rest ih =>
    obtain ⟨edits, unsealed₁⟩ := link_edits unsealed m
    obtain ⟨edits', unsealed₁'⟩ := link_edits unsealed' m
    have mono : ∀ s t, Twin L M s t → Twin (Ledger.link o L m) (Ledger.link o' M m) s t :=
      fun _ _ twin => twin.edits edits edits'
    exact ih (h.link owner unsealed unsealed' m) (owner.mono mono) unsealed₁ unsealed₁'

theorem Mirror.defineMethod (h : Mirror L M) (twin : Twin L M s t) (m : MethodDecl) :
    Likewise Done (Ledger.defineMethod s m L) (Ledger.defineMethod t m M) := by
  have records := h.classAt twin
  rw [defineMethod_apply, defineMethod_apply]
  generalize found : L.classAt s = x, found' : M.classAt t = y at records
  cases records with
  | ok like =>
    have unsealed : L.Open (.ofClass s) := ⟨_, classAt_eq_ok_iff.1 found⟩
    have unsealed' : M.Open (.ofClass t) := ⟨_, classAt_eq_ok_iff.1 found'⟩
    exact .ok (h.link (.ofClass twin) unsealed unsealed' m) trivial
  | error f => exact .error h f

theorem Mirror.extendModule (h : Mirror L M) (twin : Twin L M s t) (m : MethodDecl) :
    Likewise Done (Ledger.extendModule s m L) (Ledger.extendModule t m M) := by
  have records := h.moduleAt twin
  rw [extendModule_apply, extendModule_apply]
  generalize found : L.moduleAt s = x, found' : M.moduleAt t = y at records
  cases records with
  | @ok r r' like =>
    dsimp only
    rw [ModuleRecord.isInterface, ModuleRecord.isInterface, like.role, twin.describe]
    cases role : r.role with
    | interface => exact .error h _
    | capability =>
      have unsealed : L.Open (.ofModule s) := ⟨r, moduleAt_eq_ok_iff.1 found, role⟩
      have unsealed' : M.Open (.ofModule t) :=
        ⟨r', moduleAt_eq_ok_iff.1 found', like.role.trans role⟩
      exact .ok (h.link (.ofModule twin) unsealed unsealed' m) trivial
  | error f => exact .error h f

theorem Mirror.removeMethod (h : Mirror L M) (twin : Twin L M s t) (name : String) :
    Likewise (fun _ _ => Eq) (Ledger.removeMethod s name L) (Ledger.removeMethod t name M) := by
  have records := h.classAt twin
  generalize found : L.classAt s = x, found' : M.classAt t = y at records
  cases records with
  | @ok c d like =>
    have here := classAt_eq_ok_iff.1 found
    have there := classAt_eq_ok_iff.1 found'
    have entries := find?_isNamed_of_like like.table name
    rw [h.left.removeMethod_eq here, h.right.removeMethod_eq there]
    generalize c.table.toList.find? (L.isNamed name) = x,
      d.table.toList.find? (M.isNamed name) = y at entries
    cases entries with
    | none => exact .ok h rfl
    | @some e e' entry =>
      have sound := h.left.edits (.single (.remove s e.name))
      have sound' := h.right.edits (.single (.remove t e'.name))
      refine .ok (h.modifyClass twin sound sound' ?_ (alike_modifyClass L s)
        (alike_modifyClass M t)) rfl
      intro c d _ _ record
      exact { record with table := record.table.remove h.unique entry.name }
  | error f =>
    rw [removeMethod_apply, removeMethod_apply, found, found']
    exact .error h f

theorem Mirror.setHandler (h : Mirror L M) (twin : Twin L M s t) (handler : Option Handler) :
    Likewise Done (Ledger.setHandler s handler L) (Ledger.setHandler t handler M) := by
  have records := h.classAt twin
  rw [setHandler_apply, setHandler_apply]
  generalize L.classAt s = x, M.classAt t = y at records
  cases records with
  | ok =>
    have sound := h.left.edits (.single (.handle s handler))
    have sound' := h.right.edits (.single (.handle t handler))
    refine .ok (h.modifyClass twin sound sound' ?_ (alike_modifyClass L s)
      (alike_modifyClass M t)) trivial
    intro c d _ _ record
    exact { record with handler := rfl }
  | error f => exact .error h f

theorem Mirror.modifyModule_mark (h : Mirror L M) (twin : Twin L M s t) :
    Mirror (L.modifyModule s fun m => { m with role := .interface })
      (M.modifyModule t fun m => { m with role := .interface }) := by
  apply h.modifyModule twin (h.left.edits (.single (.mark s))) (h.right.edits (.single (.mark t))) _
    (alike_modifyModule L s) (alike_modifyModule M t)
  intro m n _ _ record
  exact { record with role := rfl }

theorem Mirror.mark (h : Mirror L M) (twin : Twin L M s t) :
    Likewise Twin (Ledger.mark s L) (Ledger.mark t M) := by
  have records := h.moduleAt twin
  rw [mark_apply, mark_apply]
  generalize L.moduleAt s = x, M.moduleAt t = y at records
  cases records with
  | ok =>
    refine .ok (h.modifyModule_mark twin) ?_
    rwa [twin_of_alike (alike_modifyModule L s) (alike_modifyModule M t)]
  | error f => exact .error h f

theorem Mirror.attach (h : Mirror L M) {mod mod' : Symbol} (twin : Twin L M s t)
    (mods : Twin L M mod mod') :
    Likewise Done (Ledger.attach s mod L) (Ledger.attach t mod' M) := by
  have records := h.moduleAt mods
  rw [attach_apply, attach_apply]
  generalize found : L.moduleAt mod = x, found' : M.moduleAt mod' = y at records
  cases records with
  | error f => exact .error h f
  | ok =>
    have marked := h.modifyModule_mark mods
    have face := isInterface_mark found
    have face' := isInterface_mark found'
    have same : ∀ (N : Ledger) k,
        Alike N (N.modifyModule k fun m => { m with role := .interface }) :=
      fun N k => alike_modifyModule N k
    -- a mark changes no label, so the twins are the same ones
    rw [← twin_of_alike (same L mod) (same M mod')] at twin mods
    dsimp only
    generalize L.modifyModule mod (fun m => { m with role := .interface }) = L₁,
      M.modifyModule mod' (fun m => { m with role := .interface }) = M₁ at *
    have walks := marked.ancestors twin
    generalize walk : L₁.ancestors s = x, walk' : M₁.ancestors t = y at walks
    cases walks with
    | error f => exact .error marked f
    | @ok owners owners' like =>
      have among := List.rel_mem (owner_biUnique marked.unique) (.ofModule mods) like
      dsimp only
      by_cases present : .ofModule mod ∈ owners
      · rw [if_pos present, if_pos (among.1 present)]
        exact .ok marked trivial
      · have absent' := mt among.2 present
        rw [if_neg present, if_neg absent']
        have sound := marked.left.edits (.single (.attach face walk present))
        have sound' := marked.right.edits (.single (.attach face' walk' absent'))
        refine .ok (marked.modifyClass twin sound sound' ?_ (alike_modifyClass L₁ s)
          (alike_modifyClass M₁ t)) trivial
        intro c d _ _ record
        exact { record with includes := .cons mods record.includes }

theorem Mirror.forM {step step' : Symbol → Update Unit}
    (edits : ∀ L m, Edits L (Ledger.resulting (step m L)))
    (edits' : ∀ L m, Edits L (Ledger.resulting (step' m L)))
    {P : Ledger → Ledger → Prop}
    (keeps : ∀ {L M L' M'}, P L M → Edits L L' → Edits M M' → P L' M')
    (one : ∀ {L M m m'}, Mirror L M → P L M → Twin L M m m' →
      Likewise Done (step m L) (step' m' M))
    (h : Mirror L M) (start : P L M) {ms ms' : List Symbol}
    (mods : List.Forall₂ (Twin L M) ms ms') :
    Likewise Done (ms.forM step L) (ms'.forM step' M) := by
  induction ms generalizing L M ms' with
  | nil =>
    cases mods
    exact .ok h trivial
  | cons m rest ih =>
    cases mods with
    | @cons _ m' _ rest' first tail =>
      have turn := one h start first
      have grown := edits L m
      have grown' := edits' M m'
      -- the rest of the loop runs on later ledgers, where the twins are twins still
      change Likewise Done (EStateM.bind (step m) (fun _ => rest.forM step) L)
        (EStateM.bind (step' m') (fun _ => rest'.forM step') M)
      rw [EStateM.bind, EStateM.bind]
      generalize step m L = x, step' m' M = y at turn grown grown'
      cases turn with
      | error mirror f => exact .error mirror f
      | ok mirror _ =>
        exact ih mirror (keeps start grown grown')
          (tail.imp fun _ _ twin => twin.edits grown grown')

theorem Mirror.moduleFault? (h : Mirror L M) (twin : Twin L M s t) :
    M.moduleFault? t = L.moduleFault? s := by
  have records := h.moduleAt twin
  rw [Ledger.moduleFault?, Ledger.moduleFault?]
  generalize L.moduleAt s = x, M.moduleAt t = y at records
  cases records <;> rfl

theorem Mirror.declare (h : Mirror L M) (twin : Twin L M s t) {ms ms' : List Symbol}
    (mods : List.Forall₂ (Twin L M) ms ms') :
    Likewise Done (Ledger.declare s ms L) (Ledger.declare t ms' M) := by
  have records := h.classAt twin
  have faults := forall₂_findSome?_eq (fun _ _ mod => h.moduleFault? mod) mods
  rw [declare_apply, declare_apply, faults]
  generalize L.classAt s = x, M.classAt t = y at records
  cases records with
  | error f => exact .error h f
  | ok =>
    cases ms.findSome? L.moduleFault? with
    | some f => exact .error h f
    | none =>
      exact Mirror.forM (P := fun L M => Twin L M s t) (attach_edits · s ·) (attach_edits · t ·)
        (fun twin grown grown' => twin.edits grown grown')
        (fun mirror twin mod => mirror.attach twin mod)
        h twin (List.rel_reverse mods)

theorem Mirror.vacant (h : Mirror L M) (x : String) : M.vacant x = L.vacant x := by
  have entities := h.entity? x
  rw [Ledger.vacant, Ledger.vacant]
  generalize L.entity? x = y, M.entity? x = z at entities
  cases entities <;> rfl

theorem Mirror.parentOf (h : Mirror L M) (x? : Option String) :
    ExceptRel (Option.Rel (Twin L M)) (L.parentOf x?) (M.parentOf x?) := by
  cases x? with
  | none => exact .ok .none
  | some x =>
    have entities := h.entity? x
    rw [Ledger.parentOf, Ledger.parentOf]
    generalize L.entity? x = y, M.entity? x = z at entities
    cases entities with
    | none => exact .error _
    | @some p p' twin =>
      dsimp only
      rw [twin.isClass]
      cases L.isClass p with
      | true => exact .ok (.some twin)
      | false => exact .error _

theorem label?_push_class {c : ClassRecord} (text : L.textAt? c.name = some name) :
    (L.push (.ofClass c)).label? L.size = some (.cls, name) := by
  have isClass : (L.push (.ofClass c)).isClass L.size = true := by simp [isClass_eq, Binding.class?]
  have title : (L.push (.ofClass c)).nameSymbolAt? L.size = some c.name := by
    simp [Binding.nameSymbol?]
  exact label?_cls_iff.2
    ⟨isClass, Option.bind_eq_some_iff.2 ⟨_, title, textAt?_push_of_some _ text⟩⟩

theorem label?_push_module {m : ModuleRecord} (text : L.textAt? m.name = some name) :
    (L.push (.ofModule m)).label? L.size = some (.mod, name) := by
  have isModule : (L.push (.ofModule m)).isModule L.size = true := by
    simp [isModule_eq, Binding.module?]
  have title : (L.push (.ofModule m)).nameSymbolAt? L.size = some m.name := by
    simp [Binding.nameSymbol?]
  exact label?_mod_iff.2
    ⟨isModule, Option.bind_eq_some_iff.2 ⟨_, title, textAt?_push_of_some _ text⟩⟩

theorem Mirror.defineClass (h : Mirror L M) (d : ClassDecl) :
    Likewise Twin (Ledger.defineClass d L) (Ledger.defineClass d M) := by
  have parents := h.parentOf d.parent
  rw [defineClass_apply, defineClass_apply, h.vacant]
  cases vacancy : L.vacant d.name with
  | error f => exact .error h f
  | ok _ =>
    have vacancy' := (h.vacant d.name).trans vacancy
    generalize super : L.parentOf d.parent = x, super' : M.parentOf d.parent = y at parents
    cases parents with
    | error f => exact .error h f
    | @ok parent parent' twins =>
      have text := textAt?_intern L d.name
      have text' := textAt?_intern M d.name
      have edit := h.left.named.newClass_edit vacancy super
      have edit' := h.right.named.newClass_edit vacancy' super'
      have interned := h.intern d.name
      have above := optionRel_mono (fun _ _ twin =>
        twin.edits (intern_edits L d.name) (intern_edits M d.name)) twins
      dsimp only
      generalize L.intern d.name = named, M.intern d.name = named' at *
      have label := label?_push_class (c := { name := named.1, parent }) text
      have label' := label?_push_class (c := { name := named'.1, parent := parent' }) text'
      -- the methods come after the class is bound, so their owners are twins from the start
      have bound := interned.push (interned.left.edits (.single edit))
        (interned.right.edits (.single edit')) label label'
        (.some ⟨twin_of_text text text', above, .empty, .nil, rfl⟩) .none
      have new : Twin _ _ named.2.size named'.2.size := ⟨_, label, label'⟩
      have unsealed := open_push_class named.2 { name := named.1, parent }
      have unsealed' := open_push_class named'.2 { name := named'.1, parent := parent' }
      exact .ok (bound.foldl_link (.ofClass new) unsealed unsealed' d.methods)
        (new.edits (foldl_link_edits unsealed _) (foldl_link_edits unsealed' _))

theorem Mirror.defineModule (h : Mirror L M) (d : ModuleDecl) :
    Likewise Twin (Ledger.defineModule d L) (Ledger.defineModule d M) := by
  rw [defineModule_apply, defineModule_apply, h.vacant]
  cases vacancy : L.vacant d.name with
  | error f => exact .error h f
  | ok _ =>
    have vacancy' := (h.vacant d.name).trans vacancy
    have text := textAt?_intern L d.name
    have text' := textAt?_intern M d.name
    have edit := h.left.named.newModule_edit vacancy
    have edit' := h.right.named.newModule_edit vacancy'
    have interned := h.intern d.name
    generalize L.intern d.name = named, M.intern d.name = named' at *
    have label := label?_push_module (m := { name := named.1 }) text
    have label' := label?_push_module (m := { name := named'.1 }) text'
    have bound := interned.push (interned.left.edits (.single edit))
      (interned.right.edits (.single edit')) label label' .none
      (.some ⟨twin_of_text text text', rfl, .empty⟩)
    have new : Twin _ _ named.2.size named'.2.size := ⟨_, label, label'⟩
    have unsealed := open_push_module named.2 (m := { name := named.1 }) rfl
    have unsealed' := open_push_module named'.2 (m := { name := named'.1 }) rfl
    exact .ok (bound.foldl_link (.ofModule new) unsealed unsealed' d.methods)
      (new.edits (foldl_link_edits unsealed _) (foldl_link_edits unsealed' _))

theorem Mirror.run (h : Mirror L M) {op op' : Operation Symbol} (like : op.Like (Twin L M) op') :
    Likewise (fun L M => Answer.Like (Twin L M)) (op.run L) (op'.run M) := by
  cases like with
  | intern x => exact .ok (h.intern x) (.symbol (twin_intern L M x))
  | defineClass d => exact (h.defineClass d).map fun _ _ _ _ twin => .symbol twin
  | defineModule d => exact (h.defineModule d).map fun _ _ _ _ twin => .symbol twin
  | defineMethod cls m => exact (h.defineMethod cls m).map fun _ _ _ _ _ => .done
  | removeMethod cls x =>
    refine (h.removeMethod cls x).map ?_
    rintro L M b _ rfl
    exact .flag b
  | extendModule mod m => exact (h.extendModule mod m).map fun _ _ _ _ _ => .done
  | mark mod => exact (h.mark mod).map fun _ _ _ _ twin => .symbol twin
  | setHandler cls handler => exact (h.setHandler cls (some handler)).map fun _ _ _ _ _ => .done
  | clearHandler cls => exact (h.setHandler cls none).map fun _ _ _ _ _ => .done
  | declare cls mods => exact (h.declare cls mods).map fun _ _ _ _ _ => .done

end Ledger

end InterfaceLedger
