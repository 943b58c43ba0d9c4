import InterfaceLedger.History
import InterfaceLedger.Proofs.Effect
import InterfaceLedger.Proofs.Representation

/-!
Registries and ledgers run alike. An update of a registry refines one of a ledger if the two, started
on a registry and the ledger that it shows, end in the same answer or the same fault and again on such
a pair. Each operation refines its namesake. A definition is the one that takes an argument of its
own, since its record is pushed after the methods are linked: the registry that counts on the way is
the one with the unfinished record already in place.
-/
namespace InterfaceLedger

namespace Registry

open Ledger

variable {α β : Type} {R : Registry} {L : Ledger} {s : Symbol} {x : String}

section Linking

theorem intern_keeps (R : Registry) (x : String) {e : SymbolEntry}
    (entry : R.symbols[s]? = some e) : (R.intern x).2.symbols[s]? = some e := by
  rw [Registry.intern]
  split
  · exact entry
  · exact getElem?_push_of_some entry _

@[simp]
theorem intern_classes (R : Registry) (x : String) : (R.intern x).2.classes = R.classes := by
  rw [Registry.intern]
  split <;> rfl

@[simp]
theorem intern_modules (R : Registry) (x : String) : (R.intern x).2.modules = R.modules := by
  rw [Registry.intern]
  split <;> rfl

@[simp]
theorem intern_entityMap (R : Registry) (x : String) :
    (R.intern x).2.entityMap = R.entityMap := by
  rw [Registry.intern]
  split <;> rfl

theorem intern_insertClass (R : Registry) (c : ClassRecord) (x : String) :
    (R.insertClass c).intern x = ((R.intern x).1, (R.intern x).2.insertClass c) := by
  have known : (R.insertClass c).textSymbol? x = R.textSymbol? x := rfl
  rw [Registry.intern, Registry.intern, known]
  cases R.textSymbol? x <;> rfl

theorem intern_insertModule (R : Registry) (m : ModuleRecord) (x : String) :
    (R.insertModule m).intern x = ((R.intern x).1, (R.intern x).2.insertModule m) := by
  have known : (R.insertModule m).textSymbol? x = R.textSymbol? x := rfl
  rw [Registry.intern, Registry.intern, known]
  cases R.textSymbol? x <;> rfl

theorem foldl_linkInto_entityMap (o : Owner) (ms : List MethodDecl)
    (unplaced : MethodTable × Registry) :
    (ms.foldl (linkInto o) unplaced).2.entityMap = unplaced.2.entityMap := by
  induction ms generalizing unplaced with
  | nil => rfl
  | cons m rest ih =>
    rw [List.foldl_cons, ih]
    exact intern_entityMap unplaced.2 m.name

/-- How the table of a class or module is put in place while its methods are still coming in: the
    symbol waits for it already, and to intern a name before or after makes no difference. -/
structure Pending (o : Owner) (put : MethodTable → Registry → Registry)
    (Waits : Registry → Prop) : Prop where
  intern : ∀ T R x, (put T R).intern x = ((R.intern x).1, put T (R.intern x).2)
  waits : ∀ {R} x, Waits R → Waits (R.intern x).2
  place : ∀ {R L} {T : MethodTable} (e : Entry), e.owner = o → Waits R →
    Tabulates (put T R) L → Tabulates (put (T.insert e).2 R) (L.place e)
  entityMap : ∀ T R, (put T R).entityMap = R.entityMap

theorem Pending.foldl {o : Owner} {put : MethodTable → Registry → Registry}
    {Waits : Registry → Prop} (pending : Pending o put Waits) (ms : List MethodDecl)
    (T : MethodTable) (waits : Waits R) (h : Tabulates (put T R) L) :
    Tabulates (put (ms.foldl (linkInto o) (T, R)).1 (ms.foldl (linkInto o) (T, R)).2)
      (ms.foldl (link o) L) := by
  -- the table so far and the registry so far both go on, and so does the ledger
  induction ms generalizing R L T with
  | nil => exact h
  | cons m rest ih =>
    obtain ⟨symbol, interned⟩ := h.intern m.name
    rw [pending.intern] at symbol interned
    have waiting := pending.waits m.name waits
    have placed := pending.place (m.toEntry (R.intern m.name).1 o) rfl waiting interned
    dsimp only at symbol
    rw [symbol] at placed
    have step : linkInto o (T, R) m =
      ((T.insert (m.toEntry (R.intern m.name).1 o)).2, (R.intern m.name).2) := rfl
    rw [List.foldl_cons, List.foldl_cons, step, symbol]
    exact ih _ waiting placed

theorem modify_push_size (xs : Array α) (a : α) (f : α → α) :
    (xs.push a).modify xs.size f = xs.push (f a) := by
  apply Array.ext_getElem?
  intro i
  rw [Array.getElem?_modify, Array.getElem?_push, Array.getElem?_push]
  by_cases last : i = xs.size
  · simp [last]
  · simp [last, Ne.symm last]

theorem pending_class (cls name : Symbol) (parent : Option Symbol) :
    Pending (.ofClass cls) (fun table R => R.insertClass { name, parent, table })
      (fun R => R.symbols[cls]? = some (.ofClass R.classes.size)) where
  intern T R x := intern_insertClass R _ x
  waits := by
    intro R x waits
    rw [intern_classes]
    exact intern_keeps R x waits
  place := by
    intro R L T e owner waits h
    -- the symbol points to the last record, and that is the one with the table
    have changed := h.modifyClass cls (f := fun c => { c with table := (c.table.insert e).2 })
    have put : (R.insertClass { name, parent, table := T }).modifyClass cls
        (fun c => { c with table := (c.table.insert e).2 }) =
        R.insertClass { name, parent, table := (T.insert e).2 } := by
      rw [Registry.modifyClass, Registry.insertClass]
      simp only [waits, modify_push_size]
      rfl
    rw [put] at changed
    rw [Ledger.place, owner]
    exact changed
  entityMap _ _ := rfl

theorem pending_module (mod name : Symbol) :
    Pending (.ofModule mod) (fun table R => R.insertModule { name, table })
      (fun R => R.symbols[mod]? = some (.ofModule R.modules.size)) where
  intern T R x := intern_insertModule R _ x
  waits := by
    intro R x waits
    rw [intern_modules]
    exact intern_keeps R x waits
  place := by
    intro R L T e owner waits h
    have changed := h.modifyModule mod (f := fun m => { m with table := (m.table.insert e).2 })
    have put : (R.insertModule { name, table := T }).modifyModule mod
        (fun m => { m with table := (m.table.insert e).2 }) =
        R.insertModule { name, table := (T.insert e).2 } := by
      rw [Registry.modifyModule, Registry.insertModule]
      simp only [waits, modify_push_size]
      rfl
    rw [put] at changed
    rw [Ledger.place, owner]
    exact changed
  entityMap _ _ := rfl

end Linking

namespace Represents

variable (h : Represents R L)
include h

theorem intern (x : String) :
    (R.intern x).1 = (L.intern x).1 ∧ Represents (R.intern x).2 (L.intern x).2 := by
  obtain ⟨symbol, interned⟩ := h.toTabulates.intern x
  refine ⟨symbol, interned, fun y => ?_⟩
  rw [h.named.entity?_intern, ← h.entities, Registry.entity?, intern_entityMap, Registry.entity?]

theorem modifyClass (s : Symbol) {f : ClassRecord → ClassRecord}
    (name : ∀ c, (f c).name = c.name := by intro; rfl)
    (parent : ∀ c, (f c).parent = c.parent := by intro; rfl) :
    Represents (R.modifyClass s f) (L.modifyClass s f) := by
  have alike := alike_modifyClass L s name parent
  refine ⟨h.toTabulates.modifyClass s name parent, fun y => ?_⟩
  rw [h.named.entity?_congr (h.named.of_alike alike) alike.titleAt?, ← h.entities]
  rw [Registry.modifyClass]
  split <;> rfl

theorem modifyModule (s : Symbol) {f : ModuleRecord → ModuleRecord}
    (name : ∀ m, (f m).name = m.name := by intro; rfl) :
    Represents (R.modifyModule s f) (L.modifyModule s f) := by
  have alike := alike_modifyModule L s name
  refine ⟨h.toTabulates.modifyModule s name, fun y => ?_⟩
  rw [h.named.entity?_congr (h.named.of_alike alike) alike.titleAt?, ← h.entities]
  rw [Registry.modifyModule]
  split <;> rfl

theorem vacant_eq (x : String) : R.vacant x = L.vacant x := by
  have found := h.entities x
  rw [Registry.entity?] at found
  rw [Registry.vacant, Ledger.vacant, Std.TreeMap.contains_eq_isSome_getElem?, found]
  cases L.entity? x <;> rfl

theorem parentOf_eq (x? : Option String) : R.parentOf x? = L.parentOf x? := by
  cases x? with
  | none => rfl
  | some x =>
    have found := h.entities x
    cases entity : L.entity? x with
    | none => simp only [Registry.parentOf, Ledger.parentOf, found, entity]
    | some p => simp only [Registry.parentOf, Ledger.parentOf, found, entity, h.isClass_eq]

end Represents

/-- Both have answered the same or been refused with the same fault, and what is left agrees. -/
inductive Agree : EStateM.Result Fault Registry α → EStateM.Result Fault Ledger α → Prop where
  | ok {R : Registry} {L : Ledger} (a : α) (h : Represents R L) : Agree (.ok a R) (.ok a L)
  | error {R : Registry} {L : Ledger} (f : Fault) (h : Represents R L) :
      Agree (.error f R) (.error f L)

def Refines (u : Update α) (v : InterfaceLedger.Update α) : Prop :=
  ∀ R L, Represents R L → Agree (u R) (v L)

theorem refines_pure (a : α) : Refines (pure a) (pure a) := fun _ _ h => .ok a h

theorem Refines.bind {u : Update α} {v : InterfaceLedger.Update α} {next : α → Update β}
    {next' : α → InterfaceLedger.Update β} (first : Refines u v)
    (rest : ∀ a, Refines (next a) (next' a)) : Refines (u >>= next) (v >>= next') := by
  intro R L h
  change Agree (EStateM.bind u next R) (EStateM.bind v next' L)
  have agree := first R L h
  rw [EStateM.bind, EStateM.bind]
  generalize u R = left at agree
  generalize v L = right at agree
  cases agree with
  | ok a h => exact rest a _ _ h
  | error f h => exact .error f h

theorem Refines.map {u : Update α} {v : InterfaceLedger.Update α} (f : α → β) (h : Refines u v) :
    Refines (f <$> u) (f <$> v) := by
  rw [map_eq_pure_bind, map_eq_pure_bind]
  exact h.bind fun a => refines_pure (f a)

theorem refines_ask {question : Registry → Except Fault α} {question' : Ledger → Except Fault α}
    (same : ∀ {R L}, Represents R L → question R = question' L) :
    Refines (ask question) (ask question') := by
  intro R L h
  rw [ask, ask, same h]
  cases question' L with
  | ok a => exact .ok a h
  | error f => exact .error f h

theorem refines_modify {f : Registry → Registry} {g : Ledger → Ledger}
    (keeps : ∀ {R L}, Represents R L → Represents (f R) (g L)) : Refines (modify f) (modify g) :=
  fun _ _ h => .ok () (keeps h)

theorem Refines.forM {step : Symbol → Update Unit} {step' : Symbol → InterfaceLedger.Update Unit}
    (one : ∀ s, Refines (step s) (step' s)) (l : List Symbol) :
    Refines (l.forM step) (l.forM step') := by
  induction l with
  | nil => exact refines_pure ()
  | cons s rest ih => exact (one s).bind fun _ => ih

theorem refines_updateClass (cls : Symbol) {f : ClassRecord → ClassRecord}
    (name : ∀ c, (f c).name = c.name := by intro; rfl)
    (parent : ∀ c, (f c).parent = c.parent := by intro; rfl) :
    Refines (updateClass cls f) (Ledger.updateClass cls f) := by
  refine (refines_ask fun h => h.classAt_eq cls).bind fun _ => ?_
  exact refines_modify fun h => h.modifyClass cls name parent

theorem refines_updateModule (mod : Symbol) {f : ModuleRecord → ModuleRecord}
    (name : ∀ m, (f m).name = m.name := by intro; rfl) :
    Refines (updateModule mod f) (Ledger.updateModule mod f) := by
  refine (refines_ask fun h => h.moduleAt_eq mod).bind fun _ => ?_
  exact refines_modify fun h => h.modifyModule mod name

theorem refines_intern (x : String) :
    Refines (modifyGet (Registry.intern · x)) (modifyGet (Ledger.intern · x)) := by
  intro R L h
  obtain ⟨symbol, interned⟩ := h.intern x
  change Agree (.ok (R.intern x).1 (R.intern x).2) (.ok (L.intern x).1 (L.intern x).2)
  rw [symbol]
  exact .ok _ interned

theorem refines_setHandler (cls : Symbol) (handler : Option Handler) :
    Refines (setHandler cls handler) (Ledger.setHandler cls handler) :=
  refines_updateClass cls

theorem refines_mark (mod : Symbol) : Refines (mark mod) (Ledger.mark mod) :=
  (refines_updateModule mod).bind fun _ => refines_pure mod

theorem refines_attach (cls mod : Symbol) : Refines (attach cls mod) (Ledger.attach cls mod) := by
  refine (refines_mark mod).bind fun _ => ?_
  refine (refines_ask fun h => by rw [h.row_eq]).bind fun owners => ?_
  split
  · exact refines_pure ()
  · exact refines_updateClass cls

theorem refines_declare (cls : Symbol) (mods : List Symbol) :
    Refines (declare cls mods) (Ledger.declare cls mods) := by
  refine (refines_ask fun h => h.classAt_eq cls).bind fun _ => ?_
  refine (Refines.forM (fun m => ?_) mods).bind fun _ => ?_
  · exact (refines_ask fun h => h.moduleAt_eq m).map _
  · exact Refines.forM (refines_attach cls) mods.reverse

theorem linkMethod_bind (o : Owner) (m : MethodDecl) (next : Entry → Update β) :
    (modifyGet (linkMethod o m) >>= next) =
      (modifyGet (Registry.intern · m.name) >>= fun name => next (m.toEntry name o)) := rfl

theorem refines_defineMethod (cls : Symbol) (m : MethodDecl) :
    Refines (defineMethod cls m) (Ledger.defineMethod cls m) := by
  refine (refines_ask fun h => h.classAt_eq cls).bind fun _ => ?_
  rw [linkMethod_bind]
  exact (refines_intern m.name).bind fun name => refines_updateClass cls

theorem refines_extendModule (mod : Symbol) (m : MethodDecl) :
    Refines (extendModule mod m) (Ledger.extendModule mod m) := by
  refine (refines_ask fun h => h.moduleAt_eq mod).bind fun r => ?_
  split
  · intro R L h
    change Agree (.error (.interfaceSealed (R.describe mod)) R)
      (.error (.interfaceSealed (L.describe mod)) L)
    rw [h.describe_eq]
    exact .error _ h
  · dsimp only
    rw [linkMethod_bind]
    exact (refines_intern m.name).bind fun name => refines_updateModule mod

theorem refines_removeMethod (cls : Symbol) (name : String) :
    Refines (removeMethod cls name) (Ledger.removeMethod cls name) := by
  intro R L h
  -- the registry looks for the name first and then for the class
  rw [Ledger.removeMethod_apply, removeMethod, get_bind, h.texts]
  cases L.textSymbol? name with
  | none =>
    dsimp only
    rw [ask_bind, h.classAt_eq]
    cases L.classAt cls with
    | error f => exact .error f h
    | ok c => exact .ok false h
  | some s =>
    dsimp only
    rw [ask_bind, h.classAt_eq]
    cases L.classAt cls with
    | error f => exact .error f h
    | ok c =>
      have same : (c.table.remove s).1.isSome = c.table.contains s := by
        rw [MethodTable.remove_fst, MethodTable.contains_eq, MethodTable.get?_eq]
      change Agree (.ok (c.table.remove s).1.isSome _) (.ok (c.table.contains s) _)
      rw [same]
      exact .ok _ (h.modifyClass cls)

theorem Represents.nameEntity (h : Represents R L) {R' : Registry} {M : Ledger}
    (linked : Tabulates R' M) (kept : R'.entityMap = R.entityMap)
    (entities : ∀ y, M.entity? y = if x = y then some s else L.entity? y) :
    Represents (R'.nameEntity x s) M where
  size := linked.size
  bindings := linked.bindings
  distinct := linked.distinct
  texts := linked.texts
  named := linked.named
  entities y := by
    rw [entities, ← h.entities, Registry.entity?, Registry.entity?, Registry.nameEntity,
      Std.TreeMap.getElem?_insert, kept]
    simp only [Std.LawfulEqCmp.compare_eq_iff_eq]

theorem Represents.linked (h : Represents R L) {o : Owner} {put : MethodTable → Registry → Registry}
    {Waits : Registry → Prop} (pending : Pending o put Waits) {R' : Registry} {b : Binding}
    {name : Symbol} (first : Tabulates (put ∅ R') (L.push b)) (waits : Waits R')
    (kept : R'.entityMap = R.entityMap) (unsealed : (L.push b).Open o)
    (title : b.nameSymbol? = some name) (text : L.textAt? name = some x) (ms : List MethodDecl) :
    let linked := linkMethods o ms R'
    Represents ((put linked.1 linked.2).nameEntity x R.symbols.size)
      (ms.foldl (link o) (L.push b)) := by
  have whole := pending.foldl ms ∅ waits first
  refine h.nameEntity whole ?_ fun y => ?_
  · rw [pending.entityMap, linkMethods, foldl_linkInto_entityMap]
    exact kept
  · rw [first.named.entity?_foldl_link unsealed, h.named.entity?_push first.named title text, h.size]

theorem Represents.newClass (h : Represents R L) {name : Symbol} {parent : Option Symbol}
    (text : L.textAt? name = some x) (named : (L.push (.ofClass { name, parent })).Named)
    (ms : List MethodDecl) :
    let cls := R.symbols.size
    let linked := linkMethods (.ofClass cls) ms (R.addSymbol (.ofClass R.classes.size)).2
    Represents ((linked.2.insertClass { name, parent, table := linked.1 }).nameEntity x cls)
      (ms.foldl (link (.ofClass cls)) (L.push (.ofClass { name, parent }))) := by
  have unsealed := open_push_class L { name, parent }
  rw [← h.size] at unsealed
  have first := h.toTabulates.insertClass named
  exact h.linked (pending_class _ name parent) first (by simp [addSymbol]) rfl unsealed rfl text ms

theorem Represents.newModule (h : Represents R L) {name : Symbol}
    (text : L.textAt? name = some x) (named : (L.push (.ofModule { name })).Named)
    (ms : List MethodDecl) :
    let mod := R.symbols.size
    let linked := linkMethods (.ofModule mod) ms (R.addSymbol (.ofModule R.modules.size)).2
    Represents ((linked.2.insertModule { name, table := linked.1 }).nameEntity x mod)
      (ms.foldl (link (.ofModule mod)) (L.push (.ofModule { name }))) := by
  have unsealed := open_push_module L (m := { name }) rfl
  rw [← h.size] at unsealed
  have first := h.toTabulates.insertModule named
  exact h.linked (pending_module _ name) first (by simp [addSymbol]) rfl unsealed rfl text ms

theorem refines_defineClass (d : ClassDecl) :
    Refines (defineClass d) (Ledger.defineClass d) := by
  intro R L h
  -- taken apart by hand, since the new record is only good because of what the checks have found
  rw [Ledger.defineClass_apply, defineClass, ask_bind, h.vacant_eq]
  cases vacancy : L.vacant d.name with
  | error f => exact .error f h
  | ok _ =>
    dsimp only
    rw [ask_bind, h.parentOf_eq]
    cases super : L.parentOf d.parent with
    | error f => exact .error f h
    | ok parent =>
      obtain ⟨name, interned⟩ := h.intern d.name
      have named := interned.named.edit (h.named.newClass_edit vacancy super)
      have text := textAt?_intern L d.name
      generalize L.intern d.name = pair at name interned named text
      obtain ⟨n, M⟩ := pair
      cases name
      dsimp only at interned named text ⊢
      rw [← interned.size]
      exact .ok _ (interned.newClass text named d.methods)

theorem refines_defineModule (d : ModuleDecl) :
    Refines (defineModule d) (Ledger.defineModule d) := by
  intro R L h
  rw [Ledger.defineModule_apply, defineModule, ask_bind, h.vacant_eq]
  cases vacancy : L.vacant d.name with
  | error f => exact .error f h
  | ok _ =>
    obtain ⟨name, interned⟩ := h.intern d.name
    have named := interned.named.edit (h.named.newModule_edit vacancy)
    have text := textAt?_intern L d.name
    generalize L.intern d.name = pair at name interned named text
    obtain ⟨n, M⟩ := pair
    cases name
    dsimp only at interned named text ⊢
    rw [← interned.size]
    exact .ok _ (interned.newModule text named d.methods)

theorem refines_run (op : Operation Symbol) : Refines (run op) op.run := by
  cases op with
  | intern x => exact (refines_intern x).map _
  | defineClass d => exact (refines_defineClass d).map _
  | defineModule d => exact (refines_defineModule d).map _
  | defineMethod c m => exact (refines_defineMethod c m).map _
  | removeMethod c x => exact (refines_removeMethod c x).map _
  | extendModule c m => exact (refines_extendModule c m).map _
  | mark c => exact (refines_mark c).map _
  | setHandler c h => exact (refines_setHandler c (some h)).map _
  | clearHandler c => exact (refines_setHandler c none).map _
  | declare c ms => exact (refines_declare c ms).map _

theorem Represents.answer (h : Represents R L) (q : Question Symbol) : R.answer q = q.run L := by
  cases q <;>
    simp only [Registry.answer, Question.run, h.texts, h.entities, h.nameOf?_eq, h.isClass_eq,
      h.isModule_eq, h.isInterface_eq, h.classAt_eq, h.moduleAt_eq, h.row_eq]

theorem Represents.instantiate (h : Represents R L) (cls : Symbol) :
    R.instantiate cls = L.instantiate cls := by
  rw [Registry.instantiate, h.classAt_eq, Ledger.instantiate]

theorem Represents.addSingleton (h : Represents R L) (o : Instance) (m : MethodDecl) :
    (R.addSingleton o m).1 = (L.addSingleton o m).1 ∧
      Represents (R.addSingleton o m).2 (L.addSingleton o m).2 := by
  obtain ⟨name, interned⟩ := h.intern m.name
  refine ⟨?_, interned⟩
  change Instance.mk _ (o.own.insert (m.toEntry (R.intern m.name).1 .singleton)).2 = _
  rw [name]
  rfl

theorem Represents.after (h : Represents R L) (e : Event) : Represents (R.after e) (L.after e) := by
  cases e with
  | operation op =>
    have agree := refines_run op R L h
    rw [Registry.after, Ledger.after]
    generalize run op R = left at agree
    generalize op.run L = right at agree
    cases agree with
    | ok _ h => exact h
    | error _ h => exact h
  | singleton o m => exact (h.addSingleton o m).2

/-- Whatever happens, the registry shows the ledger to which the same has happened. -/
theorem Represents.afterAll (h : Represents R L) (events : List Event) :
    Represents (R.afterAll events) (L.afterAll events) := by
  induction events generalizing R L with
  | nil => exact h
  | cons e rest ih => exact ih (h.after e)

theorem row_afterAll (events : List Event) :
    ((∅ : Registry).afterAll events).row = (∅ : Ledger).afterAll events :=
  (represents_empty.afterAll events).row_eq

/-- What holds of every reachable ledger holds of the row of every registry that has come about. -/
theorem reachable_row (events : List Event) : Reachable ((∅ : Registry).afterAll events).row := by
  rw [row_afterAll]
  exact Reachable.empty.afterAll events

end Registry

end InterfaceLedger
