import InterfaceLedger.Proofs.Lookup
import InterfaceLedger.Proofs.Refusals

/-!
Where entries come from. Beside a ledger goes a catalogue of the declarations that are in force: for
each owner and each name the one that was written down last, unless it has been taken out since. Every
event keeps the two together, so an entry is its declaration with symbols in it, and nothing else.
-/
namespace InterfaceLedger

namespace MethodTable

variable {t : MethodTable} {e x : Entry} {s : Symbol}

theorem mem_insert_iff :
    x ∈ (t.insert e).2.toList ↔ if x.name = e.name then x = e else x ∈ t.toList := by
  have put := t.toList_insert e
  split
  · rename_i same
    constructor
    · intro mem
      have self : e ∈ (t.insert e).2.toList := put ▸ Row.mem_put_self e t.toList
      have here := get?_eq_some_iff.2 ⟨mem, same⟩
      have again := get?_eq_some_iff.2 ⟨self, rfl⟩
      exact Option.some.inj (here.symm.trans again)
    · rintro rfl
      exact put ▸ Row.mem_put_self x t.toList
  · rename_i other
    rw [put, Row.mem_put_iff_of_ne other]

theorem mem_remove_iff : x ∈ (t.remove s).2.toList ↔ x.name ≠ s ∧ x ∈ t.toList := by
  rw [toList_remove]
  constructor
  · intro mem
    exact ⟨Row.name_ne_of_mem_drop t.names_nodup mem, Row.mem_of_mem_drop mem⟩
  · rintro ⟨other, mem⟩
    exact (Row.mem_drop_iff_of_ne other).2 mem

end MethodTable

/-- The declaration that is in force for an owner and a name. -/
abbrev Catalogue := Owner → String → Option MethodDecl

namespace Catalogue

def blank : Catalogue := fun _ _ => none

def enter (o : Owner) (C : Catalogue) (m : MethodDecl) : Catalogue :=
  fun p x => if p = o ∧ x = m.name then some m else C p x

def strike (C : Catalogue) (o : Owner) (name : String) : Catalogue :=
  fun p x => if p = o ∧ x = name then none else C p x

def note (C : Catalogue) : Operation Symbol → Answer → Catalogue
  | .defineClass d, .symbol s => d.methods.foldl (enter (.ofClass s)) C
  | .defineModule d, .symbol s => d.methods.foldl (enter (.ofModule s)) C
  | .defineMethod cls m, _ => C.enter (.ofClass cls) m
  | .extendModule mod m, _ => C.enter (.ofModule mod) m
  | .removeMethod cls x, _ => C.strike (.ofClass cls) x
  | _, _ => C

def after (C : Catalogue) (L : Ledger) : Event → Catalogue
  | .singleton _ _ => C
  | .operation op =>
    match op.run L with
    | .ok answer _ => C.note op answer
    | .error _ _ => C

def afterAll (C : Catalogue) (L : Ledger) : List Event → Catalogue
  | [] => C
  | e :: rest => (C.after L e).afterAll (L.after e) rest

end Catalogue

namespace Ledger

variable {α : Type} {L M : Ledger} {C : Catalogue} {o : Owner} {s cls : Symbol} {name : String}

/-- Each entry is a declaration that is in force, and each of these has its entry. -/
structure Records (L : Ledger) (C : Catalogue) : Prop where
  declared : ∀ {o e}, e ∈ (L.tableOf o).toList →
    ∃ x m, L.textAt? e.name = some x ∧ C o x = some m ∧ e = m.toEntry e.name o
  entered : ∀ {o x m}, C o x = some m →
    ∃ s, L.textAt? s = some x ∧ m.toEntry s o ∈ (L.tableOf o).toList

theorem records_blank : Records ∅ .blank where
  declared {o e} mem := by cases o <;> cases mem
  entered found := by cases found

theorem Records.of_same (h : Records L C) (tables : ∀ o, M.tableOf o = L.tableOf o)
    (texts : ∀ {t x}, L.textAt? t = some x → M.textAt? t = some x) : Records M C where
  declared mem := by
    rw [tables] at mem
    obtain ⟨x, m, text, found, same⟩ := h.declared mem
    exact ⟨x, m, texts text, found, same⟩
  entered found := by
    obtain ⟨s, text, mem⟩ := h.entered found
    exact ⟨s, texts text, by rwa [tables]⟩

theorem Records.intern (h : Records L C) (x : String) : Records (L.intern x).2 C :=
  h.of_same (tableOf_intern L x) (intern_edits L x).keeps_text

theorem Records.push (h : Records L C) {b : Binding} (bare : b.table = ∅) : Records (L.push b) C :=
  h.of_same (tableOf_push bare L) (textAt?_push_of_some b)

theorem Records.modifyClass (h : Records L C) {f : ClassRecord → ClassRecord}
    (keeps : ∀ c, (f c).table = c.table) (cls : Symbol) : Records (L.modifyClass cls f) C :=
  h.of_same (tableOf_modifyClass_of_keeps keeps L cls) fun text => (textAt?_modifyClass ..).trans text

theorem Records.modifyModule (h : Records L C) {f : ModuleRecord → ModuleRecord}
    (keeps : ∀ m, (f m).table = m.table) (mod : Symbol) : Records (L.modifyModule mod f) C :=
  h.of_same (tableOf_modifyModule_of_keeps keeps L mod) fun text =>
    (textAt?_modifyModule ..).trans text

theorem mem_place_iff {e x : Entry} (unsealed : L.Open e.owner) :
    x ∈ ((L.place e).tableOf o).toList ↔
      if o = e.owner ∧ x.name = e.name then x = e else x ∈ (L.tableOf o).toList := by
  rw [tableOf_place unsealed]
  by_cases here : o = e.owner
  · simp only [here, MethodTable.mem_insert_iff, if_true, true_and]
  · simp only [here, if_false, false_and]

theorem mem_removed_iff {x : Entry} :
    x ∈ ((L.modifyClass cls fun c => { c with table := (c.table.remove s).2 }).tableOf o).toList ↔
      ¬ (o = .ofClass cls ∧ x.name = s) ∧ x ∈ (L.tableOf o).toList := by
  rw [tableOf_remove]
  by_cases here : o = .ofClass cls
  · simp only [here, MethodTable.mem_remove_iff, if_true, true_and, ne_eq]
  · simp only [here, if_false, false_and, not_false_eq_true, true_and]

theorem Records.place (h : Records L C) (sound : L.Sound) (unsealed : L.Open o) {m : MethodDecl}
    (text : L.textAt? s = some m.name) : Records (L.place (m.toEntry s o)) (C.enter o m) := by
  have texts : ∀ t, (L.place (m.toEntry s o)).textAt? t = L.textAt? t := (alike_place L _).text
  have table : ∀ {p e}, e ∈ ((L.place (m.toEntry s o)).tableOf p).toList ↔
      if p = o ∧ e.name = s then e = m.toEntry s o else e ∈ (L.tableOf p).toList :=
    mem_place_iff unsealed
  constructor
  · intro p e mem
    rw [table] at mem
    rw [texts]
    split at mem
    · rename_i here
      obtain ⟨rfl, -⟩ := here
      subst mem
      exact ⟨m.name, m, text, if_pos ⟨rfl, rfl⟩, rfl⟩
    · rename_i elsewhere
      obtain ⟨x, d, text', found, same⟩ := h.declared mem
      refine ⟨x, d, text', (if_neg ?_).trans found, same⟩
      -- one text has one symbol, so another symbol is another name
      rintro ⟨here, rfl⟩
      exact elsewhere ⟨here, sound.named.texts text' text⟩
  · intro p x d found
    simp only [texts, table]
    rw [Catalogue.enter] at found
    split at found
    · rename_i here
      obtain ⟨rfl, rfl⟩ := here
      cases found
      refine ⟨s, text, ?_⟩
      rw [if_pos ⟨rfl, rfl⟩]
    · rename_i elsewhere
      obtain ⟨t, text', mem⟩ := h.entered found
      refine ⟨t, text', ?_⟩
      rw [if_neg]
      · exact mem
      · rintro ⟨here, rfl⟩
        exact elsewhere ⟨here, Option.some.inj (text'.symm.trans text)⟩

theorem Records.remove (h : Records L C) (sound : L.Sound) (text : L.textAt? s = some name) :
    Records (L.modifyClass cls fun c => { c with table := (c.table.remove s).2 })
      (C.strike (.ofClass cls) name) := by
  have texts := fun t => textAt?_modifyClass L cls t fun c => { c with table := (c.table.remove s).2 }
  constructor
  · intro p e mem
    rw [mem_removed_iff] at mem
    obtain ⟨elsewhere, mem⟩ := mem
    obtain ⟨x, d, text', found, same⟩ := h.declared mem
    refine ⟨x, d, (texts _).trans text', (if_neg ?_).trans found, same⟩
    rintro ⟨here, rfl⟩
    exact elsewhere ⟨here, sound.named.texts text' text⟩
  · intro p x d found
    rw [Catalogue.strike] at found
    split at found
    · cases found
    · rename_i elsewhere
      obtain ⟨t, text', mem⟩ := h.entered found
      refine ⟨t, (texts t).trans text', mem_removed_iff.2 ⟨?_, mem⟩⟩
      rintro ⟨here, rfl⟩
      exact elsewhere ⟨here, Option.some.inj (text'.symm.trans text)⟩

theorem Records.strike_fresh (h : Records L C) (fresh : L.textSymbol? name = none) (o : Owner) :
    C.strike o name = C := by
  funext p x
  rw [Catalogue.strike]
  split
  · rename_i here
    cases found : C p x with
    | none => rfl
    | some m =>
      obtain ⟨s, text, -⟩ := h.entered found
      exact absurd (here.2 ▸ text) (textSymbol?_eq_none_iff.1 fresh s)
  · rfl

theorem Records.link (h : Records L C) (sound : L.Sound) (unsealed : L.Open o) (m : MethodDecl) :
    Records (link o L m) (C.enter o m) :=
  (h.intern m.name).place (sound.edits (intern_edits L m.name)) (unsealed.intern m.name)
    (textAt?_intern L m.name)

theorem Records.foldl_link (h : Records L C) (sound : L.Sound) (unsealed : L.Open o)
    (ms : List MethodDecl) : Records (ms.foldl (Ledger.link o) L) (ms.foldl (.enter o) C) := by
  induction ms generalizing L C with
  | nil => exact h
  | cons m rest ih =>
    obtain ⟨edits, still⟩ := link_edits unsealed m
    exact ih (h.link sound unsealed m) (sound.edits edits) still

theorem Records.defineClass (h : Records L C) (sound : L.Sound) {d : ClassDecl}
    (done : defineClass d L = .ok s M) : Records M (d.methods.foldl (.enter (.ofClass s)) C) := by
  obtain ⟨parent, vacancy, super, rfl, rfl⟩ := exists_of_defineClass done
  have edits := (intern_edits L d.name).tail (sound.named.newClass_edit vacancy super)
  exact ((h.intern d.name).push rfl).foldl_link (sound.edits edits) (open_push_class _ _) d.methods

theorem Records.defineModule (h : Records L C) (sound : L.Sound) {d : ModuleDecl}
    (done : defineModule d L = .ok s M) : Records M (d.methods.foldl (.enter (.ofModule s)) C) := by
  obtain ⟨vacancy, rfl, rfl⟩ := exists_of_defineModule done
  have edits := (intern_edits L d.name).tail (sound.named.newModule_edit vacancy)
  exact ((h.intern d.name).push rfl).foldl_link (sound.edits edits) (open_push_module _ rfl) d.methods

theorem Records.defineMethod (h : Records L C) (sound : L.Sound) {m : MethodDecl} {u : Unit}
    (done : defineMethod cls m L = .ok u M) : Records M (C.enter (.ofClass cls) m) := by
  rw [defineMethod_apply] at done
  split at done
  · rename_i c found
    cases done
    exact h.link (o := .ofClass cls) sound ⟨c, classAt_eq_ok_iff.1 found⟩ m
  · cases done

theorem Records.extendModule (h : Records L C) (sound : L.Sound) {mod : Symbol} {m : MethodDecl}
    {u : Unit} (done : extendModule mod m L = .ok u M) : Records M (C.enter (.ofModule mod) m) := by
  rw [extendModule_apply] at done
  split at done
  · rename_i r found
    split at done
    · cases done
    · rename_i plain
      cases done
      exact h.link sound (open_of_plain found plain) m
  · cases done

theorem Records.removeMethod (h : Records L C) (sound : L.Sound) {had : Bool}
    (done : removeMethod cls name L = .ok had M) : Records M (C.strike (.ofClass cls) name) := by
  rw [removeMethod_apply] at done
  split at done
  · rename_i text
    cases done
    exact h.remove sound (textAt?_of_textSymbol? text)
  · rename_i fresh
    cases done
    rwa [h.strike_fresh fresh]
  · cases done

theorem Records.mark (h : Records L C) (mod : Symbol) : Records (resulting (mark mod L)) C := by
  rw [mark_apply]
  split
  · exact h.modifyModule (by intro; rfl) mod
  · exact h

theorem Records.setHandler (h : Records L C) (cls : Symbol) (handler : Option Handler) :
    Records (resulting (setHandler cls handler L)) C := by
  rw [setHandler_apply]
  split
  · exact h.modifyClass (by intro; rfl) cls
  · exact h

theorem Records.attach (h : Records L C) (cls mod : Symbol) :
    Records (resulting (attach cls mod L)) C := by
  rw [attach_apply]
  split
  · have marked := h.modifyModule (f := fun m => { m with role := .interface }) (by intro; rfl) mod
    dsimp only
    split
    · split
      · exact marked
      · exact marked.modifyClass (by intro; rfl) cls
    · exact marked
  · exact h

theorem Records.declare (h : Records L C) (cls : Symbol) (mods : List Symbol) :
    Records (resulting (declare cls mods L)) C := by
  rw [declare_apply]
  split
  · exact forM_keep (P := fun N => Records N C) (fun _ m records => records.attach cls m) h _
  · exact h
  · exact h

theorem Records.after_run (h : Records L C) {op : Operation Symbol} {u : Update α} {g : α → Answer}
    (run : op.run = g <$> u) (done : ∀ {a M}, u L = .ok a M → Records M (C.note op (g a)))
    (refused : ∀ {f M}, u L = .error f M → M = L) :
    Records (L.after (.operation op)) (C.after L (.operation op)) := by
  have map : op.run L = EStateM.map g u L := by rw [run]; rfl
  rw [Ledger.after, Catalogue.after, map, EStateM.map]
  cases result : u L with
  | ok a M => exact done result
  | error f M =>
    rw [refused result]
    exact h

theorem Records.after_left {op : Operation Symbol} {u : Update α} {g : α → Answer}
    (run : op.run = g <$> u) (silent : ∀ a, C.note op a = C) (kept : Records (resulting (u L)) C) :
    Records (L.after (.operation op)) (C.after L (.operation op)) := by
  have same : C.after L (.operation op) = C := by
    rw [Catalogue.after]
    split
    · exact silent _
    · rfl
  rwa [after_eq_resulting, run, resulting_map, same]

theorem Records.after (h : Records L C) (sound : L.Sound) (e : Event) :
    Records (L.after e) (C.after L e) := by
  cases e with
  | singleton o m => exact h.intern m.name
  | operation op =>
    cases op with
    | intern x => exact h.intern x
    | defineClass d => exact h.after_run rfl (h.defineClass sound) defineClass_refused
    | defineModule d => exact h.after_run rfl (h.defineModule sound) defineModule_refused
    | defineMethod cls m => exact h.after_run rfl (h.defineMethod sound) defineMethod_refused
    | removeMethod cls x => exact h.after_run rfl (h.removeMethod sound) removeMethod_refused
    | extendModule mod m => exact h.after_run rfl (h.extendModule sound) extendModule_refused
    | mark mod => exact .after_left rfl (fun _ => rfl) (h.mark mod)
    | setHandler cls g => exact .after_left rfl (fun _ => rfl) (h.setHandler cls (some g))
    | clearHandler cls => exact .after_left rfl (fun _ => rfl) (h.setHandler cls none)
    | declare cls mods => exact .after_left rfl (fun _ => rfl) (h.declare cls mods)

theorem Records.afterAll (h : Records L C) (reachable : Reachable L) (events : List Event) :
    Records (L.afterAll events) (C.afterAll L events) := by
  induction events generalizing L C with
  | nil => exact h
  | cons e rest ih => exact ih (h.after reachable.sound e) (reachable.step e)

end Ledger

def Catalogue.of (events : List Event) : Catalogue := blank.afterAll ∅ events

theorem records_of_events (events : List Event) :
    ((∅ : Ledger).afterAll events).Records (.of events) :=
  Ledger.records_blank.afterAll .empty events

/-- The instance was made in some ledger, and `G` says which singleton methods it has been given
    since, by the symbols that their names had in the ledgers on which that was done. -/
inductive Given : Instance → (Symbol → Option MethodDecl) → Prop where
  | made (cls : Symbol) : Given { cls } fun _ => none
  | more {o : Instance} {G : Symbol → Option MethodDecl} (M : Ledger) (m : MethodDecl) :
      Given o G → Given (M.addSingleton o m).1 fun s =>
        if s = (M.intern m.name).1 then some m else G s

theorem Given.own {o : Instance} {G : Symbol → Option MethodDecl} (h : Given o G) :
    ∀ e, e ∈ o.own.toList ↔ ∃ m, G e.name = some m ∧ e = m.toEntry e.name .singleton := by
  induction h with
  | made cls =>
    have bare : ∀ e, e ∉ (∅ : MethodTable).toList := fun e mem => by cases mem
    simp [bare]
  | @more o G M m _ ih =>
    intro e
    have added : (M.addSingleton o m).1.own =
        (o.own.insert (m.toEntry (M.intern m.name).1 .singleton)).2 := rfl
    rw [added, MethodTable.mem_insert_iff]
    generalize (M.intern m.name).1 = s
    have named : (m.toEntry s .singleton).name = s := rfl
    by_cases here : e.name = s
    · simp [here, named]
    · simp [here, named, ih]

namespace Ledger

/-- The declaration that a call of `name` comes down to, and whose it is: the instance's own, or that
    of the first ancestor for which there is one. -/
inductive InForce (C : Catalogue) (G : Symbol → Option MethodDecl) (owners : List Owner)
    (name : String) (s : Symbol) : Owner → MethodDecl → Prop where
  | own {m : MethodDecl} (given : G s = some m) : InForce C G owners name s .singleton m
  | shared {o : Owner} {m : MethodDecl} (bare : G s = none)
      (first : owners.find? (fun p => (C p name).isSome) = some o) (declared : C o name = some m) :
      InForce C G owners name s o m

theorem Records.holds_eq (h : Records L C) (name : String) (o : Owner) :
    L.holds name o = (C o name).isSome := by
  rw [Bool.eq_iff_iff, holds, List.any_eq_true, Option.isSome_iff_exists]
  constructor
  · rintro ⟨e, mem, named⟩
    obtain ⟨x, m, text, found, -⟩ := h.declared mem
    rw [nameOf?_of_text text, beq_iff_eq, Option.some.injEq] at named
    exact ⟨m, named ▸ found⟩
  · rintro ⟨m, found⟩
    obtain ⟨s, text, mem⟩ := h.entered found
    have named : L.nameOf? (m.toEntry s o).name = some name := nameOf?_of_text text
    exact ⟨_, mem, beq_iff_eq.2 named⟩

theorem Records.resolve_eq_some (h : Records L C) (sound : L.Sound) {i : Instance}
    {G : Symbol → Option MethodDecl} (given : Given i G) {owners : List Owner}
    (walk : L.ancestors i.cls = .ok owners) {e : Entry} (found : L.resolve i name = .ok (some e)) :
    ∃ s m, L.textAt? s = some name ∧ InForce C G owners name s e.owner m ∧
      e = m.toEntry s e.owner := by
  have rows := given.own
  rw [resolve, sound.lookupName_eq walk, Except.ok.injEq, Option.bind_eq_some_iff] at found
  obtain ⟨s, text, found⟩ := found
  have text := textAt?_of_textSymbol? text
  cases own : i.own.get? s with
  | some e' =>
    rw [own, Option.some_or] at found
    cases found
    obtain ⟨mem, rfl⟩ := MethodTable.get?_eq_some_iff.1 own
    obtain ⟨m, given, same⟩ := (rows e).1 mem
    have owner : e.owner = .singleton := by rw [same]; rfl
    rw [owner]
    exact ⟨e.name, m, text, .own given, same⟩
  | none =>
    rw [own, Option.none_or] at found
    obtain ⟨first, entry⟩ := (sound.hit_eq_some_iff text).1 found
    obtain ⟨mem, rfl⟩ := MethodTable.get?_eq_some_iff.1 entry
    obtain ⟨x, m, text', declared, same⟩ := h.declared mem
    cases text.symm.trans text'
    have bare : G e.name = none := by
      cases given : G e.name with
      | none => rfl
      | some d =>
        have mem' := (rows (d.toEntry e.name .singleton)).2 ⟨d, given, rfl⟩
        have there := MethodTable.get?_eq_some_iff.2 ⟨mem', rfl⟩
        cases own.symm.trans there
    refine ⟨e.name, m, text, .shared bare ?_ declared, same⟩
    rw [holder?] at first
    rw [← first]
    exact congrArg (owners.find? ·) (funext fun p => (h.holds_eq name p).symm)

end Ledger

end InterfaceLedger
