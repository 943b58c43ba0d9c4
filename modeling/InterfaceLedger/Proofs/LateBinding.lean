import InterfaceLedger.Proofs.Interchange
import InterfaceLedger.Proofs.Resolution
import InterfaceLedger.Proofs.Untouched
import Mathlib

/-!
Late binding. A new class takes nothing from its superclass but the symbol. To define it looks at
texts, names and kinds, and writes to symbols that are new; what is declared on an older class, taken
out of it or set as its handler is a patch, which leaves texts, names and kinds alone and does nothing
to new symbols. So the one can always change places with the other, and a subclass finds a later
change of its superclass as if the superclass had always been like that.
-/
namespace InterfaceLedger

def Binding.rewritten (cls : Symbol) (g : ClassRecord → ClassRecord) : Rewrite
  | _, .text x => .text x
  | s, .ofClass c => .ofClass (if s = cls then g c else c)
  | _, .ofModule m => .ofModule m

theorem findIdx?_mapIdx {α : Type} {f : Nat → α → α} {p q : α → Bool}
    (same : ∀ i a, p (f i a) = q a) (l : List α) : (l.mapIdx f).findIdx? p = l.findIdx? q := by
  induction l generalizing f with
  | nil => rfl
  | cons a rest ih =>
    rw [List.mapIdx_cons, List.findIdx?_cons, List.findIdx?_cons, same, ih fun i => same (i + 1)]

namespace Ledger

variable {α β : Type} {L M : Ledger} {cls t : Symbol} {mods : List Symbol} {f : Rewrite} {n : Nat}
  {u : Update α}

/-- A rewrite that leaves texts, names and kinds alone, and all that is bound from `n` on. -/
structure Patch (n : Nat) (f : Rewrite) : Prop where
  text : ∀ s b, (f s b).text? = b.text?
  name : ∀ s b, (f s b).nameSymbol? = b.nameSymbol?
  kind : ∀ s b, (f s b).class?.isSome = b.class?.isSome
  later : ∀ {s}, n ≤ s → ∀ b, f s b = b

theorem patch_idle (n : Nat) : Patch n fun _ b => b where
  text _ _ := rfl
  name _ _ := rfl
  kind _ _ := rfl
  later _ _ := rfl

theorem patch_rewritten {n : Nat} {cls : Symbol} (old : cls < n) {g : ClassRecord → ClassRecord}
    (name : ∀ c, (g c).name = c.name := by intro; rfl) : Patch n (Binding.rewritten cls g) where
  text _ b := by cases b <;> rfl
  name s b := by
    cases b with
    | text => rfl
    | ofClass c =>
      rw [Binding.rewritten]
      split
      · exact congrArg some (name c)
      · rfl
    | ofModule => rfl
  kind _ b := by cases b <;> rfl
  later new b := by
    cases b with
    | text => rfl
    | ofClass c => rw [Binding.rewritten, if_neg (Nat.ne_of_gt (Nat.lt_of_lt_of_le old new))]
    | ofModule => rfl

theorem patch_declared {n : Nat} {cls : Symbol} {mods : List Symbol} (old : cls < n)
    (within : ∀ m ∈ mods, m < n) (news : List Symbol) :
    Patch n (Binding.declared cls mods news) where
  text _ b := by cases b <;> rfl
  name s b := by
    cases b with
    | text => rfl
    | ofClass c => exact congrArg some ((apply_ite ClassRecord.name _ _ _).trans (ite_self _))
    | ofModule m => exact congrArg some ((apply_ite ModuleRecord.name _ _ _).trans (ite_self _))
  kind _ b := by cases b <;> rfl
  later {s} new b := by
    cases b with
    | text => rfl
    | ofClass c => rw [Binding.declared, if_neg (Nat.ne_of_gt (Nat.lt_of_lt_of_le old new))]
    | ofModule m =>
      rw [Binding.declared, if_neg]
      intro listed
      exact Nat.lt_irrefl s (Nat.lt_of_lt_of_le (within s listed) new)

theorem size_le_push (L : Ledger) (b : Binding) : L.size ≤ (L.push b).size := by
  rw [size, push, size, List.length_append]
  exact Nat.le_add_right _ _

theorem size_le_intern (L : Ledger) (x : String) : L.size ≤ (L.intern x).2.size := by
  rw [intern]
  split
  · exact Nat.le_refl _
  · exact size_le_push L _

theorem size_place (L : Ledger) (e : Entry) : (L.place e).size = L.size := by
  rw [place]
  cases e.owner with
  | ofClass s => exact List.length_modify ..
  | ofModule s => exact List.length_modify ..
  | singleton => rfl

theorem size_le_link (o : Owner) (L : Ledger) (m : MethodDecl) : L.size ≤ (link o L m).size := by
  rw [link, size_place]
  exact size_le_intern L m.name

section Define

variable (h : Patch n f)
include h

theorem Patch.textAt?_amend (L : Ledger) : (L.amend f).textAt? = L.textAt? := by
  funext s
  rw [textAt?, textAt?, getElem?_amend]
  cases L.bindings[s]? with
  | none => rfl
  | some b => exact h.text s b

theorem Patch.textSymbol?_amend (L : Ledger) (x : String) :
    (L.amend f).textSymbol? x = L.textSymbol? x := by
  apply findIdx?_mapIdx
  intro s b
  rw [h.text]

theorem Patch.entity?_amend (L : Ledger) (x : String) : (L.amend f).entity? x = L.entity? x := by
  apply findIdx?_mapIdx
  intro s b
  rw [h.name, h.textAt?_amend]

theorem Patch.isClass_amend (L : Ledger) (s : Symbol) : (L.amend f).isClass s = L.isClass s := by
  rw [isClass_eq, isClass_eq, classAt?, classAt?, getElem?_amend]
  cases L.bindings[s]? with
  | none => rfl
  | some b => exact h.kind s b

theorem Patch.vacant_amend (L : Ledger) (x : String) : (L.amend f).vacant x = L.vacant x := by
  rw [vacant, vacant, h.entity?_amend]

theorem Patch.parentOf_amend (L : Ledger) (x? : Option String) :
    (L.amend f).parentOf x? = L.parentOf x? := by
  cases x? with
  | none => rfl
  | some x => simp only [parentOf, h.entity?_amend, h.isClass_amend]

theorem Patch.push_amend (within : n ≤ L.size) (b : Binding) :
    (L.amend f).push b = (L.push b).amend f := by
  have kept : f L.bindings.length b = b := h.later within b
  rw [amend, amend, push, push, List.mapIdx_concat, kept]

theorem Patch.intern_amend (within : n ≤ L.size) (x : String) :
    (L.amend f).intern x = ((L.intern x).1, (L.intern x).2.amend f) := by
  rw [intern, intern, h.textSymbol?_amend]
  cases L.textSymbol? x with
  | some s => rfl
  | none => rw [size_amend, h.push_amend within]

theorem Patch.place_amend (new : n ≤ t) (L : Ledger) {e : Entry} (owner : e.owner = .ofClass t) :
    (L.amend f).place e = (L.place e).amend f := by
  have idle : f t = id := funext (h.later new)
  apply ext_bindings
  intro s
  rw [getElem?_amend, place, place, owner]
  dsimp only
  rw [modifyClass, modifyClass, List.getElem?_modify, List.getElem?_modify, getElem?_amend]
  by_cases here : t = s
  · subst here
    rw [idle, Option.map_id]
    rfl
  · simp [here]

theorem Patch.link_amend (within : n ≤ L.size) (new : n ≤ t) (m : MethodDecl) :
    link (.ofClass t) (L.amend f) m = (link (.ofClass t) L m).amend f := by
  rw [link, link, h.intern_amend within]
  exact h.place_amend new _ rfl

theorem Patch.foldl_link_amend (within : n ≤ L.size) (new : n ≤ t) (ms : List MethodDecl) :
    ms.foldl (link (.ofClass t)) (L.amend f) = (ms.foldl (link (.ofClass t)) L).amend f := by
  induction ms generalizing L with
  | nil => rfl
  | cons m rest ih =>
    rw [List.foldl_cons, List.foldl_cons, h.link_amend within new]
    -- the row only gets longer, so what the patch is about stays within it
    exact ih (Nat.le_trans within (size_le_link _ L m))

theorem Patch.defineClass_amend (within : n ≤ L.size) (d : ClassDecl) :
    verdict (defineClass d (L.amend f)) = verdict (defineClass d L) ∧
      resulting (defineClass d (L.amend f)) = (resulting (defineClass d L)).amend f := by
  rw [defineClass_apply, defineClass_apply, h.vacant_amend, h.parentOf_amend,
    h.intern_amend within]
  cases L.vacant d.name with
  | error fault => exact ⟨rfl, rfl⟩
  | ok _ =>
    cases L.parentOf d.parent with
    | error fault => exact ⟨rfl, rfl⟩
    | ok parent =>
      have new : n ≤ (L.intern d.name).2.size := Nat.le_trans within (size_le_intern L d.name)
      have new' := Nat.le_trans new (size_le_push _ (.ofClass { name := (L.intern d.name).1, parent }))
      dsimp only
      rw [size_amend, h.push_amend new, h.foldl_link_amend new' new]
      exact ⟨rfl, rfl⟩

end Define

theorem verdict_map (g : α → β) (u : Update α) (L : Ledger) :
    verdict ((g <$> u) L) = g <$> verdict (u L) := by
  change verdict (EStateM.map g u L) = _
  rw [EStateM.map]
  cases u L <;> rfl

theorem SameEffect.map (effect : SameEffect u L M f) (g : α → β) : SameEffect (g <$> u) L M f where
  here := (resulting_map g u L).trans effect.here
  there := (resulting_map g u M).trans effect.there
  verdict := by rw [verdict_map, verdict_map, effect.verdict]

theorem Patch.interchange (h : Patch L.size f) {d : ClassDecl}
    (effect : SameEffect u L (resulting (defineClass d L)) f) :
    Interchange L u (Operation.run (.defineClass d)) where
  first := by
    rw [Operation.run, resulting_map]
    exact effect.verdict
  second := by
    rw [Operation.run, verdict_map, verdict_map, effect.here,
      (h.defineClass_amend (Nat.le_refl _) d).1]
  final := by
    rw [Operation.run, resulting_map, resulting_map, effect.here, effect.there,
      (h.defineClass_amend (Nat.le_refl _) d).2]

theorem modifyClass_eq_amend (L : Ledger) (cls : Symbol) (g : ClassRecord → ClassRecord) :
    L.modifyClass cls g = L.amend (Binding.rewritten cls g) := by
  apply ext_bindings
  intro s
  rw [modifyClass, List.getElem?_modify, getElem?_amend]
  by_cases here : s = cls
  · rcases L.bindings[s]? with _ | (_ | _ | _) <;> simp [here, Binding.rewritten]
  · have other : cls ≠ s := fun same => here same.symm
    rcases L.bindings[s]? with _ | (_ | _ | _) <;> simp [here, other, Binding.rewritten]

theorem sameEffect_of_modifyClass {a : α} {g : ClassRecord → ClassRecord}
    (here : u L = .ok a (L.modifyClass cls g)) (there : u M = .ok a (M.modifyClass cls g)) :
    SameEffect u L M (Binding.rewritten cls g) := by
  rw [modifyClass_eq_amend] at here there
  exact sameEffect_of_ok here there

theorem sameEffect_setHandler {c : ClassRecord} (found : L.classAt? cls = some c)
    (found' : M.classAt? cls = some c) (h : Option Handler) :
    SameEffect (setHandler cls h) L M (Binding.rewritten cls fun c => { c with handler := h }) := by
  apply sameEffect_of_modifyClass (a := ())
  · rw [setHandler_apply, classAt_eq_ok_iff.2 found]
  · rw [setHandler_apply, classAt_eq_ok_iff.2 found']

theorem Sound.exists_patch_removeMethod (h : L.Sound) (edits : Edits L M) {c : ClassRecord}
    (found : L.classAt? cls = some c) (found' : M.classAt? cls = some c) (name : String) :
    ∃ f, Patch L.size f ∧ SameEffect (removeMethod cls name) L M f := by
  have here := h.removeMethod_eq found name
  have there := (h.edits edits).removeMethod_eq found' name
  -- the names of its methods are texts already, and they stay what they are
  have same : c.table.toList.find? (M.isNamed name) = c.table.toList.find? (L.isNamed name) := by
    have spelled := h.spelled_table (.ofClass cls)
    rw [tableOf_of_class found] at spelled
    exact spelled.find?_isNamed_eq edits.keeps_text name
  rw [same] at there
  cases own : c.table.toList.find? (L.isNamed name) with
  | none =>
    rw [own] at here there
    refine ⟨_, patch_idle L.size, sameEffect_of_ok (a := false) ?_ ?_⟩
    · rw [amend_none, here]
    · rw [amend_none, there]
  | some e =>
    rw [own] at here there
    have old := lt_size_of_isClass (isClass_iff.2 ⟨c, found⟩)
    exact ⟨_, patch_rewritten old, sameEffect_of_modifyClass here there⟩

/-- The operations on a class, other than to define a method, with symbols that are given out. -/
inductive LateBound (L : Ledger) (cls : Symbol) : Operation Symbol → Prop where
  | declare {mods : List Symbol} (bound : ∀ m ∈ mods, m < L.size) :
      LateBound L cls (.declare cls mods)
  | removeMethod (name : String) : LateBound L cls (.removeMethod cls name)
  | setHandler (h : Handler) : LateBound L cls (.setHandler cls h)
  | clearHandler : LateBound L cls (.clearHandler cls)

theorem Named.exists_patch_declare (h : L.Named) (isClass : L.isClass cls = true)
    (bound : ∀ m ∈ mods, m < L.size) (d : ClassDecl) :
    ∃ f, Patch L.size f ∧ SameEffect (declare cls mods) L (resulting (defineClass d L)) f := by
  have edits := h.defineClass_edits d
  have walk := h.ancestors_of_kept edits isClass fun _ found => defineClass_keeps_class d found
  obtain ⟨f, effect, kind⟩ := h.exists_effect_declare edits isClass (fun m mem _ => bound m mem) walk
  refine ⟨f, ?_, effect⟩
  cases kind with
  | refused => exact patch_idle L.size
  | done news modules => exact patch_declared (lt_size_of_isClass isClass) bound news

theorem Sound.exists_patch (h : L.Sound) (isClass : L.isClass cls = true) {op : Operation Symbol}
    (late : LateBound L cls op) (d : ClassDecl) :
    ∃ f, Patch L.size f ∧ SameEffect op.run L (resulting (defineClass d L)) f := by
  obtain ⟨c, found⟩ := isClass_iff.1 isClass
  have found' := defineClass_keeps_class d found
  have old := lt_size_of_isClass isClass
  cases late with
  | declare bound =>
    obtain ⟨f, patch, effect⟩ := h.named.exists_patch_declare isClass bound d
    exact ⟨f, patch, effect.map _⟩
  | removeMethod name =>
    have edits := h.named.defineClass_edits d
    obtain ⟨f, patch, effect⟩ := h.exists_patch_removeMethod edits found found' name
    exact ⟨f, patch, effect.map _⟩
  | setHandler handler =>
    have effect := sameEffect_setHandler found found' (some handler)
    exact ⟨_, patch_rewritten old, effect.map _⟩
  | clearHandler =>
    have effect := sameEffect_setHandler found found' none
    exact ⟨_, patch_rewritten old, effect.map _⟩

/-- A class may be defined before or after something is done to another one, be that its superclass
    or not: both are answered alike either way, and the ledger that is left is the same. -/
theorem subclassing_is_late_bound {L : Ledger} {cls : Symbol} (h : Reachable L)
    (isClass : L.isClass cls = true) {op : Operation Symbol} (late : LateBound L cls op)
    (d : ClassDecl) : Interchange L op.run (Operation.run (.defineClass d)) := by
  obtain ⟨f, patch, effect⟩ := h.sound.exists_patch isClass late d
  exact patch.interchange effect

def toaster : ClassDecl :=
  { name := "Toaster", parent := some "Device", methods := [{ name := "off" }, { name := "pop" }] }

theorem subclassing_is_late_bound_toaster :
    Reachable stockedHousehold ∧ stockedHousehold.isClass 9 = true ∧
      LateBound stockedHousehold 9 (.declare 9 [16, 6]) ∧
      LateBound stockedHousehold 9 (.removeMethod 9 "pop") ∧
      Interchange stockedHousehold (Operation.run (.declare 9 [16, 6]))
        (Operation.run (.defineClass toaster)) ∧
      Interchange stockedHousehold (Operation.run (.removeMethod 9 "pop"))
        (Operation.run (.defineClass toaster)) ∧
      (resulting (Operation.run (.declare 9 [16, 6])
        (resulting (Operation.run (.defineClass toaster) stockedHousehold)))).ancestors 19 =
          .ok [.ofClass 19, .ofClass 9, .ofModule 16, .ofModule 1, .ofModule 6] := by
  have isClass : stockedHousehold.isClass 9 = true := by cbv
  have size : stockedHousehold.size = 18 := by cbv
  have bound : LateBound stockedHousehold 9 (.declare 9 [16, 6]) := by
    apply LateBound.declare
    rw [size]
    decide
  have removal : LateBound stockedHousehold 9 (.removeMethod 9 "pop") := .removeMethod "pop"
  exact ⟨reachable_stockedHousehold, isClass, bound, removal,
    subclassing_is_late_bound reachable_stockedHousehold isClass bound toaster,
    subclassing_is_late_bound reachable_stockedHousehold isClass removal toaster, by cbv⟩

end Ledger

end InterfaceLedger
