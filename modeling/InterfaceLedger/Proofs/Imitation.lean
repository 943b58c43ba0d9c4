import InterfaceLedger.Proofs.Calls
import InterfaceLedger.Proofs.Gaps
import InterfaceLedger.Proofs.Resolution
import Mathlib

/-!
Subclasses that add nothing. A class without methods, modules and a handler of its own is one owner
more in front of the search, with nothing in its table; the search passes by it, and the handler is
looked for above it. So the class answers as its superclass does, and its instances as those of the
superclass that have the same methods of their own. Only a fault that names the class tells them apart.
-/
namespace InterfaceLedger

/-- A class of superclass `p` with nothing of its own. -/
structure ClassRecord.Plain (c : ClassRecord) (p : Symbol) : Prop where
  super : c.parent = some p
  table : c.table.isEmpty = true
  includes : c.includes = []
  handler : c.handler = none

theorem MethodTable.get?_of_isEmpty {t : MethodTable} (empty : t.isEmpty = true) (s : Symbol) :
    t.get? s = none := by
  have none : t.toList = [] := by simpa [isEmpty, toList] using empty
  rw [get?_eq, none]
  rfl

/-- Two ends of a call of `method`, on an instance of one class and on an instance of another, that
    differ at most in the class that a fault names. -/
inductive EndsAlike (cls super method : String) :
    Except Fault Value → Except Fault Value → Prop where
  | value (v : Value) : EndsAlike cls super method (.ok v) (.ok v)
  | misfit {f : Fault} (mismatch : f.isMismatch = true) :
      EndsAlike cls super method (.error f) (.error f)
  | noMethod : EndsAlike cls super method
      (.error (.noMethod cls method)) (.error (.noMethod super method))
  | privateMethod : EndsAlike cls super method
      (.error (.privateMethod cls method)) (.error (.privateMethod super method))

section EndsAlike

variable {cls super method x y : String} {r : Except Fault Value}

theorem EndsAlike.eq_noMethod (h : EndsAlike cls super method r (.error (.noMethod x y))) :
    r = .error (.noMethod cls method) := by
  cases h with
  | misfit mismatch => cases mismatch
  | noMethod => rfl

theorem EndsAlike.eq_privateMethod
    (h : EndsAlike cls super method r (.error (.privateMethod x y))) :
    r = .error (.privateMethod cls method) := by
  cases h with
  | misfit mismatch => cases mismatch
  | privateMethod => rfl

end EndsAlike

namespace Ledger

variable {L : Ledger} {cls p face s : Symbol} {c : ClassRecord} {o i : Instance}
  {owners owners' : List Owner} {own own' : MethodTable} {handler : Option Handler}
  {name title super : String} {args : List Value} {inside : Bool}

theorem hit_cons_of_missed {first : Owner} (missed : (L.tableOf first).get? s = none) :
    L.hit (first :: owners) s = L.hit owners s := by
  rw [hit, hit, List.findSome?_cons, missed]

theorem interfacesAmong_cons_ofClass :
    L.interfacesAmong (.ofClass s :: owners) = L.interfacesAmong owners := by
  rw [interfacesAmong, interfacesAmong, List.filterMap_cons_none rfl]

theorem lacking_congr (hits : ∀ s, L.hit owners s = L.hit owners' s)
    (owns : ∀ s, own.get? s = own'.get? s) (handler : Option Handler) (face : Symbol) :
    L.lacking owners own handler face = L.lacking owners' own' handler face := by
  have same : L.lacks owners own handler face = L.lacks owners' own' handler face := by
    funext s
    rw [lacks, lacks, hits, owns]
  rw [lacking, lacking, same]

structure PlainStep (L : Ledger) (cls p : Symbol) (owners : List Owner) (handler : Option Handler) :
    Prop where
  ancestors : L.ancestors cls = .ok (.ofClass cls :: owners)
  ancestors' : L.ancestors p = .ok owners
  handled : L.handlerFor cls = .ok handler
  handled' : L.handlerFor p = .ok handler
  hits : ∀ s, L.hit (.ofClass cls :: owners) s = L.hit owners s

theorem Sound.exists_plainStep (h : L.Sound) (found : L.classAt? cls = some c) (plain : c.Plain p) :
    ∃ owners handler, PlainStep L cls p owners handler := by
  obtain ⟨-, isClass⟩ := h.named.super_of_class found plain.super
  obtain ⟨chain, walk⟩ := h.named.exists_lineage isClass
  have step := Lineage.step found plain.super walk
  have front : ((cls, c) :: chain).flatMap ownersOf = .ofClass cls :: chain.flatMap ownersOf := by
    rw [List.flatMap_cons, ownersOf, plain.includes]
    rfl
  have above : ((cls, c) :: chain).findSome? (·.2.handler) = chain.findSome? (·.2.handler) := by
    rw [List.findSome?_cons, plain.handler]
  refine ⟨_, _, front ▸ h.named.ancestors_eq step, h.named.ancestors_eq walk,
    above ▸ h.named.handlerFor_eq step, h.named.handlerFor_eq walk, fun s => ?_⟩
  apply hit_cons_of_missed
  rw [tableOf_of_class found, MethodTable.get?_of_isEmpty plain.table]

theorem PlainStep.lookupName (h : PlainStep L cls p owners handler) (sound : L.Sound)
    (owns : ∀ s, own.get? s = own'.get? s) (name : String) :
    L.lookupName cls own name = L.lookupName p own' name := by
  rw [sound.lookupName_eq h.ancestors, sound.lookupName_eq h.ancestors']
  simp only [h.hits, owns]

theorem PlainStep.interfaces (h : PlainStep L cls p owners handler) :
    L.interfaces cls = L.interfaces p := by
  rw [Ledger.interfaces, Ledger.interfaces, h.ancestors, h.ancestors']
  exact congrArg Except.ok interfacesAmong_cons_ofClass

theorem PlainStep.gap (h : PlainStep L cls p owners handler) (sound : L.Sound)
    (owns : ∀ s, own.get? s = own'.get? s) (face : Symbol) :
    L.gap cls own face = L.gap p own' face := by
  cases found : L.moduleAt face with
  | error f => rw [gap_of_bad_face found, gap_of_bad_face found]
  | ok m =>
    have isModule := isModule_iff_moduleAt.2 ⟨m, found⟩
    cases interface : L.isInterface face with
    | false => rw [gap_of_plain_face isModule interface, gap_of_plain_face isModule interface]
    | true =>
      rw [sound.gap_eq interface h.ancestors h.handled, sound.gap_eq interface h.ancestors' h.handled',
        lacking_congr h.hits owns]

theorem PlainStep.gaps (h : PlainStep L cls p owners handler) (sound : L.Sound)
    (owns : ∀ s, own.get? s = own'.get? s) : L.gaps cls own = L.gaps p own' := by
  have lists : L.lacking (.ofClass cls :: owners) own handler = L.lacking owners own' handler :=
    funext fun face => lacking_congr h.hits owns handler face
  rw [sound.gaps_eq h.ancestors h.handled, sound.gaps_eq h.ancestors' h.handled', gapMap, gapMap,
    interfacesAmong_cons_ofClass, lists]

theorem answerOf_endsAlike (titled : L.describe o.cls = title) (titled' : L.describe i.cls = super)
    (e : Entry) (name : String) (args : List Value) (inside : Bool) :
    EndsAlike title super name (L.answerOf o e name args inside)
      (L.answerOf i e name args inside) := by
  cases admitted : inside || e.isPublic with
  | false =>
    rw [answerOf_refused admitted, answerOf_refused admitted, titled, titled']
    exact .privateMethod
  | true =>
    rw [answerOf_admitted admitted, answerOf_admitted admitted]
    cases check : e.checkArguments name args with
    | ok _ => exact .value _
    | error f => exact .misfit (Entry.checkArguments_isMismatch check)

theorem deliver_endsAlike {found : Option Entry} (resolved : L.resolve o name = .ok found)
    (resolved' : L.resolve i name = .ok found) (handled : L.handlerFor o.cls = .ok handler)
    (handled' : L.handlerFor i.cls = .ok handler) (titled : L.describe o.cls = title)
    (titled' : L.describe i.cls = super) (args : List Value) (inside : Bool) :
    EndsAlike title super name (L.deliver o name args inside) (L.deliver i name args inside) := by
  cases found with
  | some e =>
    rw [deliver_found resolved, deliver_found resolved']
    exact answerOf_endsAlike titled titled' e name args inside
  | none =>
    cases taken : handler.any (·.accepts name inside) with
    | true =>
      obtain ⟨h, rfl, accepted⟩ := (Option.any_eq_true _ _).1 taken
      rw [deliver_missing resolved handled accepted, deliver_missing resolved' handled' accepted]
      exact .value _
    | false =>
      rw [deliver_unanswered resolved handled taken, deliver_unanswered resolved' handled' taken,
        titled, titled']
      exact .noMethod

/-- What is said of two classes is the same. -/
structure ClassImitates (L : Ledger) (cls p : Symbol) : Prop where
  resolved : ∀ name, L.classResolve cls name = L.classResolve p name
  interfaces : L.interfaces cls = L.interfaces p
  gaps : L.gaps cls ∅ = L.gaps p ∅
  gap : ∀ face, L.gap cls ∅ face = L.gap p ∅ face

/-- What two instances answer is the same, but that a fault names the class of each, here `title` and
    `super`. -/
structure InstanceImitates (L : Ledger) (o i : Instance) (title super : String) : Prop where
  responds : ∀ name inside, L.respondsTo o name inside = L.respondsTo i name inside
  call : ∀ name args, EndsAlike title super name (L.call o name args) (L.call i name args)
  send : ∀ name args, EndsAlike title super name (L.send o name args) (L.send i name args)
  gaps : L.gaps o.cls o.own = L.gaps i.cls i.own
  gap : ∀ face, L.gap o.cls o.own face = L.gap i.cls i.own face

theorem PlainStep.classImitates (h : PlainStep L cls p owners handler) (sound : L.Sound) :
    ClassImitates L cls p where
  resolved := h.lookupName sound fun _ => rfl
  interfaces := h.interfaces
  gaps := h.gaps sound fun _ => rfl
  gap := h.gap sound fun _ => rfl

theorem PlainStep.instanceImitates (h : PlainStep L o.cls i.cls owners handler) (sound : L.Sound)
    (owns : ∀ s, o.own.get? s = i.own.get? s) (titled : L.describe o.cls = title)
    (titled' : L.describe i.cls = super) : InstanceImitates L o i title super := by
  have calls : ∀ name args inside, EndsAlike title super name (L.deliver o name args inside)
      (L.deliver i name args inside) := by
    intro name args inside
    have resolved := sound.lookupName_eq h.ancestors' i.own name
    have same : L.resolve o name = L.resolve i name := h.lookupName sound owns name
    exact deliver_endsAlike (same.trans resolved) resolved h.handled h.handled' titled titled' args
      inside
  constructor
  · intro name inside
    rw [respondsTo, respondsTo, resolve, resolve, h.lookupName sound owns, h.handled, h.handled']
  · intro name args
    exact calls name args false
  · intro name args
    exact calls name args true
  · exact h.gaps sound owns
  · exact h.gap sound owns

/-- A class that adds nothing to its superclass answers as the superclass does. So does an instance of
    it, as one of the superclass with the same methods of its own; where a fault names the superclass
    there, it names the class here. -/
theorem plain_subclass_imitates {L : Ledger} {cls p : Symbol} {c : ClassRecord} (h : Reachable L)
    (found : L.classAt cls = .ok c) (plain : c.Plain p) :
    ClassImitates L cls p ∧ ∃ title super, L.nameOf? cls = some title ∧ L.nameOf? p = some super ∧
      ∀ o i : Instance, o.cls = cls → i.cls = p → (∀ s, o.own.get? s = i.own.get? s) →
        InstanceImitates L o i title super := by
  have sound := h.sound
  have record := classAt_eq_ok_iff.1 found
  have given := lt_size_of_isClass (isClass_iff.2 ⟨c, record⟩)
  have given' := lt_size_of_isClass (sound.named.super_of_class record plain.super).2
  obtain ⟨title, named⟩ := sound.named.exists_name given
  obtain ⟨super, named'⟩ := sound.named.exists_name given'
  obtain ⟨owners, handler, step⟩ := sound.exists_plainStep record plain
  refine ⟨step.classImitates sound, title, super, named, named', ?_⟩
  rintro o i rfl rfl owns
  exact step.instanceImitates sound owns ((sound.named.describe_eq_iff given).2 named)
    ((sound.named.describe_eq_iff given').2 named')

def litHousehold : Ledger :=
  household.afterAll
    [.operation (.defineClass
        { name := "Bulb", parent := some "Lamp", methods := [{ name := "glow" }] }),
      .operation (.removeMethod 13 "glow")]

theorem exists_plain_litHousehold :
    ∃ c, litHousehold.classAt 13 = .ok c ∧ c.Plain 11 := by
  have isClass : litHousehold.isClass 13 = true := by cbv
  have record : (litHousehold.classAt? 13).map
      (fun c => (c.parent, c.table.isEmpty, c.includes, c.handler.isNone)) =
        some (some 11, true, [], true) := by cbv
  obtain ⟨c, found⟩ := isClass_iff_classAt.1 isClass
  rw [classAt_eq_ok_iff.1 found, Option.map_some, Option.some.injEq] at record
  simp only [Prod.mk.injEq, Option.isNone_iff_eq_none] at record
  obtain ⟨super, table, includes, handler⟩ := record
  exact ⟨c, found, super, table, includes, handler⟩

theorem plain_subclass_imitates_litHousehold :
    Reachable litHousehold ∧ (∃ c, litHousehold.classAt 13 = .ok c ∧ c.Plain 11) ∧
      ClassImitates litHousehold 13 11 ∧
      litHousehold.call lamp "wire" [] = .error (.privateMethod "Lamp" "wire") ∧
      litHousehold.call { lamp with cls := 13 } "wire" [] =
        .error (.privateMethod "Bulb" "wire") ∧
      litHousehold.send lamp "fly" [] = .error (.noMethod "Lamp" "fly") ∧
      litHousehold.send { lamp with cls := 13 } "fly" [] = .error (.noMethod "Bulb" "fly") ∧
      litHousehold.gaps lamp.cls lamp.own = litHousehold.gaps 13 lamp.own := by
  have reachable : Reachable litHousehold := reachable_household.afterAll _
  have bulb : litHousehold.nameOf? 13 = some "Bulb" := by cbv
  have private' : litHousehold.call lamp "wire" [] = .error (.privateMethod "Lamp" "wire") := by cbv
  have unknown : litHousehold.send lamp "fly" [] = .error (.noMethod "Lamp" "fly") := by cbv
  obtain ⟨c, found, plain⟩ := exists_plain_litHousehold
  obtain ⟨classes, title, super, named, -, instances⟩ := plain_subclass_imitates reachable found plain
  cases named.symm.trans bulb
  have imitates := instances { lamp with cls := 13 } lamp rfl rfl fun _ => rfl
  have called := imitates.call "wire" []
  have sent := imitates.send "fly" []
  rw [private'] at called
  rw [unknown] at sent
  exact ⟨reachable, ⟨c, found, plain⟩, classes, private', called.eq_privateMethod, unknown,
    sent.eq_noMethod, imitates.gaps.symm⟩

end Ledger

end InterfaceLedger
