import InterfaceLedger.Proofs.Calls
import InterfaceLedger.Proofs.Gaps
import InterfaceLedger.Proofs.Resolution
import InterfaceLedger.Proofs.Untouched
import Mathlib

/-!
What the answers of a class depend on. All that is asked about a class, or about an instance that is
at home in the ledger, is read off the records of its lineage, off the interfaces and off the texts.
So nothing changes it but an event that is about the class itself or about one of its superclasses.
-/
namespace InterfaceLedger

/-- The event is about a class of the lineage of `cls`. -/
def Event.Concerns (e : Event) (L : Ledger) (cls : Symbol) : Prop :=
  ∃ chain t c, L.Lineage cls chain ∧ (t, c) ∈ chain ∧ e.target? = some t

namespace Ledger

variable {L M : Ledger} {cls face s : Symbol} {chain : List (Symbol × ClassRecord)}
  {own : MethodTable} {row : List Entry} {name : String} {args : List Value}

structure SameLine (L M : Ledger) (cls : Symbol) (chain : List (Symbol × ClassRecord)) : Prop where
  left : L.Sound
  right : M.Sound
  walk : Lineage L cls chain
  walk' : Lineage M cls chain
  texts : ∀ {s x}, L.textAt? s = some x → M.textAt? s = some x
  faces : ∀ {s r}, L.moduleAt? s = some r → r.role = .interface → M.moduleAt? s = some r

/-- What both say of the class and of its instances. -/
structure SameAnswers (L M : Ledger) (cls : Symbol) : Prop where
  ancestors : M.ancestors cls = L.ancestors cls
  interfaces : M.interfaces cls = L.interfaces cls
  resolved : ∀ name, M.classResolve cls name = L.classResolve cls name
  gaps : M.gaps cls ∅ = L.gaps cls ∅
  gap : ∀ face, L.isInterface face = true → M.gap cls ∅ face = L.gap cls ∅ face
  responds : ∀ o, BelongsTo L o → o.cls = cls →
    ∀ name inside, M.respondsTo o name inside = L.respondsTo o name inside
  call : ∀ o, BelongsTo L o → o.cls = cls → ∀ name args, M.call o name args = L.call o name args
  send : ∀ o, BelongsTo L o → o.cls = cls → ∀ name args, M.send o name args = L.send o name args

theorem SameLine.ancestors (h : SameLine L M cls chain) : M.ancestors cls = L.ancestors cls := by
  rw [h.left.named.ancestors_eq h.walk, h.right.named.ancestors_eq h.walk']

theorem SameLine.handlerFor (h : SameLine L M cls chain) : M.handlerFor cls = L.handlerFor cls := by
  rw [h.left.named.handlerFor_eq h.walk, h.right.named.handlerFor_eq h.walk']

theorem SameLine.isInterface (h : SameLine L M cls chain) (interface : L.isInterface s = true) :
    M.isInterface s = true := by
  obtain ⟨r, found, role⟩ := isInterface_iff.1 interface
  exact isInterface_iff.2 ⟨r, h.faces found role, role⟩

theorem SameLine.tableOf_face (h : SameLine L M cls chain) (interface : L.isInterface s = true) :
    M.tableOf (.ofModule s) = L.tableOf (.ofModule s) := by
  obtain ⟨r, found, role⟩ := isInterface_iff.1 interface
  rw [tableOf_ofModule, tableOf_ofModule, found, h.faces found role]

theorem SameLine.face_of_mem (h : SameLine L M cls chain)
    (mem : .ofModule s ∈ chain.flatMap ownersOf) : L.isInterface s = true :=
  h.left.composed.isInterface_of_mem h.left.named (h.left.named.ancestors_eq h.walk) mem

theorem SameLine.tableOf (h : SameLine L M cls chain) {o : Owner}
    (mem : o ∈ chain.flatMap ownersOf) : M.tableOf o = L.tableOf o := by
  cases o with
  | ofClass t =>
    obtain ⟨c, place⟩ := ofClass_mem_owners_iff.1 mem
    rw [tableOf_ofClass, tableOf_ofClass, h.walk.found place, h.walk'.found place]
  | ofModule m => exact h.tableOf_face (h.face_of_mem mem)
  | singleton => rfl

theorem SameLine.rows (h : SameLine L M cls chain) :
    M.rows (chain.flatMap ownersOf) = L.rows (chain.flatMap ownersOf) :=
  List.flatMap_congr fun _ mem => congrArg MethodTable.toList (h.tableOf mem)

theorem SameLine.hit (h : SameLine L M cls chain) (s : Symbol) :
    M.hit (chain.flatMap ownersOf) s = L.hit (chain.flatMap ownersOf) s := by
  rw [hit_eq_find?, hit_eq_find?, h.rows]

theorem SameLine.describe_text (h : SameLine L M cls chain) {x : String}
    (text : L.textAt? s = some x) : M.describe s = L.describe s := by
  rw [describe_of_text text, describe_of_text (h.texts text)]

theorem SameLine.describe (h : SameLine L M cls chain) : M.describe cls = L.describe cls := by
  obtain ⟨c, mem⟩ := h.walk.mem_self
  have found := h.walk.found mem
  obtain ⟨-, x, text⟩ := h.left.named.names (nameSymbolAt?_of_class found)
  rw [Ledger.describe, Ledger.describe, nameOf?_of_class found,
    nameOf?_of_class (h.walk'.found mem), text, h.texts text]

theorem SameLine.lookupName (h : SameLine L M cls chain) (spelled : L.Spelled own.toList)
    (name : String) :
    M.lookupName cls own name = L.lookupName cls own name := by
  have spelled' : M.Spelled own.toList := by
    intro e mem
    obtain ⟨x, text⟩ := spelled e mem
    exact ⟨x, h.texts text⟩
  have all : L.Spelled (own.toList ++ L.rows (chain.flatMap ownersOf)) :=
    spelled.append (h.left.spelled_rows _)
  rw [h.left.lookupName_eq_find? (h.left.named.ancestors_eq h.walk) spelled,
    h.right.lookupName_eq_find? (h.right.named.ancestors_eq h.walk') spelled',
    h.rows, all.find?_isNamed_eq h.texts]

theorem SameLine.interfacesAmong (h : SameLine L M cls chain) :
    M.interfacesAmong (chain.flatMap ownersOf) = L.interfacesAmong (chain.flatMap ownersOf) := by
  rw [Ledger.interfacesAmong, Ledger.interfacesAmong]
  apply congrArg List.eraseDups
  apply List.filterMap_congr
  intro o mem
  cases o with
  | ofModule m =>
    have interface := h.face_of_mem mem
    dsimp only
    rw [interface, h.isInterface interface]
  | ofClass => rfl
  | singleton => rfl

theorem SameLine.interfaces (h : SameLine L M cls chain) :
    M.interfaces cls = L.interfaces cls := by
  rw [Ledger.interfaces, Ledger.interfaces, h.ancestors, h.left.named.ancestors_eq h.walk]
  exact congrArg Except.ok h.interfacesAmong

theorem SameLine.lacking (h : SameLine L M cls chain) (interface : L.isInterface face = true)
    (own : MethodTable) (handler : Option Handler) :
    M.lacking (chain.flatMap ownersOf) own handler face =
      L.lacking (chain.flatMap ownersOf) own handler face := by
  have same : ∀ s ∈ (L.tableOf (.ofModule face)).publicNames, M.describe s = L.describe s := by
    intro s mem
    obtain ⟨x, text⟩ := h.left.text_of_declared mem
    exact h.describe_text text
  have kept : (L.tableOf (.ofModule face)).publicNames.filter
      (M.lacks (chain.flatMap ownersOf) own handler face) =
        (L.tableOf (.ofModule face)).publicNames.filter
          (L.lacks (chain.flatMap ownersOf) own handler face) := by
    apply List.filter_congr
    intro s mem
    rw [lacks, lacks, h.hit, same s mem]
  rw [Ledger.lacking, Ledger.lacking, h.tableOf_face interface, kept]
  apply congrArg (List.mergeSort · _)
  apply List.map_congr_left
  intro s mem
  exact same s (List.mem_filter.1 mem).1

theorem SameLine.gap (h : SameLine L M cls chain) (interface : L.isInterface face = true)
    (own : MethodTable) : M.gap cls own face = L.gap cls own face := by
  rw [h.left.gap_eq interface (h.left.named.ancestors_eq h.walk)
      (h.left.named.handlerFor_eq h.walk),
    h.right.gap_eq (h.isInterface interface) (h.right.named.ancestors_eq h.walk')
      (h.right.named.handlerFor_eq h.walk'), h.lacking interface]

theorem SameLine.gaps (h : SameLine L M cls chain) (own : MethodTable) :
    M.gaps cls own = L.gaps cls own := by
  have lists : ∀ face ∈ L.interfacesAmong (chain.flatMap ownersOf),
      (face, M.lacking (chain.flatMap ownersOf) own (chain.findSome? (·.2.handler)) face) =
        (face, L.lacking (chain.flatMap ownersOf) own (chain.findSome? (·.2.handler)) face) := by
    intro face mem
    rw [h.lacking (mem_interfacesAmong_iff.1 mem).2]
  rw [h.left.gaps_eq (h.left.named.ancestors_eq h.walk) (h.left.named.handlerFor_eq h.walk),
    h.right.gaps_eq (h.right.named.ancestors_eq h.walk') (h.right.named.handlerFor_eq h.walk'),
    gapMap, gapMap, h.interfacesAmong, List.map_congr_left lists]

theorem deliver_congr {o : Instance} (resolved : M.resolve o name = L.resolve o name)
    (handled : M.handlerFor o.cls = L.handlerFor o.cls)
    (described : M.describe o.cls = L.describe o.cls) (args : List Value) (inside : Bool) :
    M.deliver o name args inside = L.deliver o name args inside := by
  have answer : ∀ e, M.answerOf o e name args inside = L.answerOf o e name args inside := by
    intro e
    rw [answerOf, answerOf, described]
  rw [deliver, deliver, resolved, answerMissing, answerMissing, handled, described]
  simp only [answer]

theorem respondsTo_congr {o : Instance} (resolved : M.resolve o name = L.resolve o name)
    (handled : M.handlerFor o.cls = L.handlerFor o.cls) (inside : Bool) :
    M.respondsTo o name inside = L.respondsTo o name inside := by
  rw [respondsTo, respondsTo, resolved, handled]

theorem SameLine.sameAnswers (h : SameLine L M cls chain) : SameAnswers L M cls := by
  have resolved : ∀ o, BelongsTo L o → o.cls = cls → ∀ name,
      M.resolve o name = L.resolve o name := by
    rintro o home rfl name
    exact h.lookupName home.spelled name
  constructor
  · exact h.ancestors
  · exact h.interfaces
  · exact h.lookupName (spelled_empty L)
  · exact h.gaps ∅
  · intro face interface
    exact h.gap interface ∅
  · rintro o home rfl name inside
    exact respondsTo_congr (resolved o home rfl name) h.handlerFor inside
  · rintro o home rfl name args
    exact deliver_congr (resolved o home rfl name) h.handlerFor h.describe args false
  · rintro o home rfl name args
    exact deliver_congr (resolved o home rfl name) h.handlerFor h.describe args true

theorem Lineage.transfer (walk : Lineage L s chain)
    (same : ∀ p ∈ chain, M.classAt? p.1 = some p.2) : Lineage M s chain := by
  induction walk with
  | root found top => exact .root (same _ List.mem_cons_self) top
  | step found super tail ih =>
    exact .step (same _ List.mem_cons_self) super
      (ih fun p mem => same p (List.mem_cons_of_mem _ mem))

theorem sameLine_after (h : Reachable L) (walk : Lineage L cls chain) {e : Event}
    (elsewhere : ¬ e.Concerns L cls) : SameLine L (L.after e) cls chain where
  left := h.sound
  right := (h.step e).sound
  walk := walk
  walk' := by
    apply walk.transfer
    rintro ⟨t, c⟩ mem
    exact after_keeps_class (walk.found mem) e fun target =>
      elsewhere ⟨chain, t, c, walk, mem, target⟩
  texts text := (h.named.after_edits e).keeps_text text
  faces found role := (h.named.after_edits e).keeps_face found role

/-- An event that is not about a class of its lineage leaves everything as it was that is asked
    about a class, about the gap against what was an interface before, and about its instances. -/
theorem answers_depend_on_lineage {L : Ledger} {cls : Symbol} {e : Event} (h : Reachable L)
    (isClass : L.isClass cls = true) (elsewhere : ¬ e.Concerns L cls) :
    SameAnswers L (L.after e) cls := by
  obtain ⟨chain, walk⟩ := h.named.exists_lineage isClass
  exact (sameLine_after h walk elsewhere).sameAnswers

theorem answers_depend_on_lineage_household :
    Reachable household ∧ household.isClass 9 = true ∧
      ¬ (Event.operation (.defineMethod 11 { name := "off" })).Concerns household 9 ∧
      SameAnswers household (household.after (.operation (.defineMethod 11 { name := "off" }))) 9 := by
  have isClass : household.isClass 9 = true := by cbv
  have owners : household.ancestors 9 = .ok [.ofClass 9, .ofModule 1, .ofModule 6] := by cbv
  have elsewhere : ¬ (Event.operation (.defineMethod 11 { name := "off" })).Concerns household 9 := by
    rintro ⟨chain, t, c, walk, mem, target⟩
    cases target
    have among := ofClass_mem_owners_iff.2 ⟨c, mem⟩
    rw [Except.ok.inj ((reachable_household.named.ancestors_eq walk).symm.trans owners)] at among
    revert among
    decide
  exact ⟨reachable_household, isClass, elsewhere,
    answers_depend_on_lineage reachable_household isClass elsewhere⟩

end Ledger

end InterfaceLedger
