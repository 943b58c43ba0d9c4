import InterfaceLedger.Proofs.Calls
import Mathlib

/-!
Calls from inside. They reach every method, private ones too, so an instance says that it responds
to a name exactly if such a call finds something that answers. All that can still go wrong then is
the arguments. Against the same call from outside nothing is lost, as long as the handlers accept
from inside whatever they accept from outside.
-/
namespace InterfaceLedger

theorem firstMismatch_eq_none_iff {method : String} {start : Nat} {params : List Ty}
    {args : List Value} (even : args.length = params.length) :
    firstMismatch method start params args = none ↔ args.map Value.ty = params := by
  induction params generalizing start args with
  | nil =>
    rw [List.length_eq_zero_iff.1 even]
    exact iff_of_true rfl rfl
  | cons p rest ih =>
    cases args with
    | nil => cases even
    | cons a more =>
      rw [firstMismatch, List.map_cons, List.cons_eq_cons]
      split
      · rename_i fits
        rw [ih (Nat.succ.inj even), fits, eq_self_iff_true, true_and]
      · rename_i differs
        exact iff_of_false (Option.some_ne_none _) fun same => differs same.1.symm

theorem Entry.checkArguments_eq_ok_iff {e : Entry} {method : String} {args : List Value} :
    e.checkArguments method args = .ok () ↔ args.map Value.ty = e.params := by
  rw [checkArguments]
  split
  · rename_i uneven
    simp only [reduceCtorEq, false_iff]
    intro same
    exact uneven (by rw [← same, List.length_map])
  · rename_i even
    have fits : firstMismatch method 0 e.params args = none ↔ _ :=
      firstMismatch_eq_none_iff (not_not.1 even)
    rw [← fits]
    cases firstMismatch method 0 e.params args with
    | none => simp
    | some f => simp

namespace Ledger

variable {L : Ledger} {o : Instance} {name : String} {args : List Value} {found : Option Entry}
  {answer : Bool} {r : Except Fault Value}

/-- The ways a call from inside can end, each with what was found for the name and with what the
    instance says when it is asked for the name. -/
inductive Ending (L : Ledger) (o : Instance) (name : String) (args : List Value) :
    Option Entry → Bool → Except Fault Value → Prop where
  | ran {e : Entry} (fit : args.map Value.ty = e.params) :
      Ending L o name args (some e) true (.ok (e.invoke args))
  | misfit {e : Entry} {f : Fault} (unfit : args.map Value.ty ≠ e.params)
      (mismatch : f.isMismatch = true) : Ending L o name args (some e) true (.error f)
  | caught (h : Handler) : Ending L o name args none true (.ok (h.reply name args))
  | unanswered {cls : String} (named : L.nameOf? o.cls = some cls) :
      Ending L o name args none false (.error (.noMethod cls name))

theorem ending_of_found {e : Entry} (resolved : L.resolve o name = .ok (some e)) :
    Ending L o name args (some e) true (L.send o name args) := by
  rw [send, deliver_found resolved, answerOf_admitted (Bool.true_or _)]
  cases check : e.checkArguments name args with
  | ok u => exact .ran (Entry.checkArguments_eq_ok_iff.1 check)
  | error f =>
    refine .misfit (fun fit => ?_) (Entry.checkArguments_isMismatch check)
    rw [Entry.checkArguments_eq_ok_iff.2 fit] at check
    cases check

theorem Sound.ending_of_missing (h : L.Sound) (isClass : L.isClass o.cls = true)
    {handler : Option Handler} (resolved : L.resolve o name = .ok none)
    (handled : L.handlerFor o.cls = .ok handler) :
    Ending L o name args none (handler.any (·.accepts name true)) (L.send o name args) := by
  cases taken : handler.any (·.accepts name true) with
  | true =>
    obtain ⟨g, rfl, accepted⟩ := (Option.any_eq_true _ _).1 taken
    rw [send, deliver_missing resolved handled accepted]
    exact .caught g
  | false =>
    obtain ⟨cls, named⟩ := h.named.exists_name (lt_size_of_isClass isClass)
    rw [send, deliver_unanswered resolved handled taken, describe, named]
    exact .unanswered named

theorem Sound.exists_ending (h : L.Sound) (isClass : L.isClass o.cls = true) (name : String)
    (args : List Value) :
    ∃ found answer, L.resolve o name = .ok found ∧ L.respondsTo o name true = .ok answer ∧
      Ending L o name args found answer (L.send o name args) := by
  obtain ⟨found, resolved⟩ := h.exists_resolve isClass name
  obtain ⟨handler, handled, -⟩ := h.exists_handlerFor isClass
  refine ⟨found, _, resolved, respondsTo_eq resolved handled true, ?_⟩
  cases found with
  | some e => exact ending_of_found resolved
  | none => exact h.ending_of_missing isClass resolved handled

/-- What an answer to the question tells of the call, and what the call may fail with. -/
structure Settles (L : Ledger) (o : Instance) (name : String) (args : List Value)
    (found : Option Entry) (answer : Bool) (r : Except Fault Value) : Prop where
  unanswered : (∃ cls method, r = .error (.noMethod cls method)) ↔ answer = false
  named : ∀ cls method, r = .error (.noMethod cls method) →
    L.nameOf? o.cls = some cls ∧ method = name
  admitted : ∀ cls method, r ≠ .error (.privateMethod cls method)
  misfit : (∃ f, r = .error f ∧ f.isMismatch = true) ↔
    ∃ e, found = some e ∧ args.map Value.ty ≠ e.params
  only : ∀ f, r = .error f → (∃ cls method, f = .noMethod cls method) ∨ f.isMismatch = true

theorem Ending.settles (ending : Ending L o name args found answer r) :
    Settles L o name args found answer r := by
  cases ending with
  | @ran e fit =>
    have fits : ¬ ∃ e', some e = some e' ∧ args.map Value.ty ≠ e'.params := by
      intro ⟨e', same, unfit⟩
      cases same
      exact unfit fit
    exact ⟨iff_of_false nofun nofun, nofun, nofun, iff_of_false nofun fits, nofun⟩
  | @misfit e f unfit mismatch =>
    refine
      { unanswered := iff_of_false ?_ nofun
        named := ?_
        admitted := ?_
        misfit := iff_of_true ⟨f, rfl, mismatch⟩ ⟨e, rfl, unfit⟩
        only := ?_ }
    · intro ⟨cls, method, same⟩
      cases same
      cases mismatch
    · intro cls method same
      cases same
      cases mismatch
    · intro cls method same
      cases same
      cases mismatch
    · intro g same
      cases same
      exact .inr mismatch
  | caught h => exact ⟨iff_of_false nofun nofun, nofun, nofun, iff_of_false nofun nofun, nofun⟩
  | @unanswered cls named =>
    refine
      { unanswered := iff_of_true ⟨cls, name, rfl⟩ rfl
        named := ?_
        admitted := nofun
        misfit := iff_of_false ?_ nofun
        only := ?_ }
    · intro cls' method same
      cases same
      exact ⟨named, rfl⟩
    · intro ⟨f, same, mismatch⟩
      cases same
      cases mismatch
    · intro f same
      cases same
      exact .inl ⟨cls, name, rfl⟩

/-- Whether an instance responds is always answered, and the answer is no exactly if the call from
    inside finds nothing that answers; it fails otherwise only on arguments that do not fit. -/
theorem respondsTo_settles_send {L : Ledger} {o : Instance} (h : Reachable L)
    (isClass : L.isClass o.cls = true) (name : String) (args : List Value) :
    ∃ found answer, L.resolve o name = .ok found ∧ L.respondsTo o name true = .ok answer ∧
      Settles L o name args found answer (L.send o name args) := by
  obtain ⟨found, answer, resolved, answered, ending⟩ := h.sound.exists_ending isClass name args
  exact ⟨found, answer, resolved, answered, ending.settles⟩

theorem respondsTo_settles_send_household :
    Reachable household ∧ household.isClass 9 = true ∧
      (∃ f, household.send { cls := 9 } "wire" [.void] = .error f ∧ f.isMismatch = true) ∧
      household.send { cls := 9 } "fly" [] = .error (.noMethod "Device" "fly") := by
  have isClass : household.isClass 9 = true := by cbv
  have settled := fun name args =>
    respondsTo_settles_send (o := { cls := 9 }) reachable_household isClass name args
  refine ⟨reachable_household, isClass, ?_, ?_⟩
  · obtain ⟨found, answer, resolved, -, settles⟩ := settled "wire" [.void]
    have wire : household.resolve { cls := 9 } "wire" = .ok (some
        { name := 4, owner := .ofModule 1, params := [], result := .void
          visibility := .priv, body := .blank }) := by cbv
    rw [wire] at resolved
    cases resolved
    exact settles.misfit.2 ⟨_, rfl, by decide⟩
  · obtain ⟨found, answer, -, answered, settles⟩ := settled "fly" []
    have silent : household.respondsTo { cls := 9 } "fly" true = .ok false := by cbv
    rw [silent] at answered
    cases answered
    obtain ⟨cls, method, failed⟩ := settles.unanswered.2 rfl
    obtain ⟨named, rfl⟩ := settles.named cls method failed
    have device : household.nameOf? 9 = some "Device" := by cbv
    rw [device] at named
    cases named
    exact failed

/-- All handlers of the ledger that accept a name from outside accept it from inside too. -/
def MonotoneHandlers (L : Ledger) : Prop :=
  ∀ s c h, L.classAt? s = some c → c.handler = some h → h.Monotone

theorem NearestHandler.monotone {s : Symbol} {h : Handler} (near : NearestHandler L s h)
    (monotone : L.MonotoneHandlers) : h.Monotone := by
  induction near with
  | own found here => exact monotone _ _ _ found here
  | inherited _ _ _ _ above => exact above

/-- What the end of a call from outside tells of the same call from inside. -/
structure Upholds (outer inner : Except Fault Value) : Prop where
  value : ∀ v, outer = .ok v → inner = .ok v
  misfit : ∀ f, outer = .error f → f.isMismatch = true → inner = .error f
  barred : ∀ cls method, outer = .error (.privateMethod cls method) → Taken inner
  unanswered : ∀ cls method, inner = .error (.noMethod cls method) →
    outer = .error (.noMethod cls method)

theorem Upholds.same (admitted : ∀ cls method, r ≠ .error (.privateMethod cls method)) :
    Upholds r r where
  value _ done := done
  misfit _ failed _ := failed
  barred cls method refused := absurd refused (admitted cls method)
  unanswered _ _ failed := failed

theorem Upholds.of_refused {cls method : String} (taken : Taken r) :
    Upholds (.error (.privateMethod cls method)) r where
  value := nofun
  misfit := by
    intro f same mismatch
    cases same
    cases mismatch
  barred _ _ _ := taken
  unanswered cls' method' failed := by cases taken _ failed

theorem Upholds.of_caught {cls method : String} {v : Value} :
    Upholds (.error (.noMethod cls method)) (.ok v) where
  value := nofun
  misfit := by
    intro f same mismatch
    cases same
    cases mismatch
  barred := nofun
  unanswered := nofun

theorem upholds_of_found {e : Entry} (resolved : L.resolve o name = .ok (some e)) :
    Upholds (L.call o name args) (L.send o name args) := by
  have taken : Taken (L.answerOf o e name args true) := answerOf_taken (Bool.true_or _)
  rw [call, send, deliver_found resolved, deliver_found resolved]
  cases visible : e.isPublic with
  | true =>
    have alike : L.answerOf o e name args false = L.answerOf o e name args true := by
      rw [answerOf_admitted (Bool.true_or _), answerOf_admitted ((Bool.false_or _).trans visible)]
    rw [alike]
    refine .same fun cls method refused => ?_
    cases taken _ refused
  | false =>
    rw [answerOf_refused ((Bool.false_or _).trans visible)]
    exact .of_refused taken

theorem upholds_of_missing {handler : Option Handler} (resolved : L.resolve o name = .ok none)
    (handled : L.handlerFor o.cls = .ok handler)
    (keeps : handler.any (·.accepts name false) = true → handler.any (·.accepts name true) = true) :
    Upholds (L.call o name args) (L.send o name args) := by
  rw [call, send]
  cases inner : handler.any (·.accepts name true) with
  | false =>
    have outer : handler.any (·.accepts name false) = false := by
      rw [Bool.eq_false_iff]
      intro accepted
      cases inner.symm.trans (keeps accepted)
    rw [deliver_unanswered resolved handled outer, deliver_unanswered resolved handled inner]
    exact .same (by simp)
  | true =>
    obtain ⟨h, rfl, accepted⟩ := (Option.any_eq_true _ _).1 inner
    rw [deliver_missing resolved handled accepted]
    cases outer : h.accepts name false with
    | true =>
      rw [deliver_missing resolved handled outer]
      exact .same (by simp)
    | false =>
      rw [deliver_unanswered resolved handled ((Option.any_some).trans outer)]
      exact .of_caught

/-- With monotone handlers a call from inside gives all that the same call from outside gives. It
    fails on the arguments as that one does, and finds nothing only where that one finds nothing;
    and what an instance responds to from outside it responds to from inside. -/
theorem send_extends_call {L : Ledger} {o : Instance} (h : Reachable L)
    (isClass : L.isClass o.cls = true) (monotone : L.MonotoneHandlers) (name : String)
    (args : List Value) :
    Upholds (L.call o name args) (L.send o name args) ∧
      (L.respondsTo o name false = .ok true → L.respondsTo o name true = .ok true) := by
  obtain ⟨found, resolved⟩ := h.sound.exists_resolve isClass name
  obtain ⟨handler, handled, nearest⟩ := h.sound.exists_handlerFor isClass
  have keeps : handler.any (·.accepts name false) = true →
      handler.any (·.accepts name true) = true := by
    rw [Option.any_eq_true, Option.any_eq_true]
    rintro ⟨g, here, accepted⟩
    exact ⟨g, here, ((nearest g).1 here).monotone monotone name accepted⟩
  rw [respondsTo_eq resolved handled, respondsTo_eq resolved handled]
  cases found with
  | some e => exact ⟨upholds_of_found resolved, fun _ => by simp⟩
  | none =>
    refine ⟨upholds_of_missing resolved handled keeps, fun answer => ?_⟩
    rw [Option.any_none, Bool.false_or, Except.ok.injEq] at answer
    rw [Option.any_none, Bool.false_or, keeps answer]

theorem monotoneHandlers_vault : vault.MonotoneHandlers := by
  intro s c h found here
  have inside : s < 3 := lt_size_of_isClass (isClass_iff.2 ⟨c, found⟩)
  interval_cases s
  · cases found
  · cases found
    cases here
    exact fun _ _ => rfl
  · cases found

theorem send_extends_call_vault :
    Reachable vault ∧ vault.isClass 1 = true ∧ vault.MonotoneHandlers ∧
      vault.send { cls := 1 } "close" [] = .ok (.str "close") ∧
      vault.call { cls := 1 } "open" [] = .error (.privateMethod "Vault" "open") ∧
      Taken (vault.send { cls := 1 } "open" []) := by
  have replied : vault.call { cls := 1 } "close" [] = .ok (.str "close") := by cbv
  have refused : vault.call { cls := 1 } "open" [] = .error (.privateMethod "Vault" "open") := by
    cbv
  have kept := fun name =>
    send_extends_call (o := { cls := 1 }) reachable_vault rfl monotoneHandlers_vault name []
  exact ⟨reachable_vault, rfl, monotoneHandlers_vault, (kept "close").1.value _ replied, refused,
    (kept "open").1.barred _ _ refused⟩

end Ledger

end InterfaceLedger
