import InterfaceLedger.Proofs.Provenance
import InterfaceLedger.Proofs.Sending
import Mathlib

/-!
Arguments and signatures. Whatever a call finds, its body is run on arguments of the types that the
declaration asks for, one for one, and is not run on others. What is reported then is the number of
arguments if that is wrong, and otherwise the first place at which the types part.
-/
namespace InterfaceLedger

/-- How the types of some arguments depart from what a method asks for. -/
inductive Departs (method : String) (wanted found : List Ty) : Fault → Prop where
  | length (uneven : found.length ≠ wanted.length) :
      Departs method wanted found (.arityMismatch method wanted.length found.length)
  | type {i : Nat} {w t : Ty} (even : found.length = wanted.length)
      (before : ∀ j < i, found[j]? = wanted[j]?) (asked : wanted[i]? = some w)
      (got : found[i]? = some t) (apart : w ≠ t) :
      Departs method wanted found (.typeMismatch method i w t)

theorem Departs.unique {method : String} {wanted found : List Ty} {f g : Fault}
    (h : Departs method wanted found f) (h' : Departs method wanted found g) : f = g := by
  cases h with
  | length uneven =>
    cases h' with
    | length => rfl
    | type even => exact absurd even uneven
  | @type i w t even before asked got apart =>
    cases h' with
    | length uneven => exact absurd even uneven
    | @type j w' t' _ before' asked' got' apart' =>
      have first : i = j := by
        rcases Nat.lt_trichotomy i j with lt | same | gt
        · have agree := before' i lt
          rw [asked, got, Option.some.injEq] at agree
          exact absurd agree.symm apart
        · exact same
        · have agree := before j gt
          rw [asked', got', Option.some.injEq] at agree
          exact absurd agree.symm apart'
      subst first
      cases asked.symm.trans asked'
      cases got.symm.trans got'
      rfl

theorem firstMismatch_eq_some {method : String} {start : Nat} {params : List Ty}
    {args : List Value} {f : Fault} (h : firstMismatch method start params args = some f) :
    ∃ i w t, f = .typeMismatch method (start + i) w t ∧ params[i]? = some w ∧
      (args.map Value.ty)[i]? = some t ∧ w ≠ t ∧
      ∀ j < i, (args.map Value.ty)[j]? = params[j]? := by
  induction params generalizing start args with
  | nil => cases h
  | cons p rest ih =>
    cases args with
    | nil => cases h
    | cons a more =>
      rw [firstMismatch] at h
      by_cases fits : p = a.ty
      · rw [if_pos fits] at h
        obtain ⟨i, w, t, rfl, asked, got, apart, before⟩ := ih h
        refine ⟨i + 1, w, t, by rw [Nat.add_assoc, Nat.add_comm 1], asked, got, apart, ?_⟩
        rintro (_ | j) lt
        · simp [fits]
        · exact before j (by omega)
      · rw [if_neg fits] at h
        cases h
        exact ⟨0, p, a.ty, rfl, rfl, rfl, fits, by omega⟩

theorem Entry.checkArguments_eq_error {e : Entry} {method : String} {args : List Value} {f : Fault}
    (h : e.checkArguments method args = .error f) :
    Departs method e.params (args.map Value.ty) f := by
  have length : (args.map Value.ty).length = args.length := List.length_map ..
  rw [checkArguments] at h
  split at h
  · rename_i uneven
    cases h
    rw [← length] at uneven ⊢
    exact .length uneven
  · rename_i even
    split at h
    · rename_i mismatch
      cases h
      obtain ⟨i, w, t, rfl, asked, got, apart, before⟩ := firstMismatch_eq_some mismatch
      rw [Nat.zero_add]
      exact .type (length.trans (not_not.1 even)) before asked got apart
    · cases h

namespace Ledger

variable {L : Ledger} {o : Instance} {e : Entry} {name : String} {args : List Value} {inside : Bool}

/-- What an entry that was found makes of a call: its value, on fitting arguments and on no others, and
    else a fault that owes nothing to the body. -/
structure Guarded (L : Ledger) (o : Instance) (e : Entry) (name : String) (args : List Value)
    (inside : Bool) (answer : Except Fault Value) : Prop where
  fitting : ∀ v, answer = .ok v → args.map Value.ty = e.params ∧
    (∀ run, e.body = .native run → v = run args) ∧ (e.body = .blank → v = .void)
  runs : (inside || e.isPublic) = true → args.map Value.ty = e.params →
    answer = .ok (e.body.run args)
  stops : (inside || e.isPublic) = true → args.map Value.ty ≠ e.params →
    ∃ f, Departs name e.params (args.map Value.ty) f ∧ answer = .error f ∧
      ∀ body, L.answerOf o { e with body } name args inside = .error f

theorem answerOf_of_fits (admitted : (inside || e.isPublic) = true)
    (fits : args.map Value.ty = e.params) :
    L.answerOf o e name args inside = .ok (e.body.run args) := by
  rw [answerOf_admitted admitted, Entry.checkArguments_eq_ok_iff.2 fits]
  rfl

theorem answerOf_of_misfit (admitted : (inside || e.isPublic) = true) {f : Fault}
    (misfit : e.checkArguments name args = .error f) :
    L.answerOf o e name args inside = .error f := by
  rw [answerOf_admitted admitted, misfit]
  rfl

theorem answerOf_guarded (L : Ledger) (o : Instance) (e : Entry) (name : String)
    (args : List Value) (inside : Bool) :
    Guarded L o e name args inside (L.answerOf o e name args inside) where
  fitting v done := by
    cases admitted : inside || e.isPublic with
    | false =>
      rw [answerOf_refused admitted] at done
      cases done
    | true =>
      cases checked : e.checkArguments name args with
      | error f =>
        rw [answerOf_of_misfit admitted checked] at done
        cases done
      | ok _ =>
        have fits := Entry.checkArguments_eq_ok_iff.1 checked
        rw [answerOf_of_fits admitted fits] at done
        cases done
        refine ⟨fits, ?_, ?_⟩
        · intro run native
          rw [native, Body.run]
        · intro blank
          rw [blank, Body.run]
  runs := answerOf_of_fits
  stops admitted misfit := by
    cases checked : e.checkArguments name args with
    | ok _ => exact absurd (Entry.checkArguments_eq_ok_iff.1 checked) misfit
    | error f =>
      -- neither the check nor who may call looks at the body
      exact ⟨f, Entry.checkArguments_eq_error checked, answerOf_of_misfit admitted checked,
        fun body => answerOf_of_misfit (e := { e with body }) admitted checked⟩

/-- What a call finds is a declaration that is in force, with symbols in it, and the body is run on
    arguments of the types that the declaration asks for and on no others, whoever calls. -/
theorem bodies_see_fitting_arguments {events : List Event} {L : Ledger}
    (run : (∅ : Ledger).afterAll events = L) {o : Instance} {G : Symbol → Option MethodDecl}
    (given : Given o G) (isClass : L.isClass o.cls = true) (name : String) (args : List Value) :
    ∃ found owners, L.resolve o name = .ok found ∧ L.ancestors o.cls = .ok owners ∧
      ∀ e, found = some e → ∃ s m, L.textAt? s = some name ∧
        InForce (.of events) G owners name s e.owner m ∧ e = m.toEntry s e.owner ∧
        e.params = m.signature.types.tail ∧ Guarded L o e name args false (L.call o name args) ∧
        Guarded L o e name args true (L.send o name args) := by
  subst run
  have sound := (Reachable.empty.afterAll events).sound
  obtain ⟨owners, walk⟩ := sound.exists_ancestors isClass
  obtain ⟨found, resolved⟩ := sound.exists_resolve isClass name
  refine ⟨found, owners, resolved, walk, ?_⟩
  rintro e rfl
  obtain ⟨s, m, text, inForce, same⟩ :=
    (records_of_events events).resolve_eq_some sound given walk resolved
  refine ⟨s, m, text, inForce, same, congrArg Entry.params same, ?_, ?_⟩
  · rw [call, deliver_found resolved]
    exact answerOf_guarded ..
  · rw [send, deliver_found resolved]
    exact answerOf_guarded ..

def dimMethod : MethodDecl :=
  { name := "dim", signature := ⟨[.bool, .u8, .bool]⟩
    body := .native fun args => args.getLastD .void }

def dimmerEvents : List Event :=
  householdEvents ++ [.operation (.defineMethod 9 { name := "dim", signature := ⟨[.bool, .u8]⟩ }),
    .operation (.defineMethod 9 dimMethod)]

theorem bodies_see_fitting_arguments_dimmer :
    ∃ L e, (∅ : Ledger).afterAll dimmerEvents = L ∧ L.isClass 11 = true ∧
      Given { cls := 11 } (fun _ => none) ∧ L.resolve { cls := 11 } "dim" = .ok (some e) ∧
      (∃ owners s, InForce (.of dimmerEvents) (fun _ => none) owners "dim" s (.ofClass 9) dimMethod ∧
        e = dimMethod.toEntry s (.ofClass 9)) ∧
      L.call { cls := 11 } "dim" [.u8 5, .bool true] = .ok (.bool true) ∧
      L.call { cls := 11 } "dim" [.u8 5] = .error (.arityMismatch "dim" 2 1) ∧
      L.send { cls := 11 } "dim" [.u8 5, .u8 6] = .error (.typeMismatch "dim" 1 .bool .u8) := by
  generalize run : (∅ : Ledger).afterAll dimmerEvents = L
  have isClass : L.isClass 11 = true := by
    rw [← run]
    cbv
  have resolved : L.resolve { cls := 11 } "dim" = .ok (some (dimMethod.toEntry 12 (.ofClass 9))) := by
    rw [← run]
    cbv
  have declared : (Catalogue.of dimmerEvents) (.ofClass 9) "dim" = some dimMethod := by cbv
  have given : Given { cls := 11 } fun _ => none := .made 11
  have checked := bodies_see_fitting_arguments run given isClass "dim"
  obtain ⟨found, owners, resolved', -, entry⟩ := checked [.u8 5, .bool true]
  cases resolved.symm.trans resolved'
  obtain ⟨s, m, -, inForce, same, -, fit, -⟩ := entry _ rfl
  obtain ⟨found, _, resolved', -, entry⟩ := checked [.u8 5]
  cases resolved.symm.trans resolved'
  obtain ⟨_, _, -, -, -, -, short, -⟩ := entry _ rfl
  obtain ⟨found, _, resolved', -, entry⟩ := checked [.u8 5, .u8 6]
  cases resolved.symm.trans resolved'
  obtain ⟨_, _, -, -, -, -, -, mixed⟩ := entry _ rfl
  have latest : m = dimMethod := by
    cases inForce with
    | shared _ _ found => exact Option.some.inj (found.symm.trans declared)
  subst latest
  refine ⟨L, _, rfl, isClass, given, resolved, ⟨owners, s, inForce, same⟩, fit.runs rfl rfl, ?_, ?_⟩
  · obtain ⟨f, departs, answer, -⟩ := short.stops rfl (by decide)
    exact answer.trans (congrArg Except.error (departs.unique (.length (by decide))))
  · obtain ⟨f, departs, answer, -⟩ := mixed.stops rfl (by decide)
    exact answer.trans (congrArg Except.error
      (departs.unique (.type (i := 1) rfl (by decide) rfl rfl (by decide))))

end Ledger

end InterfaceLedger
