import InterfaceLedger.Ledger.Dispatch
import InterfaceLedger.Proofs.Lookup
import Mathlib

/-!
What an instance claims to answer to, and what it does answer to. The two agree except for one
thing. A call that finds a private method is refused, whatever a catch-all handler would say; the
question goes on to the handler and may be told yes.
-/
namespace InterfaceLedger

def Fault.isUnanswered : Fault → Bool
  | .noMethod .. => true
  | .privateMethod .. => true
  | _ => false

def Fault.isMismatch : Fault → Bool
  | .arityMismatch .. => true
  | .typeMismatch .. => true
  | _ => false

theorem Fault.isUnanswered_of_isMismatch {f : Fault} (h : f.isMismatch = true) :
    f.isUnanswered = false := by
  cases f with
  | arityMismatch => rfl
  | typeMismatch => rfl
  | _ => cases h

theorem firstMismatch_isMismatch {method : String} {start : Nat} {params : List Ty}
    {args : List Value} {f : Fault} (h : firstMismatch method start params args = some f) :
    f.isMismatch = true := by
  induction params generalizing start args with
  | nil => cases h
  | cons p rest ih =>
    cases args with
    | nil => cases h
    | cons a more =>
      rw [firstMismatch] at h
      split at h
      · exact ih h
      · cases h
        rfl

theorem Entry.checkArguments_isMismatch {e : Entry} {method : String} {args : List Value}
    {f : Fault} (h : e.checkArguments method args = .error f) : f.isMismatch = true := by
  rw [checkArguments] at h
  split at h
  · cases h
    rfl
  · split at h
    · rename_i mismatch
      cases h
      exact firstMismatch_isMismatch mismatch
    · cases h

/-- A call is taken if it ends in anything but the word that nothing answered. -/
def Taken (r : Except Fault Value) : Prop := ∀ f, r = .error f → f.isUnanswered = false

namespace Ledger

variable {L : Ledger} {o : Instance} {name : String} {args : List Value} {inside : Bool}
  {found : Option Entry} {handler : Option Handler}

theorem respondsTo_eq (resolved : L.resolve o name = .ok found)
    (handled : L.handlerFor o.cls = .ok handler) (inside : Bool) :
    L.respondsTo o name inside =
      .ok (found.any (fun e => inside || e.isPublic) || handler.any (·.accepts name inside)) := by
  rw [respondsTo, resolved, handled]
  change (if found.any (fun e => inside || e.isPublic) = true then _ else _) = _
  cases found.any fun e => inside || e.isPublic <;> rfl

theorem deliver_found {e : Entry} (resolved : L.resolve o name = .ok (some e)) :
    L.deliver o name args inside = L.answerOf o e name args inside := by
  rw [deliver, resolved]
  rfl

theorem deliver_missing {h : Handler} (resolved : L.resolve o name = .ok none)
    (handled : L.handlerFor o.cls = .ok (some h)) (accepted : h.accepts name inside = true) :
    L.deliver o name args inside = .ok (h.reply name args) := by
  have kept : (some h).filter (·.accepts name inside) = some h := by simp [accepted]
  rw [deliver, resolved]
  change L.answerMissing o name args inside = _
  rw [answerMissing, handled]
  dsimp only [bind, Except.bind]
  rw [kept]
  rfl

theorem deliver_unanswered (resolved : L.resolve o name = .ok none)
    (handled : L.handlerFor o.cls = .ok handler)
    (declined : handler.any (·.accepts name inside) = false) :
    L.deliver o name args inside = .error (.noMethod (L.describe o.cls) name) := by
  have dropped : handler.filter (·.accepts name inside) = none := by
    cases handler with
    | none => rfl
    | some h => simpa using declined
  rw [deliver, resolved]
  change L.answerMissing o name args inside = _
  rw [answerMissing, handled]
  dsimp only [bind, Except.bind]
  rw [dropped]
  rfl

theorem answerOf_refused {e : Entry} (barred : (inside || e.isPublic) = false) :
    L.answerOf o e name args inside = .error (.privateMethod (L.describe o.cls) name) := by
  rw [answerOf, barred]
  rfl

theorem answerOf_admitted {e : Entry} (admitted : (inside || e.isPublic) = true) :
    L.answerOf o e name args inside =
      (fun _ => e.invoke args) <$> e.checkArguments name args := by
  rw [answerOf, admitted]
  cases e.checkArguments name args <;> rfl

theorem answerOf_taken {e : Entry} (admitted : (inside || e.isPublic) = true) :
    Taken (L.answerOf o e name args inside) := by
  intro f failed
  rw [answerOf_admitted admitted] at failed
  cases check : e.checkArguments name args with
  | ok u =>
    rw [check] at failed
    cases failed
  | error g =>
    rw [check] at failed
    cases failed
    exact Fault.isUnanswered_of_isMismatch (Entry.checkArguments_isMismatch check)

theorem unanswered_not_taken {f : Fault} (unanswered : f.isUnanswered = true) :
    ¬ Taken (.error f) := by
  intro taken
  have answered := taken f rfl
  rw [unanswered] at answered
  cases answered

theorem Sound.exists_resolve (h : L.Sound) (isClass : L.isClass o.cls = true) (name : String) :
    ∃ found, L.resolve o name = .ok found := by
  obtain ⟨owners, walk⟩ := h.exists_ancestors isClass
  exact ⟨_, h.lookupName_eq walk o.own name⟩

theorem missing_agree (resolved : L.resolve o name = .ok none)
    (handled : L.handlerFor o.cls = .ok handler) :
    L.respondsTo o name inside = .ok true ↔ Taken (L.deliver o name args inside) := by
  rw [respondsTo_eq resolved handled inside]
  cases taken : handler.any (·.accepts name inside) with
  | true =>
    obtain ⟨h, rfl, accepted⟩ := (Option.any_eq_true _ _).1 taken
    rw [deliver_missing resolved handled accepted]
    exact iff_of_true rfl nofun
  | false =>
    rw [deliver_unanswered resolved handled taken]
    exact iff_of_false nofun (unanswered_not_taken rfl)

theorem admitted_agree {e : Entry} (resolved : L.resolve o name = .ok (some e))
    (handled : L.handlerFor o.cls = .ok handler) (admitted : (inside || e.isPublic) = true)
    (args : List Value) :
    L.respondsTo o name inside = .ok true ∧ Taken (L.deliver o name args inside) := by
  rw [respondsTo_eq resolved handled, deliver_found resolved]
  exact ⟨by simp [admitted], answerOf_taken admitted⟩

/-- A private method is found while the nearest handler takes the name from outside. -/
def Veiled (L : Ledger) (o : Instance) (name : String) : Prop :=
  ∃ e h, L.resolve o name = .ok (some e) ∧ e.isPublic = false ∧
    NearestHandler L o.cls h ∧ h.accepts name false = true

theorem veiled_iff {e : Entry} (resolved : L.resolve o name = .ok (some e))
    (nearest : ∀ g, handler = some g ↔ NearestHandler L o.cls g) :
    L.Veiled o name ↔ e.isPublic = false ∧ handler.any (·.accepts name false) = true := by
  rw [Option.any_eq_true]
  constructor
  · rintro ⟨e', g, again, hidden, near, accepted⟩
    rw [resolved] at again
    cases again
    exact ⟨hidden, g, (nearest g).2 near, accepted⟩
  · rintro ⟨hidden, g, here, accepted⟩
    exact ⟨e, g, resolved, hidden, (nearest g).1 here, accepted⟩

theorem not_veiled_of_missing (resolved : L.resolve o name = .ok none) : ¬ L.Veiled o name := by
  rintro ⟨e, g, again, -⟩
  rw [resolved] at again
  cases again

/-- An instance takes a call from outside exactly when it claims to, unless the name is veiled; then
    it claims to, and refuses the call as private. -/
theorem respondsTo_iff_taken_iff_not_veiled {L : Ledger} {o : Instance} (h : Reachable L)
    (isClass : L.isClass o.cls = true) (name : String) (args : List Value) :
    ((L.respondsTo o name false = .ok true ↔ Taken (L.call o name args)) ↔ ¬ L.Veiled o name) ∧
      (L.Veiled o name → L.respondsTo o name false = .ok true ∧
        L.call o name args = .error (.privateMethod (L.describe o.cls) name)) := by
  obtain ⟨found, resolved⟩ := h.sound.exists_resolve isClass name
  obtain ⟨handler, handled, nearest⟩ := h.sound.exists_handlerFor isClass
  cases found with
  | none =>
    have plain := not_veiled_of_missing resolved
    exact ⟨iff_of_true (missing_agree resolved handled) plain, fun veiled => absurd veiled plain⟩
  | some e =>
    rw [veiled_iff resolved nearest]
    cases visible : e.isPublic with
    | true =>
      have admitted : (false || e.isPublic) = true := visible
      obtain ⟨answer, taken⟩ := admitted_agree resolved handled admitted args
      exact ⟨iff_of_true (iff_of_true answer taken) nofun, nofun⟩
    | false =>
      have barred : (false || e.isPublic) = false := visible
      have refused : L.call o name args = .error (.privateMethod (L.describe o.cls) name) := by
        rw [call, deliver_found resolved, answerOf_refused barred]
      have untaken := unanswered_not_taken (f := .privateMethod (L.describe o.cls) name) rfl
      rw [respondsTo_eq resolved handled, refused, Option.any_some, barred, Bool.false_or]
      cases handler.any (·.accepts name false) with
      | true => simp [untaken]
      | false => simp [untaken]

def vaultEvents : List Event :=
  [.operation (.defineClass { name := "Vault", methods :=
      [{ name := "open", visibility := .priv }] }),
    .operation (.setHandler 1 { accepts := fun _ _ => true, reply := fun name _ => .str name })]

/-- A class with one private method and a handler that takes every name. -/
def vault : Ledger := (∅ : Ledger).afterAll vaultEvents

theorem reachable_vault : Reachable vault := Reachable.empty.afterAll vaultEvents

theorem respondsTo_iff_taken_iff_not_veiled_vault :
    Reachable vault ∧ vault.isClass 1 = true ∧
      ((vault.respondsTo { cls := 1 } "open" false = .ok true ↔
          Taken (vault.call { cls := 1 } "open" [])) ↔ ¬ vault.Veiled { cls := 1 } "open") ∧
      (vault.Veiled { cls := 1 } "open" →
        vault.respondsTo { cls := 1 } "open" false = .ok true ∧
          vault.call { cls := 1 } "open" [] = .error (.privateMethod (vault.describe 1) "open")) :=
  ⟨reachable_vault, rfl,
    respondsTo_iff_taken_iff_not_veiled (o := { cls := 1 }) reachable_vault rfl "open" []⟩

/-- The vault claims to answer to `open`, and refuses the call. -/
theorem vault_respondsTo_not_taken :
    Reachable vault ∧ vault.isClass 1 = true ∧
      vault.respondsTo { cls := 1 } "open" false = .ok true ∧
      ¬ Taken (vault.call { cls := 1 } "open" []) := by
  have answer : vault.respondsTo { cls := 1 } "open" false = .ok true := by cbv
  have refused : vault.call { cls := 1 } "open" [] = .error (.privateMethod "Vault" "open") := by
    cbv
  refine ⟨reachable_vault, rfl, answer, ?_⟩
  rw [refused]
  exact unanswered_not_taken rfl

end Ledger

end InterfaceLedger
