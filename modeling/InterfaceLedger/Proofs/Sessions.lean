import InterfaceLedger.Session
import InterfaceLedger.Proofs.Refinement

/-!
Sessions of registries and sessions of ledgers. The commands are carried out by registries; what they
come to is what they come to on ledgers, command by command, wherever the names in a command mean the
same symbols on both sides.
-/
namespace InterfaceLedger

namespace Session

open Registry

variable {ρ : Type} {S : Session Registry} {T : Session Ledger} {R : Registry} {L : Ledger} {i : Nat}
  {find : Registry → ρ → Except String Symbol} {find' : Ledger → ρ → Except String Symbol}

structure Realizes (S : Session Registry) (T : Session Ledger) : Prop where
  machines : ∀ i : Nat, Option.Rel Represents S.machines[i]? T.machines[i]?
  instances : S.instances = T.instances

theorem realizes_start (n : Nat) : Realizes (start n) (start n) where
  machines i := by
    rw [start, start, List.getElem?_replicate, List.getElem?_replicate]
    split
    · exact .some represents_empty
    · exact .none
  instances := rfl

theorem Realizes.find? (h : Realizes S T) (shelf : String) : S.find? shelf = T.find? shelf := by
  rw [Session.find?, h.instances, Session.find?]

theorem Realizes.keep (h : Realizes S T) (shelf : String) (o : Instance) :
    Realizes (S.keep shelf o) (T.keep shelf o) where
  machines := h.machines
  instances := by rw [Session.keep, h.instances, Session.keep]

theorem Realizes.setMachine (h : Realizes S T) (i : Nat) (rep : Represents R L) :
    Realizes (S.setMachine i R) (T.setMachine i L) where
  machines j := by
    have here := h.machines j
    rw [Session.setMachine, Session.setMachine]
    by_cases same : i = j
    · subst same
      rw [List.getElem?_set_self', List.getElem?_set_self']
      generalize S.machines[i]? = x, T.machines[i]? = y at here
      cases here with
      | none => exact .none
      | some _ => exact .some rep
    · rw [List.getElem?_set_ne same, List.getElem?_set_ne same]
      exact here
  instances := h.instances

structure SameOutcome (p : Outcome × Session Registry) (q : Outcome × Session Ledger) : Prop where
  outcome : p.1 = q.1
  rest : Realizes p.2 q.2

inductive Together : Except String (Outcome × Session Registry) →
    Except String (Outcome × Session Ledger) → Prop where
  | done {p q} (h : SameOutcome p q) : Together (.ok p) (.ok q)
  | missed (x : String) : Together (.error x) (.error x)

theorem Realizes.execOn (h : Realizes S T) (rep : Represents R L) (i : Nat) (c : Command ρ)
    (same : find R = find' L) : Together (S.execOn find i R c) (T.execOn find' i L c) := by
  cases c with
  | change op =>
    rw [Session.execOn, Session.execOn, same]
    cases op.mapRefs (find' L) with
    | error x => exact .missed x
    | ok op =>
      have agree := refines_run op R L rep
      dsimp only [Machine.run, bind, Except.bind]
      generalize Registry.run op R = left, op.run L = right at agree
      cases agree with
      | ok a rep => exact .done ⟨rfl, h.setMachine i rep⟩
      | error f rep => exact .done ⟨rfl, h.setMachine i rep⟩
  | ask q =>
    rw [Session.execOn, Session.execOn, same]
    cases q.mapRefs (find' L) with
    | error x => exact .missed x
    | ok q => exact .done ⟨congrArg Outcome.ofExcept (rep.answer q), h⟩
  | instantiate c shelf =>
    rw [Session.execOn, Session.execOn, same]
    cases find' L c with
    | error x => exact .missed x
    | ok s =>
      have made := rep.instantiate s
      dsimp only [Machine.instantiate, bind, Except.bind]
      rw [made]
      cases L.instantiate s with
      | ok o => exact .done ⟨rfl, h.keep shelf o⟩
      | error f => exact .done ⟨rfl, h⟩
  | addSingleton shelf m =>
    rw [Session.execOn, Session.execOn, h.find?]
    cases T.find? shelf with
    | none => exact .missed shelf
    | some o =>
      obtain ⟨extended, rep⟩ := rep.addSingleton o m
      have kept :
          Realizes ((S.setMachine i (R.addSingleton o m).2).keep shelf (R.addSingleton o m).1)
            ((T.setMachine i (L.addSingleton o m).2).keep shelf (L.addSingleton o m).1) := by
        rw [extended]
        exact (h.setMachine i rep).keep shelf _
      exact .done ⟨rfl, kept⟩
  | askInstance shelf q =>
    rw [Session.execOn, Session.execOn, h.find?, same]
    cases T.find? shelf with
    | none => exact .missed shelf
    | some o =>
      cases q.mapRefs (find' L) with
      | error x => exact .missed x
      | ok q => exact .done ⟨by simp [Machine.answerFor, rep.row_eq], h⟩

theorem Realizes.exec (h : Realizes S T) (same : ∀ {R L}, Represents R L → find R = find' L) (i : Nat)
    (c : Command ρ) : Option.Rel SameOutcome (S.exec find i c) (T.exec find' i c) := by
  have here := h.machines i
  rw [Session.exec, Session.exec]
  generalize S.machines[i]? = x, T.machines[i]? = y at here
  cases here with
  | none => exact .none
  | @some R L rep =>
    have together := h.execOn rep i c (same rep)
    simp only [Option.map_some]
    generalize S.execOn find i R c = x, T.execOn find' i L c = y at together
    cases together with
    | done outcome => exact .some outcome
    | missed x => exact .some ⟨rfl, h⟩

def outcomes {Λ : Type} [Machine Λ] (find : Λ → ρ → Except String Symbol) (S : Session Λ) :
    List (Nat × Command ρ) → Option (List Outcome)
  | [] => some []
  | (i, c) :: rest => do
    let (outcome, S) ← S.exec find i c
    return outcome :: (← S.outcomes find rest)

theorem Realizes.outcomes (h : Realizes S T) (same : ∀ {R L}, Represents R L → find R = find' L)
    (commands : List (Nat × Command ρ)) :
    S.outcomes find commands = T.outcomes find' commands := by
  induction commands generalizing S T with
  | nil => rfl
  | cons command rest ih =>
    obtain ⟨i, c⟩ := command
    have first := h.exec same i c
    rw [Session.outcomes, Session.outcomes]
    generalize S.exec find i c = x, T.exec find' i c = y at first
    cases first with
    | none => rfl
    | @some p q pair =>
      change (Session.outcomes find p.2 rest).bind _ = (Session.outcomes find' q.2 rest).bind _
      rw [ih pair.rest, pair.outcome]

theorem find_eq (rep : Represents R L) : Ref.find R = Ref.find L := by
  funext r
  cases r with
  | symbol s => rfl
  | name x =>
    simp only [Ref.find, Machine.entity?, Machine.textSymbol?]
    rw [rep.entities, rep.texts]

/-- Commands that refer to classes and modules by symbol or by name come to the same, whether it is
    registries that carry them out or ledgers. -/
theorem registries_answer_as_ledgers (n : Nat) (commands : List (Nat × Command Ref)) :
    (start n : Session Registry).outcomes Ref.find commands =
      (start n : Session Ledger).outcomes Ref.find commands :=
  (realizes_start n).outcomes find_eq commands

end Session

end InterfaceLedger
