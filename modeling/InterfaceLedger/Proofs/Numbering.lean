import InterfaceLedger.Proofs.Lockstep

/-!
The numbers of symbols cannot be observed. A run of a session that refers to classes and modules by
their names, and another one in which texts are interned on the side here and there, give the same
outcomes command by command, up to twins. Two sessions keep step if their ledgers mirror each other
and their shelves hold instances that stand for each other; every command keeps this, and so does a
text on the side.
-/
namespace InterfaceLedger

def Ledger.entityNamed (L : Ledger) (x : String) : Except String Symbol :=
  match L.entity? x with
  | some s => .ok s
  | none => .error x

/-- All commands but the question whether a text has a symbol, which texts on the side do change,
    and the listing, which shows everything in the order of the numbers. -/
def Command.isNumberless {ρ : Type} : Command ρ → Bool
  | .ask (.textSymbol _) => false
  | .ask .listing => false
  | _ => true

inductive Step where
  | asked (c : Command String)
  | aside (text : String)

def Step.isAsked : Step → Bool
  | asked _ => true
  | aside _ => false

/-- What the commands of a run come to, each with the session that it leaves. -/
def Session.trace (S : Session Ledger) : List Step → Option (List (Outcome × Session Ledger))
  | [] => some []
  | .asked c :: rest => do
    let (outcome, T) ← S.exec Ledger.entityNamed 0 c
    return (outcome, T) :: (← T.trace rest)
  | .aside x :: rest => do
    let (_, T) ← S.exec Ledger.entityNamed 0 (.change (.intern x))
    T.trace rest

/-- The outcomes are alike when every symbol is matched with the one of the same kind and name. -/
def Corresponds (p q : Outcome × Session Ledger) : Prop :=
  ∃ L M, p.2.machines = [L] ∧ q.2.machines = [M] ∧ p.1.Like (L.Twin M) q.1

namespace Ledger

variable {L M : Ledger} {o o' : Instance}

theorem SameInstance.after_left (h : SameInstance L M o o') (e : Event) :
    SameInstance (L.after e) M o o' where
  home := h.home.later e
  home' := h.home'
  like := h.like.mono fun _ _ twin => twin.edits (h.home.reachable.named.after_edits e) .refl

theorem SameInstance.after_right (h : SameInstance L M o o') (e : Event) :
    SameInstance L (M.after e) o o' where
  home := h.home
  home' := h.home'.later e
  like := h.like.mono fun _ _ twin => twin.edits .refl (h.home'.reachable.named.after_edits e)

theorem Mirror.instantiate {s t : Symbol} (h : Mirror L M) (reachable : Reachable L)
    (reachable' : Reachable M) (twin : Twin L M s t) :
    ExceptRel (SameInstance L M) (L.instantiate s) (M.instantiate t) := by
  have records := h.classAt twin
  cases made : L.instantiate s with
  | ok o =>
    obtain ⟨⟨c, found⟩, rfl⟩ := instantiate_eq_ok_iff.1 made
    rw [found] at records
    generalize found' : M.classAt t = y at records
    cases records with
    | ok _ =>
      have made' := instantiate_eq_ok_iff.2 ⟨⟨_, found'⟩, rfl⟩
      rw [made']
      exact .ok ⟨.made reachable made, .made reachable' made', twin, .empty⟩
  | error f =>
    rw [Ledger.instantiate] at made ⊢
    generalize L.classAt s = x, M.classAt t = y at records made
    cases records with
    | ok _ => cases made
    | error g =>
      cases made
      exact .error f

theorem SameInstance.addSingleton (h : Mirror L M) (same : SameInstance L M o o') (m : MethodDecl) :
    SameInstance (L.addSingleton o m).2 (M.addSingleton o' m).2 (L.addSingleton o m).1
      (M.addSingleton o' m).1 where
  home := same.home.extended m
  home' := same.home'.extended m
  like := by
    have later := (same.after_left (.singleton o m)).after_right (.singleton o' m)
    have entry := m.like_toEntry (twin_intern L M m.name) .singleton
    have interned := h.intern m.name
    exact ⟨later.like.cls,
      later.like.own.insert interned.unique entry⟩

theorem Mirror.entityNamed (h : Mirror L M) (x : String) :
    ExceptRel (Twin L M) (L.entityNamed x) (M.entityNamed x) := by
  have entities := h.entity? x
  rw [Ledger.entityNamed, Ledger.entityNamed]
  generalize L.entity? x = y, M.entity? x = z at entities
  cases entities with
  | none => exact .error x
  | some twin => exact .ok twin

end Ledger

section Refs

variable {R : Symbol → Symbol → Prop} {f g : String → Except String Symbol}
  (refs : ∀ x, ExceptRel R (f x) (g x))

include refs

theorem mapM_like (l : List String) : ExceptRel (List.Forall₂ R) (l.mapM f) (l.mapM g) := by
  induction l with
  | nil => exact .ok .nil
  | cons x rest ih =>
    rw [List.mapM_cons, List.mapM_cons]
    apply (refs x).bind
    intro s t first
    apply ih.bind
    intro l l' tail
    exact .ok (.cons first tail)

theorem Operation.like_mapRefs (op : Operation String) :
    ExceptRel (Operation.Like R) (op.mapRefs f) (op.mapRefs g) := by
  cases op with
  | intern x => exact .ok (.intern x)
  | defineClass d => exact .ok (.defineClass d)
  | defineModule d => exact .ok (.defineModule d)
  | defineMethod c m => exact (refs c).bind fun _ _ cls => .ok (.defineMethod cls m)
  | removeMethod c x => exact (refs c).bind fun _ _ cls => .ok (.removeMethod cls x)
  | extendModule c m => exact (refs c).bind fun _ _ mod => .ok (.extendModule mod m)
  | mark c => exact (refs c).bind fun _ _ mod => .ok (.mark mod)
  | setHandler c h => exact (refs c).bind fun _ _ cls => .ok (.setHandler cls h)
  | clearHandler c => exact (refs c).bind fun _ _ cls => .ok (.clearHandler cls)
  | declare c ms =>
    apply (refs c).bind
    intro s t cls
    exact (mapM_like refs ms).bind fun _ _ mods => .ok (.declare cls mods)

theorem Question.like_mapRefs {q : Question String} (numberless : (Command.ask q).isNumberless) :
    ExceptRel (Question.Like R) (q.mapRefs f) (q.mapRefs g) := by
  cases q with
  | textSymbol => cases numberless
  | listing => cases numberless
  | entity x => exact .ok (.entity x)
  | nameOf s => exact (refs s).bind fun _ _ h => .ok (.nameOf h)
  | isClass s => exact (refs s).bind fun _ _ h => .ok (.isClass h)
  | isModule s => exact (refs s).bind fun _ _ h => .ok (.isModule h)
  | isInterface s => exact (refs s).bind fun _ _ h => .ok (.isInterface h)
  | classAt s => exact (refs s).bind fun _ _ h => .ok (.classAt h)
  | moduleAt s => exact (refs s).bind fun _ _ h => .ok (.moduleAt h)
  | ancestors c => exact (refs c).bind fun _ _ h => .ok (.ancestors h)
  | interfaces c => exact (refs c).bind fun _ _ h => .ok (.interfaces h)
  | gap c i =>
    apply (refs c).bind
    intro s t h
    exact (refs i).bind fun _ _ face => .ok (.gap h face)
  | gaps c => exact (refs c).bind fun _ _ h => .ok (.gaps h)
  | classResolve c x => exact (refs c).bind fun _ _ h => .ok (.classResolve h x)

theorem InstanceQuestion.like_mapRefs (q : InstanceQuestion String) :
    ExceptRel (InstanceQuestion.Like R) (q.mapRefs f) (q.mapRefs g) := by
  cases q with
  | self => exact .ok .self
  | gap i => exact (refs i).bind fun _ _ face => .ok (.gap face)
  | gaps => exact .ok .gaps
  | resolve x => exact .ok (.resolve x)
  | respondsTo x inside => exact .ok (.respondsTo x inside)
  | call x args => exact .ok (.call x args)
  | send x args => exact .ok (.send x args)

end Refs

theorem Outcome.like_ofExcept {R : Symbol → Symbol → Prop} {x y : Except Fault Answer}
    (h : ExceptRel (Answer.Like R) x y) : (Outcome.ofExcept x).Like R (Outcome.ofExcept y) := by
  cases h with
  | ok like => exact .answered like
  | error f => exact .refused f

namespace Session

open Ledger

variable {S T : Session Ledger} {L M : Ledger} {shelf : String}

structure SamePlace (L M : Ledger) (p q : String × Instance) : Prop where
  label : q.1 = p.1
  same : SameInstance L M p.2 q.2

structure InStep (S T : Session Ledger) (L M : Ledger) : Prop where
  ledger : S.machines = [L]
  ledger' : T.machines = [M]
  reachable : Reachable L
  reachable' : Reachable M
  mirror : Mirror L M
  shelf : List.Forall₂ (SamePlace L M) S.instances T.instances

theorem inStep_start : InStep (start 1) (start 1) ∅ ∅ where
  ledger := rfl
  ledger' := rfl
  reachable := .empty
  reachable' := .empty
  mirror := mirror_empty Reachable.empty.sound
  shelf := .nil

theorem InStep.find? (h : InStep S T L M) (shelf : String) :
    Option.Rel (SameInstance L M) (S.find? shelf) (T.find? shelf) := by
  have places := h.shelf
  rw [Session.find?, Session.find?]
  generalize S.instances = l, T.instances = m at places
  induction places with
  | nil => exact .none
  | @cons p q l m first _ ih =>
    rw [List.lookup_cons, List.lookup_cons, first.label]
    cases shelf == p.1 with
    | true => exact .some first.same
    | false => exact ih

theorem InStep.keep (h : InStep S T L M) {o o' : Instance} (same : SameInstance L M o o')
    (shelf : String) : InStep (S.keep shelf o) (T.keep shelf o') L M :=
  { h with
    shelf := .cons ⟨rfl, same⟩ (forall₂_filter (fun _ _ place => by rw [place.label]) h.shelf) }

theorem InStep.after (h : InStep S T L M) (e e' : Event)
    (mirror : Mirror (L.after e) (M.after e')) :
    InStep (S.setMachine 0 (L.after e)) (T.setMachine 0 (M.after e')) (L.after e) (M.after e') where
  ledger := by rw [setMachine, h.ledger]; rfl
  ledger' := by rw [setMachine, h.ledger']; rfl
  reachable := h.reachable.step e
  reachable' := h.reachable'.step e'
  mirror := mirror
  shelf := h.shelf.imp fun _ _ place =>
    ⟨place.label, (place.same.after_left e).after_right e'⟩

theorem InStep.aside (h : InStep S T L M) (x : String) :
    InStep S (T.setMachine 0 (M.intern x).2) L (M.intern x).2 where
  ledger := h.ledger
  ledger' := by rw [setMachine, h.ledger']; rfl
  reachable := h.reachable
  reachable' := h.reachable'.step (.operation (.intern x))
  mirror := h.mirror.textsAdded (.refl L) (textsAdded_intern M x)
  shelf := h.shelf.imp fun _ _ place =>
    ⟨place.label, place.same.after_right (.operation (.intern x))⟩

def Paired (p q : Outcome × Session Ledger) : Prop :=
  ∃ L M, InStep p.2 q.2 L M ∧ p.1.Like (Twin L M) q.1

theorem InStep.change (h : InStep S T L M) {op op' : Operation Symbol} {L' M' : Ledger}
    (left : L.after (.operation op) = L') (right : M.after (.operation op') = M')
    (mirror : Mirror L' M') : InStep (S.setMachine 0 L') (T.setMachine 0 M') L' M' := by
  subst left right
  exact h.after (.operation op) (.operation op') mirror

theorem InStep.execOn (h : InStep S T L M) {c : Command String} (numberless : c.isNumberless) :
    ExceptRel Paired (S.execOn entityNamed 0 L c) (T.execOn entityNamed 0 M c) := by
  have refs := h.mirror.entityNamed
  cases c with
  | change op =>
    apply (Operation.like_mapRefs refs op).bind
    intro op op' like
    have results := h.mirror.run like
    have left := after_eq_resulting L op
    have right := after_eq_resulting M op'
    dsimp only [Machine.run]
    generalize op.run L = x, op'.run M = y at results left right
    cases results with
    | ok mirror answer => exact .ok ⟨_, _, h.change left right mirror, .answered answer⟩
    | error mirror f => exact .ok ⟨_, _, h.change left right mirror, .refused f⟩
  | ask q =>
    apply (Question.like_mapRefs refs numberless).bind
    intro q q' like
    exact .ok ⟨L, M, h, Outcome.like_ofExcept (h.mirror.ask like)⟩
  | instantiate c shelf =>
    apply (refs c).bind
    intro s t twin
    have made := h.mirror.instantiate h.reachable h.reachable' twin
    dsimp only [Machine.instantiate]
    generalize L.instantiate s = x, M.instantiate t = y at made
    cases made with
    | ok same => exact .ok ⟨L, M, h.keep same shelf, .answered (.symbol same.like.cls)⟩
    | error f => exact .ok ⟨L, M, h, .refused f⟩
  | addSingleton shelf m =>
    have here := h.find? shelf
    rw [Session.execOn, Session.execOn]
    generalize S.find? shelf = x, T.find? shelf = y at here
    cases here with
    | none => exact .error shelf
    | @some o o' same =>
      have interned := h.after (.singleton o m) (.singleton o' m) (h.mirror.intern m.name)
      exact .ok ⟨_, _, interned.keep (SameInstance.addSingleton h.mirror same m) shelf,
        .answered .done⟩
  | askInstance shelf q =>
    have here := h.find? shelf
    rw [Session.execOn, Session.execOn]
    generalize S.find? shelf = x, T.find? shelf = y at here
    cases here with
    | none => exact .error shelf
    | some same =>
      apply (InstanceQuestion.like_mapRefs refs q).bind
      intro q q' like
      exact .ok ⟨L, M, h, Outcome.like_ofExcept (h.mirror.askInstance same like)⟩

theorem InStep.exec (h : InStep S T L M) {c : Command String} (numberless : c.isNumberless) :
    ∃ p q, S.exec entityNamed 0 c = some p ∧ T.exec entityNamed 0 c = some q ∧ Paired p q := by
  have results := h.execOn numberless
  rw [Session.exec, Session.exec, h.ledger, h.ledger']
  dsimp only [List.getElem?_cons_zero, Option.map_some]
  generalize S.execOn entityNamed 0 L c = x, T.execOn entityNamed 0 M c = y at results
  cases results with
  | ok paired => exact ⟨_, _, rfl, rfl, paired⟩
  | error x => exact ⟨_, _, rfl, rfl, L, M, h, .unresolved x⟩

theorem InStep.exec_aside (h : InStep S T L M) (x : String) :
    ∃ outcome T' M', T.exec entityNamed 0 (.change (.intern x)) = some (outcome, T') ∧
      InStep S T' L M' := by
  refine ⟨.answered (.symbol (M.intern x).1), _, _, ?_, h.aside x⟩
  rw [Session.exec, h.ledger']
  rfl

theorem InStep.trace (h : InStep S T L M) (steps : List Step)
    (numberless : ∀ c, Step.asked c ∈ steps → c.isNumberless = true) :
    ∃ t u, S.trace (steps.filter Step.isAsked) = some t ∧ T.trace steps = some u ∧
      List.Forall₂ Corresponds t u := by
  induction steps generalizing S T L M with
  | nil => exact ⟨[], [], rfl, rfl, .nil⟩
  | cons step rest ih =>
    have others := fun c mem => numberless c (List.mem_cons_of_mem step mem)
    cases step with
    | aside x =>
      obtain ⟨outcome, T', M', ran, inStep⟩ := h.exec_aside x
      -- only the second session moves, and the trace of the first is that of the rest
      obtain ⟨t, u, first, second, like⟩ := ih inStep others
      refine ⟨t, u, first, ?_, like⟩
      rw [Session.trace, ran]
      exact second
    | asked c =>
      obtain ⟨p, q, ran, ran', L', M', inStep, outcomes⟩ :=
        h.exec (numberless c List.mem_cons_self)
      obtain ⟨t, u, first, second, like⟩ := ih inStep others
      refine ⟨p :: t, q :: u, ?_, ?_, .cons ⟨L', M', inStep.ledger, inStep.ledger', outcomes⟩ like⟩
      · change Session.trace S (.asked c :: rest.filter Step.isAsked) = _
        rw [Session.trace, ran]
        change (Session.trace p.2 _).bind (fun l => some (p :: l)) = _
        rw [first]
        rfl
      · rw [Session.trace, ran']
        change (Session.trace q.2 rest).bind (fun l => some (q :: l)) = _
        rw [second]
        rfl

/-- Take a run from an empty ledger that refers to classes and modules by name, and the same run
    with texts interned on the side at any points. Every command comes to the same on both sides, up to
    symbols, and these stand for something of the same kind and the same name. -/
theorem numbering_is_unobservable (steps : List Step)
    (numberless : ∀ c, Step.asked c ∈ steps → c.isNumberless = true) :
    ∃ t u, (start 1).trace (steps.filter Step.isAsked) = some t ∧ (start 1).trace steps = some u ∧
      List.Forall₂ Corresponds t u :=
  inStep_start.trace steps numberless

def tour : List Step :=
  [.aside "socket",
    .asked (.change (.defineModule { name := "Remote", methods :=
      [{ name := "on" }, { name := "off" }] })),
    .asked (.change (.defineClass { name := "Lamp", methods := [{ name := "on" }] })),
    .aside "dim",
    .asked (.change (.removeMethod "Lamp" "dim")),
    .asked (.change (.declare "Lamp" ["Remote"])),
    .asked (.ask (.gaps "Lamp"))]

theorem numbering_is_unobservable_tour :
    (∀ c, Step.asked c ∈ tour → c.isNumberless = true) ∧
      ∃ t u, (start 1).trace (tour.filter Step.isAsked) = some t ∧ (start 1).trace tour = some u ∧
        List.Forall₂ Corresponds t u ∧
        t.getLast?.map Prod.fst = some (.answered (.gaps [(1, ["off"])])) ∧
        u.getLast?.map Prod.fst = some (.answered (.gaps [(2, ["off"])])) := by
  have numberless : ∀ c, Step.asked c ∈ tour → c.isNumberless = true := by
    simp [tour, Command.isNumberless]
  have plain : ((start 1).trace (tour.filter Step.isAsked)).map (·.getLast?.map Prod.fst) =
      some (some (.answered (.gaps [(1, ["off"])]))) := by cbv
  have mixed : ((start 1).trace tour).map (·.getLast?.map Prod.fst) =
      some (some (.answered (.gaps [(2, ["off"])]))) := by cbv
  obtain ⟨t, u, first, second, like⟩ := numbering_is_unobservable tour numberless
  rw [first] at plain
  rw [second] at mixed
  exact ⟨numberless, t, u, first, second, like, Option.some.inj plain, Option.some.inj mixed⟩

end Session

end InterfaceLedger
