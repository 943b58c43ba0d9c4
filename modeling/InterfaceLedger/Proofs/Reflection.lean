import InterfaceLedger.Proofs.Calls
import InterfaceLedger.Proofs.Gaps
import InterfaceLedger.Proofs.Mirror
import InterfaceLedger.Proofs.Resolution

/-!
Questions to mirrored ledgers. Asked about twins, two ledgers that mirror each other give the same
answers up to twins, and where the answer has no symbols in it, just the same one. The walks are
alike link by link and the tables entry by entry; a name is looked for by itself and not by its
symbol, so it makes no difference that only one side may have met it.
-/
namespace InterfaceLedger

/-- The same question about related symbols. The symbol of a text and the listing are left out: the
    one tells whether a text has been met, the other goes through the symbols by their numbers. -/
inductive Question.Like (R : Symbol → Symbol → Prop) : Question Symbol → Question Symbol → Prop
  | entity (x : String) : Like R (.entity x) (.entity x)
  | nameOf {s t : Symbol} (h : R s t) : Like R (.nameOf s) (.nameOf t)
  | isClass {s t : Symbol} (h : R s t) : Like R (.isClass s) (.isClass t)
  | isModule {s t : Symbol} (h : R s t) : Like R (.isModule s) (.isModule t)
  | isInterface {s t : Symbol} (h : R s t) : Like R (.isInterface s) (.isInterface t)
  | classAt {s t : Symbol} (h : R s t) : Like R (.classAt s) (.classAt t)
  | moduleAt {s t : Symbol} (h : R s t) : Like R (.moduleAt s) (.moduleAt t)
  | ancestors {s t : Symbol} (h : R s t) : Like R (.ancestors s) (.ancestors t)
  | interfaces {s t : Symbol} (h : R s t) : Like R (.interfaces s) (.interfaces t)
  | gap {s t i j : Symbol} (h : R s t) (face : R i j) : Like R (.gap s i) (.gap t j)
  | gaps {s t : Symbol} (h : R s t) : Like R (.gaps s) (.gaps t)
  | classResolve {s t : Symbol} (h : R s t) (x : String) :
      Like R (.classResolve s x) (.classResolve t x)

inductive InstanceQuestion.Like (R : Symbol → Symbol → Prop) :
    InstanceQuestion Symbol → InstanceQuestion Symbol → Prop
  | self : Like R .self .self
  | gap {i j : Symbol} (face : R i j) : Like R (.gap i) (.gap j)
  | gaps : Like R .gaps .gaps
  | resolve (x : String) : Like R (.resolve x) (.resolve x)
  | respondsTo (x : String) (inside : Bool) : Like R (.respondsTo x inside) (.respondsTo x inside)
  | call (x : String) (args : List Value) : Like R (.call x args) (.call x args)
  | send (x : String) (args : List Value) : Like R (.send x args) (.send x args)

namespace Ledger

variable {L M : Ledger} {s t face face' : Symbol} {chain : List (Symbol × ClassRecord)}
  {own own' : MethodTable} {owners owners' : List Owner} {handler : Option Handler} {name : String}

theorem Twin.lt_size (h : Twin L M s t) : s < L.size ∧ t < M.size := by
  obtain ⟨l, left, right⟩ := h
  exact ⟨lt_size_of_label left, lt_size_of_label right⟩

theorem Twin.exists_refusal (twin : Twin L M s t) (other : L.isClass s = false) :
    ∃ f, L.classAt s = .error f ∧ M.classAt t = .error f := by
  refine ⟨.notAClass (L.describe s), classAt_of_other twin.lt_size.1 other, ?_⟩
  rw [classAt_of_other twin.lt_size.2 (twin.isClass.trans other), twin.describe]

theorem Mirror.classAt (h : Mirror L M) (twin : Twin L M s t) :
    ExceptRel (ClassRecord.Like (Twin L M)) (L.classAt s) (M.classAt t) := by
  have records := h.classes twin
  cases kind : L.isClass s with
  | true =>
    obtain ⟨c, found⟩ := isClass_iff.1 kind
    obtain ⟨d, found'⟩ := isClass_iff.1 (twin.isClass.trans kind)
    rw [found, found'] at records
    rw [classAt_eq_ok_iff.2 found, classAt_eq_ok_iff.2 found']
    cases records with
    | some like => exact .ok like
  | false =>
    obtain ⟨f, bad, bad'⟩ := twin.exists_refusal kind
    rw [bad, bad']
    exact .error f

theorem Mirror.moduleAt (h : Mirror L M) (twin : Twin L M s t) :
    ExceptRel (ModuleRecord.Like (Twin L M)) (L.moduleAt s) (M.moduleAt t) := by
  have records := h.modules twin
  cases kind : L.isModule s with
  | true =>
    obtain ⟨m, found⟩ := isModule_iff.1 kind
    obtain ⟨n, found'⟩ := isModule_iff.1 (twin.isModule.trans kind)
    rw [found, found'] at records
    rw [moduleAt_eq_ok_iff.2 found, moduleAt_eq_ok_iff.2 found']
    cases records with
    | some like => exact .ok like
  | false =>
    rw [moduleAt_of_other twin.lt_size.1 kind,
      moduleAt_of_other twin.lt_size.2 (twin.isModule.trans kind), twin.describe]
    exact .error _

theorem isInterface_eq (L : Ledger) (s : Symbol) :
    L.isInterface s = (L.moduleAt? s).any ModuleRecord.isInterface := by
  rw [isInterface, moduleAt?]
  rcases L.bindings[s]? with _ | (_ | _ | _) <;> rfl

theorem Mirror.isInterface (h : Mirror L M) (twin : Twin L M s t) :
    M.isInterface t = L.isInterface s := by
  rw [isInterface_eq, isInterface_eq]
  apply optionRel_any _ (h.modules twin)
  intro m n like
  rw [ModuleRecord.isInterface, ModuleRecord.isInterface, like.role]

theorem Mirror.tableOf (h : Mirror L M) {o o' : Owner} (owner : o.Like (Twin L M) o') :
    (L.tableOf o).Like (Twin L M) (M.tableOf o') := by
  cases owner with
  | @ofClass s t twin =>
    have records := h.classes twin
    rw [tableOf_ofClass, tableOf_ofClass]
    generalize L.classAt? s = x, M.classAt? t = y at records
    cases records with
    | none => exact .empty
    | some like => exact like.table
  | @ofModule s t twin =>
    have records := h.modules twin
    rw [tableOf_ofModule, tableOf_ofModule]
    generalize L.moduleAt? s = x, M.moduleAt? t = y at records
    cases records with
    | none => exact .empty
    | some like => exact like.table
  | singleton => exact .empty

structure Link.Like (R : Symbol → Symbol → Prop) (p p' : Symbol × ClassRecord) : Prop where
  place : R p.1 p'.1
  record : p.2.Like R p'.2

theorem Link.Like.forall₂_ownersOf {R : Symbol → Symbol → Prop} {p p' : Symbol × ClassRecord}
    (h : Link.Like R p p') : List.Forall₂ (Owner.Like R) (ownersOf p) (ownersOf p') :=
  .cons (.ofClass h.place) (List.rel_map (fun _ _ mod => .ofModule mod) h.record.includes)

theorem Mirror.lineage (h : Mirror L M) (walk : Lineage L s chain) (twin : Twin L M s t) :
    ∃ chain', Lineage M t chain' ∧ List.Forall₂ (Link.Like (Twin L M)) chain chain' := by
  induction walk generalizing t with
  | @root s c found top =>
    have records := h.classes twin
    rw [found] at records
    generalize found' : M.classAt? t = y at records
    cases records with
    | @some _ d like =>
      have parent := like.parent
      rw [top] at parent
      generalize top' : d.parent = z at parent
      cases parent
      exact ⟨_, .root found' top', .cons ⟨twin, like⟩ .nil⟩
  | @step s p c rest found super tail ih =>
    have records := h.classes twin
    rw [found] at records
    generalize found' : M.classAt? t = y at records
    cases records with
    | @some _ d like =>
      have parent := like.parent
      rw [super] at parent
      generalize super' : d.parent = z at parent
      cases parent with
      | some above =>
        obtain ⟨rest', tail', links⟩ := ih above
        exact ⟨_, .step found' super' tail', .cons ⟨twin, like⟩ links⟩

structure SameWalks (L M : Ledger) (s t : Symbol) (owners owners' : List Owner)
    (handler : Option Handler) : Prop where
  ancestors : L.ancestors s = .ok owners
  ancestors' : M.ancestors t = .ok owners'
  owners : List.Forall₂ (Owner.Like (Twin L M)) owners owners'
  handled : L.handlerFor s = .ok handler
  handled' : M.handlerFor t = .ok handler

theorem Mirror.exists_walks (h : Mirror L M) (twin : Twin L M s t) (isClass : L.isClass s = true) :
    ∃ owners owners' handler, SameWalks L M s t owners owners' handler := by
  obtain ⟨chain, walk⟩ := h.left.named.exists_lineage isClass
  obtain ⟨chain', walk', links⟩ := h.lineage walk twin
  have handlers : chain'.findSome? (·.2.handler) = chain.findSome? (·.2.handler) := by
    apply forall₂_findSome?_eq _ links
    intro p p' link
    exact link.record.handler
  refine ⟨_, _, _, h.left.named.ancestors_eq walk, h.right.named.ancestors_eq walk', ?_,
    h.left.named.handlerFor_eq walk, ?_⟩
  · exact List.rel_flatMap links fun _ _ link => link.forall₂_ownersOf
  · rw [h.right.named.handlerFor_eq walk', handlers]

theorem Mirror.ancestors (h : Mirror L M) (twin : Twin L M s t) :
    ExceptRel (List.Forall₂ (Owner.Like (Twin L M))) (L.ancestors s) (M.ancestors t) := by
  cases kind : L.isClass s with
  | true =>
    obtain ⟨owners, owners', handler, walks⟩ := h.exists_walks twin kind
    rw [walks.ancestors, walks.ancestors']
    exact .ok walks.owners
  | false =>
    obtain ⟨f, bad, bad'⟩ := twin.exists_refusal kind
    rw [ancestors_of_error bad, ancestors_of_error bad']
    exact .error f

theorem Mirror.interfacesAmong (h : Mirror L M)
    (like : List.Forall₂ (Owner.Like (Twin L M)) owners owners') :
    List.Forall₂ (Twin L M) (L.interfacesAmong owners) (M.interfacesAmong owners') := by
  rw [Ledger.interfacesAmong, Ledger.interfacesAmong]
  apply forall₂_eraseDups h.unique
  apply List.rel_filterMap _ like
  intro o o' owner
  cases owner with
  | ofClass => exact .none
  | singleton => exact .none
  | @ofModule m n twin =>
    dsimp only
    rw [h.isInterface twin]
    cases L.isInterface m with
    | true => exact .some twin
    | false => exact .none

theorem Mirror.interfaces (h : Mirror L M) (twin : Twin L M s t) :
    ExceptRel (List.Forall₂ (Twin L M)) (L.interfaces s) (M.interfaces t) :=
  (h.ancestors twin).map fun _ _ like => h.interfacesAmong like

theorem isNamed_of_like {e e' : Entry} (like : e.Like (Twin L M) e') (name : String) :
    M.isNamed name e' = L.isNamed name e := by
  rw [isNamed, isNamed, like.name.nameOf?]

theorem Mirror.rows (h : Mirror L M) (like : List.Forall₂ (Owner.Like (Twin L M)) owners owners') :
    Row.Like (Twin L M) (L.rows owners) (M.rows owners') :=
  List.rel_flatMap like fun _ _ owner => h.tableOf owner

theorem find?_isNamed_of_like {row row' : List Entry} (like : Row.Like (Twin L M) row row')
    (name : String) :
    Option.Rel (Entry.Like (Twin L M)) (row.find? (L.isNamed name))
      (row'.find? (M.isNamed name)) := by
  apply forall₂_find? _ like
  intro e e' entry
  exact isNamed_of_like entry name

theorem Mirror.classResolve (h : Mirror L M) (twin : Twin L M s t) (name : String) :
    ExceptRel (Option.Rel (Entry.Like (Twin L M))) (L.classResolve s name)
      (M.classResolve t name) := by
  cases kind : L.isClass s with
  | true =>
    obtain ⟨owners, owners', handler, walks⟩ := h.exists_walks twin kind
    rw [h.left.classResolve_eq_find? walks.ancestors,
      h.right.classResolve_eq_find? walks.ancestors']
    exact .ok (find?_isNamed_of_like (h.rows walks.owners) name)
  | false =>
    obtain ⟨f, bad, bad'⟩ := twin.exists_refusal kind
    rw [classResolve_of_error bad, classResolve_of_error bad']
    exact .error f

theorem Mirror.hit (h : Mirror L M) (like : List.Forall₂ (Owner.Like (Twin L M)) owners owners')
    (twin : Twin L M s t) :
    Option.Rel (Entry.Like (Twin L M)) (L.hit owners s) (M.hit owners' t) := by
  apply forall₂_findSome? _ like
  intro o o' owner
  exact (h.tableOf owner).get? h.unique twin

theorem Mirror.lacks (h : Mirror L M) (like : List.Forall₂ (Owner.Like (Twin L M)) owners owners')
    (same : own.Like (Twin L M) own') (faces : Twin L M face face') (twin : Twin L M s t)
    (handler : Option Handler) :
    M.lacks owners' own' handler face' t = L.lacks owners own handler face s := by
  have found := optionRel_or (same.get? h.unique twin) (h.hit like twin)
  have overridden : ((own'.get? t).or (M.hit owners' t)).any (·.owner ≠ .ofModule face') =
      ((own.get? s).or (L.hit owners s)).any (·.owner ≠ .ofModule face) := by
    apply optionRel_any _ found
    intro e e' entry
    rw [decide_eq_decide]
    exact not_congr (Relator.rel_eq (owner_biUnique h.unique) entry.owner (.ofModule faces)).symm
  rw [Ledger.lacks, Ledger.lacks, overridden, twin.describe]

theorem Mirror.lacking (h : Mirror L M)
    (like : List.Forall₂ (Owner.Like (Twin L M)) owners owners') (same : own.Like (Twin L M) own')
    (faces : Twin L M face face') (handler : Option Handler) :
    M.lacking owners' own' handler face' = L.lacking owners own handler face := by
  have declared := (h.tableOf (.ofModule faces)).publicNames
  have agree : ∀ s t, Twin L M s t →
      M.lacks owners' own' handler face' t = L.lacks owners own handler face s := by
    intro s t twin
    exact h.lacks like same faces twin handler
  have kept := forall₂_filter agree declared
  rw [Ledger.lacking, Ledger.lacking, forall₂_map_eq (fun _ _ twin => twin.describe) kept]

theorem Mirror.gap (h : Mirror L M) (twin : Twin L M s t) (same : own.Like (Twin L M) own')
    (faces : Twin L M face face') : M.gap t own' face' = L.gap s own face := by
  cases interface : L.isInterface face with
  | true =>
    have interface' := (h.isInterface faces).trans interface
    cases kind : L.isClass s with
    | true =>
      obtain ⟨owners, owners', handler, walks⟩ := h.exists_walks twin kind
      rw [h.left.gap_eq interface walks.ancestors walks.handled,
        h.right.gap_eq interface' walks.ancestors' walks.handled',
        h.lacking walks.owners same faces]
    | false =>
      obtain ⟨f, bad, bad'⟩ := twin.exists_refusal kind
      rw [gap_of_bad_class interface bad, gap_of_bad_class interface' bad']
  | false =>
    have plain' := (h.isInterface faces).trans interface
    cases kind : L.isModule face with
    | true =>
      rw [gap_of_plain_face kind interface,
        gap_of_plain_face (faces.isModule.trans kind) plain', faces.describe]
    | false =>
      have bad := moduleAt_of_other faces.lt_size.1 kind
      have bad' := moduleAt_of_other faces.lt_size.2 (faces.isModule.trans kind)
      rw [gap_of_bad_face bad, gap_of_bad_face bad', faces.describe]

theorem Mirror.gaps (h : Mirror L M) (twin : Twin L M s t) (same : own.Like (Twin L M) own') :
    ExceptRel (List.Forall₂ (GapLine.Like (Twin L M))) (L.gaps s own) (M.gaps t own') := by
  cases kind : L.isClass s with
  | true =>
    obtain ⟨owners, owners', handler, walks⟩ := h.exists_walks twin kind
    rw [h.left.gaps_eq walks.ancestors walks.handled,
      h.right.gaps_eq walks.ancestors' walks.handled', gapMap, gapMap]
    refine .ok (forall₂_filter ?_ (List.rel_map ?_ (h.interfacesAmong walks.owners)))
    · intro p p' line
      rw [line.names]
    · intro face face' faces
      exact ⟨faces, h.lacking walks.owners same faces handler⟩
  | false =>
    obtain ⟨f, bad, bad'⟩ := twin.exists_refusal kind
    rw [gaps_of_error bad, gaps_of_error bad']
    exact .error f

/-- Instances that stand for each other, each at home in its own ledger. -/
structure SameInstance (L M : Ledger) (o o' : Instance) : Prop where
  home : BelongsTo L o
  home' : BelongsTo M o'
  like : o.Like (Twin L M) o'

variable {o o' : Instance}

theorem Mirror.resolve (h : Mirror L M) (same : SameInstance L M o o') (name : String) :
    ∃ found found', L.resolve o name = .ok found ∧ M.resolve o' name = .ok found' ∧
      Option.Rel (Entry.Like (Twin L M)) found found' := by
  obtain ⟨owners, owners', handler, walks⟩ :=
    h.exists_walks same.like.cls same.home.madeBy.isClass
  exact ⟨_, _, resolve_eq_find? same.home walks.ancestors name,
    resolve_eq_find? same.home' walks.ancestors' name,
    find?_isNamed_of_like (List.rel_append same.like.own (h.rows walks.owners)) name⟩

theorem Mirror.handlerFor (h : Mirror L M) (same : SameInstance L M o o') :
    M.handlerFor o'.cls = L.handlerFor o.cls := by
  obtain ⟨owners, owners', handler, walks⟩ :=
    h.exists_walks same.like.cls same.home.madeBy.isClass
  rw [walks.handled, walks.handled']

theorem Mirror.respondsTo (h : Mirror L M) (same : SameInstance L M o o') (name : String)
    (inside : Bool) : M.respondsTo o' name inside = L.respondsTo o name inside := by
  obtain ⟨found, found', resolved, resolved', like⟩ := h.resolve same name
  have admitted : found'.any (fun e => inside || e.isPublic) =
      found.any (fun e => inside || e.isPublic) :=
    optionRel_any (fun _ _ entry => by rw [entry.isPublic]) like
  rw [Ledger.respondsTo, Ledger.respondsTo, resolved, resolved', h.handlerFor same]
  dsimp only [bind, Except.bind]
  rw [admitted]

theorem answerOf_of_like {e e' : Entry} (classes : Twin L M o.cls o'.cls)
    (like : e.Like (Twin L M) e') (name : String) (args : List Value) (inside : Bool) :
    M.answerOf o' e' name args inside = L.answerOf o e name args inside := by
  rw [answerOf, answerOf, classes.describe, like.isPublic, like.checkArguments, like.invoke]

theorem Mirror.deliver (h : Mirror L M) (same : SameInstance L M o o') (name : String)
    (args : List Value) (inside : Bool) :
    M.deliver o' name args inside = L.deliver o name args inside := by
  obtain ⟨found, found', resolved, resolved', like⟩ := h.resolve same name
  rw [Ledger.deliver, Ledger.deliver, resolved, resolved']
  cases like with
  | none =>
    change M.answerMissing o' name args inside = L.answerMissing o name args inside
    rw [answerMissing, answerMissing, h.handlerFor same, same.like.cls.describe]
  | some entry => exact answerOf_of_like same.like.cls entry name args inside

theorem exceptRel_of_eq {α β : Type} {P : β → β → Prop} {f : α → β} (refl : ∀ a, P (f a) (f a))
    {x y : Except Fault α} (same : y = x) : ExceptRel P (f <$> x) (f <$> y) := by
  subst same
  cases y with
  | ok a => exact .ok (refl a)
  | error e => exact .error e

theorem Mirror.ask (h : Mirror L M) {q q' : Question Symbol} (like : q.Like (Twin L M) q') :
    ExceptRel (Answer.Like (Twin L M)) (q.run L) (q'.run M) := by
  cases like with
  | entity x => exact .ok (.symbol? (h.entity? x))
  | nameOf twin =>
    rw [Question.run, Question.run, twin.nameOf?]
    exact .ok (.text? _)
  | isClass twin =>
    rw [Question.run, Question.run, twin.isClass]
    exact .ok (.flag _)
  | isModule twin =>
    rw [Question.run, Question.run, twin.isModule]
    exact .ok (.flag _)
  | isInterface twin =>
    rw [Question.run, Question.run, h.isInterface twin]
    exact .ok (.flag _)
  | classAt twin => exact (h.classAt twin).map fun _ _ like => .cls like
  | moduleAt twin => exact (h.moduleAt twin).map fun _ _ like => .mod like
  | ancestors twin => exact (h.ancestors twin).map fun _ _ like => .owners like
  | interfaces twin => exact (h.interfaces twin).map fun _ _ like => .symbols like
  | gap twin faces => exact exceptRel_of_eq .names (h.gap twin .empty faces)
  | gaps twin => exact (h.gaps twin .empty).map fun _ _ like => .gaps like
  | classResolve twin x => exact (h.classResolve twin x).map fun _ _ like => .found like

theorem Mirror.askInstance (h : Mirror L M) (same : SameInstance L M o o')
    {q q' : InstanceQuestion Symbol} (like : q.Like (Twin L M) q') :
    ExceptRel (Answer.Like (Twin L M)) (q.run L o) (q'.run M o') := by
  cases like with
  | self => exact .ok (.self same.like)
  | gap faces => exact exceptRel_of_eq .names (h.gap same.like.cls same.like.own faces)
  | gaps => exact (h.gaps same.like.cls same.like.own).map fun _ _ like => .gaps like
  | resolve x =>
    obtain ⟨found, found', resolved, resolved', like⟩ := h.resolve same x
    rw [InstanceQuestion.run, InstanceQuestion.run, resolved, resolved']
    exact .ok (.found like)
  | respondsTo x inside => exact exceptRel_of_eq .flag (h.respondsTo same x inside)
  | call x args => exact exceptRel_of_eq .value (h.deliver same x args false)
  | send x args => exact exceptRel_of_eq .value (h.deliver same x args true)

end Ledger

end InterfaceLedger
