import Mathlib.Data.List.Forall2
import InterfaceLedger.Session
import InterfaceLedger.Proofs.Tables

/-!
Likeness. Two entries, tables, records or answers are alike up to a relation between symbols if
they are equal but for the symbols in them, and those are related one by one, in the same order. As
long as the relation matches every symbol with at most one other, to put an entry into a row, to
look for one and to drop one keeps rows alike: nothing depends on which numbers the symbols are.
-/
namespace InterfaceLedger

section Relations

variable (R : Symbol → Symbol → Prop)

inductive Owner.Like : Owner → Owner → Prop
  | ofClass {s t : Symbol} (cls : R s t) : Like (.ofClass s) (.ofClass t)
  | ofModule {s t : Symbol} (mod : R s t) : Like (.ofModule s) (.ofModule t)
  | singleton : Like .singleton .singleton

structure Entry.Like (e e' : Entry) : Prop where
  name : R e.name e'.name
  owner : e.owner.Like R e'.owner
  params : e'.params = e.params
  result : e'.result = e.result
  visibility : e'.visibility = e.visibility
  body : e'.body = e.body

abbrev Row.Like : List Entry → List Entry → Prop := List.Forall₂ (Entry.Like R)

def MethodTable.Like (t t' : MethodTable) : Prop := Row.Like R t.toList t'.toList

structure ClassRecord.Like (c c' : ClassRecord) : Prop where
  name : R c.name c'.name
  parent : Option.Rel R c.parent c'.parent
  table : c.table.Like R c'.table
  includes : List.Forall₂ R c.includes c'.includes
  handler : c'.handler = c.handler

structure ModuleRecord.Like (m m' : ModuleRecord) : Prop where
  name : R m.name m'.name
  role : m'.role = m.role
  table : m.table.Like R m'.table

structure Instance.Like (o o' : Instance) : Prop where
  cls : R o.cls o'.cls
  own : o.own.Like R o'.own

structure GapLine.Like (p p' : Symbol × List String) : Prop where
  face : R p.1 p'.1
  names : p'.2 = p.2

/-- Answers that say the same. A listing goes through the symbols by their numbers, so it is never
    like another. -/
inductive Answer.Like : Answer → Answer → Prop
  | done : Like .done .done
  | flag (b : Bool) : Like (.flag b) (.flag b)
  | symbol {s t : Symbol} (h : R s t) : Like (.symbol s) (.symbol t)
  | symbol? {s t : Option Symbol} (h : Option.Rel R s t) : Like (.symbol? s) (.symbol? t)
  | text? (x : Option String) : Like (.text? x) (.text? x)
  | cls {c c' : ClassRecord} (h : c.Like R c') : Like (.cls c) (.cls c')
  | mod {m m' : ModuleRecord} (h : m.Like R m') : Like (.mod m) (.mod m')
  | symbols {l l' : List Symbol} (h : List.Forall₂ R l l') : Like (.symbols l) (.symbols l')
  | owners {l l' : List Owner} (h : List.Forall₂ (Owner.Like R) l l') :
      Like (.owners l) (.owners l')
  | names (l : List String) : Like (.names l) (.names l)
  | gaps {l l' : List (Symbol × List String)} (h : List.Forall₂ (GapLine.Like R) l l') :
      Like (.gaps l) (.gaps l')
  | found {e e' : Option Entry} (h : Option.Rel (Entry.Like R) e e') : Like (.found e) (.found e')
  | value (v : Value) : Like (.value v) (.value v)
  | self {o o' : Instance} (h : o.Like R o') : Like (.self o) (.self o')

inductive Outcome.Like : Outcome → Outcome → Prop
  | answered {a a' : Answer} (h : a.Like R a') : Like (.answered a) (.answered a')
  | refused (f : Fault) : Like (.refused f) (.refused f)
  | unresolved (x : String) : Like (.unresolved x) (.unresolved x)

end Relations

/-- Both go well, with related results, or both are refused for the same reason. -/
inductive ExceptRel {ε α β : Type} (P : α → β → Prop) : Except ε α → Except ε β → Prop
  | ok {a : α} {b : β} (h : P a b) : ExceptRel P (.ok a) (.ok b)
  | error (f : ε) : ExceptRel P (.error f) (.error f)

section Lists

variable {ε α β γ δ : Type} {P : α → β → Prop} {Q : γ → δ → Prop}

theorem ExceptRel.map {f : α → γ} {g : β → δ} (acts : ∀ a b, P a b → Q (f a) (g b))
    {x : Except ε α} {y : Except ε β} (h : ExceptRel P x y) : ExceptRel Q (f <$> x) (g <$> y) := by
  cases h with
  | ok rel => exact .ok (acts _ _ rel)
  | error f => exact .error f

theorem ExceptRel.bind {f : α → Except ε γ} {g : β → Except ε δ}
    (acts : ∀ a b, P a b → ExceptRel Q (f a) (g b)) {x : Except ε α} {y : Except ε β}
    (h : ExceptRel P x y) : ExceptRel Q (x >>= f) (y >>= g) := by
  cases h with
  | ok rel => exact acts _ _ rel
  | error f => exact .error f

theorem optionRel_mono {P' : α → β → Prop} (sub : ∀ a b, P a b → P' a b) {x : Option α}
    {y : Option β} (h : Option.Rel P x y) : Option.Rel P' x y := by
  cases h with
  | none => exact .none
  | some rel => exact .some (sub _ _ rel)

theorem optionRel_refl (x : Option α) : Option.Rel Eq x x := by
  cases x with
  | none => exact .none
  | some a => exact .some rfl

theorem optionRel_eq {P : α → α → Prop} (equal : ∀ a b, P a b → b = a) {x y : Option α}
    (h : Option.Rel P x y) : y = x := by
  cases h with
  | none => rfl
  | some rel => rw [equal _ _ rel]

theorem optionRel_map {f : α → γ} {g : β → δ} {x : Option α} {y : Option β}
    (acts : ∀ a b, x = some a → y = some b → P a b → Q (f a) (g b)) (h : Option.Rel P x y) :
    Option.Rel Q (x.map f) (y.map g) := by
  cases h with
  | none => exact .none
  | some rel => exact .some (acts _ _ rfl rfl rel)

theorem optionRel_or {x x' : Option α} {y y' : Option β} (h : Option.Rel P x y)
    (h' : Option.Rel P x' y') : Option.Rel P (x.or x') (y.or y') := by
  cases h with
  | none => exact h'
  | some rel => exact .some rel

theorem optionRel_any {p : α → Bool} {q : β → Bool} (same : ∀ a b, P a b → q b = p a)
    {x : Option α} {y : Option β} (h : Option.Rel P x y) : y.any q = x.any p := by
  cases h with
  | none => rfl
  | some rel => exact same _ _ rel

theorem forall₂_find? {p : α → Bool} {q : β → Bool} (same : ∀ a b, P a b → q b = p a)
    {l : List α} {m : List β} (h : List.Forall₂ P l m) : Option.Rel P (l.find? p) (m.find? q) := by
  induction h with
  | nil => exact .none
  | @cons a b l m rel _ ih =>
    rw [List.find?_cons, List.find?_cons, same a b rel]
    cases p a with
    | true => exact .some rel
    | false => exact ih

theorem forall₂_findSome? {f : α → Option γ} {g : β → Option δ}
    (same : ∀ a b, P a b → Option.Rel Q (f a) (g b)) {l : List α} {m : List β}
    (h : List.Forall₂ P l m) : Option.Rel Q (l.findSome? f) (m.findSome? g) := by
  induction h with
  | nil => exact .none
  | @cons a b l m rel _ ih =>
    rw [List.findSome?_cons, List.findSome?_cons]
    have first := same a b rel
    generalize f a = x, g b = y at first
    cases first with
    | none => exact ih
    | some found => exact .some found

theorem forall₂_findSome?_eq {f : α → Option γ} {g : β → Option γ}
    (same : ∀ a b, P a b → g b = f a) {l : List α} {m : List β} (h : List.Forall₂ P l m) :
    m.findSome? g = l.findSome? f := by
  have found : Option.Rel Eq (l.findSome? f) (m.findSome? g) := by
    apply forall₂_findSome? _ h
    intro a b rel
    rw [same a b rel]
    exact optionRel_refl _
  exact optionRel_eq (fun _ _ rel => rel.symm) found

theorem forall₂_map_eq {f : α → γ} {g : β → γ} (same : ∀ a b, P a b → g b = f a) {l : List α}
    {m : List β} (h : List.Forall₂ P l m) : m.map g = l.map f := by
  have maps : List.Forall₂ Eq (l.map f) (m.map g) :=
    List.rel_map (fun a b rel => (same a b rel).symm) h
  rw [List.forall₂_eq_eq_eq] at maps
  exact maps.symm

theorem forall₂_filter {p : α → Bool} {q : β → Bool} (same : ∀ a b, P a b → q b = p a)
    {l : List α} {m : List β} (h : List.Forall₂ P l m) :
    List.Forall₂ P (l.filter p) (m.filter q) := by
  apply List.rel_filter _ h
  intro a b rel
  change p a = true ↔ q b = true
  rw [same a b rel]

theorem forall₂_dropLast {l : List α} {m : List β} (h : List.Forall₂ P l m) :
    List.Forall₂ P l.dropLast m.dropLast := by
  rw [List.dropLast_eq_take, List.dropLast_eq_take, h.length_eq]
  exact List.forall₂_take _ h

theorem forall₂_getLast? {l : List α} {m : List β} (h : List.Forall₂ P l m) :
    Option.Rel P l.getLast? m.getLast? := by
  rw [← List.head?_reverse, ← List.head?_reverse]
  have reversed := List.rel_reverse h
  generalize l.reverse = x, m.reverse = y at reversed
  cases reversed with
  | nil => exact .none
  | cons rel _ => exact .some rel

theorem forall₂_eraseDups [BEq α] [BEq β] [LawfulBEq α] [LawfulBEq β] (unique : Relator.BiUnique P)
    {l : List α} {m : List β} (h : List.Forall₂ P l m) :
    List.Forall₂ P l.eraseDups m.eraseDups := by
  induction length : l.length using Nat.strongRecOn generalizing l m with
  | ind n ih =>
    cases h with
    | nil => exact .nil
    | @cons a b l m rel tail =>
      have shorter : (l.filter fun c => !c == a).length < n := by
        rw [← length]
        exact Nat.lt_succ_of_le (List.length_filter_le _ l)
      -- what equals the head goes on both sides alike, since it has no other match
      have kept : List.Forall₂ P (l.filter fun c => !c == a) (m.filter fun d => !d == b) := by
        apply forall₂_filter _ tail
        intro c d other
        rw [Bool.eq_iff_iff]
        simp [Relator.rel_eq unique other rel]
      rw [List.eraseDups_cons, List.eraseDups_cons]
      exact .cons rel (ih _ shorter kept rfl)

end Lists

variable {R S : Symbol → Symbol → Prop}

section Mono

variable (sub : ∀ s t, R s t → S s t)

include sub

theorem Owner.Like.mono {o o' : Owner} (h : o.Like R o') : o.Like S o' := by
  cases h with
  | ofClass cls => exact .ofClass (sub _ _ cls)
  | ofModule mod => exact .ofModule (sub _ _ mod)
  | singleton => exact .singleton

theorem Entry.Like.mono {e e' : Entry} (h : e.Like R e') : e.Like S e' :=
  { h with name := sub _ _ h.name, owner := h.owner.mono sub }

theorem MethodTable.Like.mono {t t' : MethodTable} (h : t.Like R t') : t.Like S t' :=
  List.Forall₂.imp (fun _ _ e => e.mono sub) h

theorem ClassRecord.Like.mono {c c' : ClassRecord} (h : c.Like R c') : c.Like S c' where
  name := sub _ _ h.name
  parent := optionRel_mono sub h.parent
  table := h.table.mono sub
  includes := h.includes.imp sub
  handler := h.handler

theorem ModuleRecord.Like.mono {m m' : ModuleRecord} (h : m.Like R m') : m.Like S m' :=
  { h with name := sub _ _ h.name, table := h.table.mono sub }

theorem Instance.Like.mono {o o' : Instance} (h : o.Like R o') : o.Like S o' where
  cls := sub _ _ h.cls
  own := h.own.mono sub

end Mono

theorem Entry.Like.isPublic {e e' : Entry} (h : e.Like R e') : e'.isPublic = e.isPublic := by
  rw [Entry.isPublic, Entry.isPublic, h.visibility]

theorem Entry.Like.checkArguments {e e' : Entry} (h : e.Like R e') (method : String)
    (args : List Value) : e'.checkArguments method args = e.checkArguments method args := by
  rw [Entry.checkArguments, Entry.checkArguments, h.params]

theorem Entry.Like.invoke {e e' : Entry} (h : e.Like R e') (args : List Value) :
    e'.invoke args = e.invoke args := by
  rw [Entry.invoke, Entry.invoke, h.body]

theorem MethodDecl.like_toEntry {s t : Symbol} {o o' : Owner} (name : R s t) (owner : o.Like R o')
    (m : MethodDecl) : (m.toEntry s o).Like R (m.toEntry t o') :=
  ⟨name, owner, rfl, rfl, rfl, rfl⟩

theorem owner_biUnique (unique : Relator.BiUnique R) : Relator.BiUnique (Owner.Like R) := by
  constructor
  · intro o o' p h h'
    cases h with
    | ofClass rel =>
      cases h' with
      | ofClass rel' => rw [unique.1 rel rel']
    | ofModule rel =>
      cases h' with
      | ofModule rel' => rw [unique.1 rel rel']
    | singleton =>
      cases h'
      rfl
  · intro o p p' h h'
    cases h with
    | ofClass rel =>
      cases h' with
      | ofClass rel' => rw [unique.2 rel rel']
    | ofModule rel =>
      cases h' with
      | ofModule rel' => rw [unique.2 rel rel']
    | singleton =>
      cases h'
      rfl

theorem Row.Like.put (unique : Relator.BiUnique R) {e e' : Entry} (entry : e.Like R e')
    {row row' : List Entry} (h : Row.Like R row row') :
    Row.Like R (Row.put e row) (Row.put e' row') := by
  induction h with
  | nil => exact .cons entry .nil
  | @cons x x' row row' first tail ih =>
    rw [Row.put, Row.put]
    have same := Relator.rel_eq unique first.name entry.name
    by_cases here : x.name = e.name
    · rw [if_pos here, if_pos (same.1 here)]
      exact .cons entry tail
    · rw [if_neg here, if_neg (mt same.2 here)]
      exact .cons first ih

theorem Row.Like.drop (unique : Relator.BiUnique R) {s t : Symbol} (name : R s t)
    {row row' : List Entry} (h : Row.Like R row row') :
    Row.Like R (Row.drop s row) (Row.drop t row') := by
  induction h with
  | nil => exact .nil
  | @cons x x' row row' first tail ih =>
    rw [Row.drop, Row.drop]
    have same := Relator.rel_eq unique first.name name
    by_cases here : x.name = s
    · rw [if_pos here, if_pos (same.1 here)]
      have last := forall₂_getLast? tail
      generalize row.getLast? = x, row'.getLast? = y at last
      cases last with
      | none => exact .nil
      | some moved => exact .cons moved (forall₂_dropLast tail)
    · rw [if_neg here, if_neg (mt same.2 here)]
      exact .cons first ih

namespace MethodTable.Like

variable {t t' : MethodTable}

theorem empty : (∅ : MethodTable).Like R ∅ := .nil

theorem insert (unique : Relator.BiUnique R) (h : t.Like R t') {e e' : Entry}
    (entry : e.Like R e') : (t.insert e).2.Like R (t'.insert e').2 := by
  rw [Like, toList_insert, toList_insert]
  exact Row.Like.put unique entry h

theorem remove (unique : Relator.BiUnique R) (h : t.Like R t') {s s' : Symbol}
    (name : R s s') : (t.remove s).2.Like R (t'.remove s').2 := by
  rw [Like, toList_remove, toList_remove]
  exact Row.Like.drop unique name h

theorem get? (unique : Relator.BiUnique R) (h : t.Like R t') {s s' : Symbol} (name : R s s') :
    Option.Rel (Entry.Like R) (t.get? s) (t'.get? s') := by
  rw [get?_eq, get?_eq]
  apply forall₂_find? _ h
  intro e e' entry
  rw [decide_eq_decide]
  exact (Relator.rel_eq unique entry.name name).symm

theorem publicNames (h : t.Like R t') : List.Forall₂ R t.publicNames t'.publicNames :=
  List.rel_map (fun _ _ entry => entry.name) (forall₂_filter (fun _ _ entry => entry.isPublic) h)

end MethodTable.Like

section Equal

variable {ε α : Type} {P : α → α → Prop} (equal : ∀ a b, P a b → b = a)
include equal

theorem forall₂_eq {l m : List α} (h : List.Forall₂ P l m) : m = l := by
  have same : List.Forall₂ Eq l m := h.imp fun a b rel => (equal a b rel).symm
  rw [List.forall₂_eq_eq_eq] at same
  exact same.symm

theorem ExceptRel.eq {x y : Except ε α} (h : ExceptRel P x y) : y = x := by
  cases h with
  | ok rel => rw [equal _ _ rel]
  | error f => rfl

end Equal

section Same

variable {R : Symbol → Symbol → Prop} (same : ∀ s t, R s t → t = s)
include same

theorem Owner.Like.eq {o o' : Owner} (h : o.Like R o') : o' = o := by
  cases h with
  | ofClass cls => rw [same _ _ cls]
  | ofModule mod => rw [same _ _ mod]
  | singleton => rfl

theorem Entry.Like.eq {e e' : Entry} (h : e.Like R e') : e' = e := by
  obtain ⟨name, owner, params, result, visibility, body⟩ := h
  cases e
  cases e'
  cases same _ _ name
  cases owner.eq same
  cases params
  cases result
  cases visibility
  cases body
  rfl

theorem GapLine.Like.eq {p p' : Symbol × List String} (h : GapLine.Like R p p') : p' = p :=
  Prod.ext (same _ _ h.face) h.names

end Same

end InterfaceLedger
