import InterfaceLedger.Proofs.Gaps
import InterfaceLedger.Proofs.Labels
import Mathlib

/-!
Sealed modules. A contract is all there is to an interface: its record, with the table in it, its own
name and the names of its methods. The contract that an interface has once stands in every ledger from
then on, and each new method is refused by the name of the interface. Nothing but sealed modules is
ever attached to a class.
-/
namespace InterfaceLedger

/-- The names are those of all methods in the order of the table, and those of the public ones. -/
structure Contract where
  record : ModuleRecord
  title : String
  names : List String
  declared : List String

namespace Ledger

variable {L M : Ledger} {cls mod : Symbol} {contract : Contract} {symbols : List Symbol}
  {names : List String}

def Spell (L : Ledger) : List Symbol → List String → Prop :=
  List.Forall₂ fun s x => L.nameOf? s = some x

theorem Spell.edits (h : L.Spell symbols names) (edits : Edits L M) : M.Spell symbols names :=
  h.imp fun _ _ named => edits.keeps_name named

theorem Spell.mem_iff (h : L.Spell symbols names) {x : String} :
    x ∈ names ↔ ∃ s ∈ symbols, L.nameOf? s = some x := by
  induction h with
  | nil => simp
  | cons named _ ih => simp [ih, named, eq_comm]

theorem spell_describe (texts : ∀ s ∈ symbols, ∃ x, L.textAt? s = some x) :
    L.Spell symbols (symbols.map L.describe) := by
  rw [Spell, List.forall₂_map_right_iff, List.forall₂_same]
  intro s mem
  obtain ⟨x, text⟩ := texts s mem
  rw [nameOf?_of_text text, describe_of_text text]

/-- The module is an interface and this is its contract. -/
structure Sealed (L : Ledger) (mod : Symbol) (contract : Contract) : Prop where
  interface : L.isInterface mod = true
  record : L.moduleAt mod = .ok contract.record
  title : L.nameOf? mod = some contract.title
  names : L.Spell (contract.record.table.toList.map (·.name)) contract.names
  declared : L.Spell contract.record.declared contract.declared

theorem Sound.exists_sealed (h : L.Sound) (interface : L.isInterface mod = true) :
    ∃ contract, Sealed L mod contract := by
  obtain ⟨r, found, -⟩ := isInterface_iff.1 interface
  obtain ⟨x, title⟩ := h.named.exists_name (lt_size_of_bind found)
  have table := (tableOf_of_module found).symm
  have texts : ∀ s ∈ r.table.toList.map (·.name), ∃ y, L.textAt? s = some y := by
    intro s mem
    obtain ⟨e, place, rfl⟩ := List.mem_map.1 mem
    rw [table] at place
    exact (h.tabled.truthful place).2
  have publicTexts : ∀ s ∈ r.declared, ∃ y, L.textAt? s = some y := by
    intro s mem
    rw [ModuleRecord.declared, table] at mem
    exact h.text_of_declared mem
  exact ⟨⟨r, x, _, _⟩, interface, moduleAt_eq_ok_iff.2 found, title, spell_describe texts,
    spell_describe publicTexts⟩

theorem Sealed.edits (h : Sealed L mod contract) (edits : Edits L M) : Sealed M mod contract := by
  obtain ⟨r, found, role⟩ := isInterface_iff.1 h.interface
  cases h.record.symm.trans (moduleAt_eq_ok_iff.2 found)
  have still := edits.keeps_face found role
  constructor
  · exact isInterface_iff.2 ⟨_, still, role⟩
  · exact moduleAt_eq_ok_iff.2 still
  · exact edits.keeps_name h.title
  · exact h.names.edits edits
  · exact h.declared.edits edits

theorem Sealed.refuses (h : Sealed L mod contract) (m : MethodDecl) :
    extendModule mod m L = .error (.interfaceSealed contract.title) L := by
  obtain ⟨r, found, role⟩ := isInterface_iff.1 h.interface
  have marked : r.isInterface = true := decide_eq_true role
  have described : L.describe mod = contract.title := by
    rw [describe, h.title, Option.getD_some]
  rw [extendModule_apply, moduleAt_eq_ok_iff.2 found, described]
  dsimp only
  rw [if_pos marked]

theorem Sealed.holds_iff (h : Sealed L mod contract) {x : String} :
    L.holds x (.ofModule mod) = true ↔ x ∈ contract.names := by
  have table := tableOf_of_module (moduleAt_eq_ok_iff.1 h.record)
  simp [holds, table, h.names.mem_iff]

/-- An interface keeps its contract whatever happens, and never takes a new method. -/
theorem sealing_is_permanent {L : Ledger} {mod : Symbol} (h : Reachable L)
    (interface : L.isInterface mod = true) :
    ∃ contract, ∀ events, Sealed (L.afterAll events) mod contract ∧
      ∀ m, extendModule mod m (L.afterAll events) =
        .error (.interfaceSealed contract.title) (L.afterAll events) := by
  obtain ⟨contract, now⟩ := h.sound.exists_sealed interface
  refine ⟨contract, ?_⟩
  intro events
  have later := now.edits (h.afterAll_edits events)
  exact ⟨later, later.refuses⟩

def breachEvents : List Event :=
  [.operation (.extendModule 1 { name := "pause" }),
    .operation (.defineModule { name := "Remote", methods := [{ name := "pause" }] }),
    .operation (.mark 1),
    .operation (.removeMethod 9 "on"),
    .operation (.declare 11 [1, 6, 1])]

theorem sealing_is_permanent_household :
    Reachable household ∧ household.isInterface 1 = true ∧
      ∃ contract, contract.title = "Remote" ∧
        Sealed (household.afterAll breachEvents) 1 contract ∧
        ∀ m, extendModule 1 m (household.afterAll breachEvents) =
          .error (.interfaceSealed "Remote") (household.afterAll breachEvents) := by
  have interface : household.isInterface 1 = true := by cbv
  have title : household.nameOf? 1 = some "Remote" := by cbv
  obtain ⟨contract, always⟩ := sealing_is_permanent reachable_household interface
  have named : contract.title = "Remote" :=
    Option.some.inj ((always []).1.title.symm.trans title)
  obtain ⟨later, refuses⟩ := always breachEvents
  rw [named] at refuses
  exact ⟨reachable_household, interface, contract, named, later, refuses⟩

/-- Whatever is attached to a class is attached once and is an interface, so all the modules among its
    ancestors are interfaces that are sealed for good. -/
theorem attached_once_and_sealed {L : Ledger} {cls : Symbol} {c : ClassRecord} (h : Reachable L)
    (found : L.classAt cls = .ok c) :
    c.includes.Nodup ∧ (∀ m ∈ c.includes, ∃ r, L.moduleAt m = .ok r ∧ r.role = .interface) ∧
      ∃ owners, L.ancestors cls = .ok owners ∧
        ∀ m, .ofModule m ∈ owners →
          ∃ contract, ∀ events, Sealed (L.afterAll events) m contract := by
  have attached : L.includesOf cls = c.includes := includesOf_of_class (classAt_eq_ok_iff.1 found)
  obtain ⟨owners, walk⟩ := h.sound.exists_ancestors (isClass_iff_classAt.2 ⟨c, found⟩)
  refine ⟨?_, ?_, owners, walk, ?_⟩
  · rw [← attached]
    exact h.composed.nodup cls
  · intro m mem
    rw [← attached] at mem
    obtain ⟨r, bound, role⟩ := isInterface_iff.1 (h.composed.faces mem)
    exact ⟨r, moduleAt_eq_ok_iff.2 bound, role⟩
  · intro m mem
    obtain ⟨contract, now⟩ :=
      h.sound.exists_sealed (h.composed.isInterface_of_mem h.named walk mem)
    exact ⟨contract, fun events => now.edits (h.afterAll_edits events)⟩

def timedHousehold : Ledger :=
  household.afterAll
    [.operation (.defineModule { name := "Timer", methods := [{ name := "start" }] }),
      .operation (.declare 11 [13, 1, 13]),
      .operation (.declare 11 [6, 10])]

theorem attached_once_and_sealed_timedHousehold :
    Reachable timedHousehold ∧ ∃ c, timedHousehold.classAt 11 = .ok c ∧ c.includes = [13] ∧
      c.includes.Nodup ∧ (∃ r, timedHousehold.moduleAt 13 = .ok r ∧ r.role = .interface) ∧
      ∃ contract, ∀ events, Sealed (timedHousehold.afterAll events) 1 contract := by
  have reachable : Reachable timedHousehold := reachable_household.afterAll _
  have isClass : timedHousehold.isClass 11 = true := by cbv
  have attached : timedHousehold.includesOf 11 = [13] := by cbv
  have walk : timedHousehold.ancestors 11 =
      .ok [.ofClass 11, .ofModule 13, .ofClass 9, .ofModule 1, .ofModule 6] := by cbv
  obtain ⟨c, found⟩ := isClass_iff_classAt.1 isClass
  rw [includesOf_of_class (classAt_eq_ok_iff.1 found)] at attached
  obtain ⟨nodup, faces, owners, walk', sealed⟩ := attached_once_and_sealed reachable found
  cases walk.symm.trans walk'
  exact ⟨reachable, c, found, attached, nodup, faces 13 (by simp [attached]), sealed 1 (by simp)⟩

end Ledger

end InterfaceLedger
