import InterfaceLedger.Ledger.Basic

/-!
What changes a ledger. An update either answers or is refused, and in both cases leaves a ledger
behind: that a refused update leaves the ledger as it was is a fact about each of them and not part
of the type. Checks come first, then the names are interned in the order in which they are met.
-/
namespace InterfaceLedger

/-- An instance belongs to whoever made it: it knows its class by symbol, in the ledger that it
    came from, and carries its singleton methods. -/
structure Instance where
  cls : Symbol
  own : MethodTable := ∅

abbrev Update := EStateM Fault Ledger

def ask {σ α : Type} (question : σ → Except Fault α) : EStateM Fault σ α := fun L =>
  match question L with
  | .ok a => .ok a L
  | .error e => .error e L

namespace Ledger

/-- The symbol of a text, which is given out here if the text has none yet. -/
def intern (L : Ledger) (x : String) : Symbol × Ledger :=
  match L.textSymbol? x with
  | some s => (s, L)
  | none => (L.size, L.push (.text x))

def place (L : Ledger) (e : Entry) : Ledger :=
  match e.owner with
  | .ofClass s => L.modifyClass s fun c => { c with table := (c.table.insert e).2 }
  | .ofModule s => L.modifyModule s fun m => { m with table := (m.table.insert e).2 }
  | .singleton => L

def updateClass (cls : Symbol) (f : ClassRecord → ClassRecord) : Update Unit := do
  let _ ← ask (classAt · cls)
  modify (modifyClass · cls f)

def updateModule (mod : Symbol) (f : ModuleRecord → ModuleRecord) : Update Unit := do
  let _ ← ask (moduleAt · mod)
  modify (modifyModule · mod f)

def link (owner : Owner) (L : Ledger) (m : MethodDecl) : Ledger :=
  let (name, L) := L.intern m.name
  L.place (m.toEntry name owner)

def allot (b : Binding) : Update Symbol := modifyGet fun L => (L.size, L.push b)

def vacant (x : String) (L : Ledger) : Except Fault Unit :=
  match L.entity? x with
  | some _ => .error (.duplicateDefinition x)
  | none => .ok ()

def parentOf (x? : Option String) (L : Ledger) : Except Fault (Option Symbol) :=
  match x? with
  | none => .ok none
  | some x =>
    match L.entity? x with
    | none => .error (.unknownName x)
    | some p => if L.isClass p then .ok (some p) else .error (.notAClass x)

def defineClass (d : ClassDecl) : Update Symbol := do
  ask (vacant d.name)
  let parent ← ask (parentOf d.parent)
  let name ← modifyGet (intern · d.name)
  let cls ← allot (.ofClass { name, parent })
  modify (d.methods.foldl (link (.ofClass cls)))
  return cls

def defineModule (d : ModuleDecl) : Update Symbol := do
  ask (vacant d.name)
  let name ← modifyGet (intern · d.name)
  let mod ← allot (.ofModule { name })
  modify (d.methods.foldl (link (.ofModule mod)))
  return mod

def defineMethod (cls : Symbol) (m : MethodDecl) : Update Unit := do
  let _ ← ask (classAt · cls)
  let name ← modifyGet (intern · m.name)
  updateClass cls fun c =>
    { c with table := (c.table.insert (m.toEntry name (.ofClass cls))).2 }

/-- Takes a method out of the table of the class itself and says whether there was one. -/
def removeMethod (cls : Symbol) (name : String) : Update Bool := do
  let c ← ask (classAt · cls)
  match (← get).textSymbol? name with
  | none => return false
  | some s =>
    modify (modifyClass · cls fun c => { c with table := (c.table.remove s).2 })
    return c.table.contains s

def extendModule (mod : Symbol) (m : MethodDecl) : Update Unit := do
  if (← ask (moduleAt · mod)).isInterface then
    throw (.interfaceSealed ((← get).describe mod))
  let name ← modifyGet (intern · m.name)
  updateModule mod fun r =>
    { r with table := (r.table.insert (m.toEntry name (.ofModule mod))).2 }

def mark (mod : Symbol) : Update Symbol := do
  updateModule mod fun m => { m with role := .interface }
  return mod

def setHandler (cls : Symbol) (h : Option Handler) : Update Unit :=
  updateClass cls fun c => { c with handler := h }

def instantiate (L : Ledger) (cls : Symbol) : Except Fault Instance := do
  let _ ← L.classAt cls
  return { cls }

/-- Gives one instance a method of its own. Only the name goes into the ledger. -/
def addSingleton (L : Ledger) (o : Instance) (m : MethodDecl) : Instance × Ledger :=
  let (name, L) := L.intern m.name
  ({ o with own := (o.own.insert (m.toEntry name .singleton)).2 }, L)

end Ledger

end InterfaceLedger
