import InterfaceLedger.Operation

/-!
Registries: what runs. A table of symbols says of each of them where its text, class or module stands,
which is a place in one of three more tables, and two maps lead from names back to symbols: one from
texts, and one from the names of classes and modules. Every table only grows at its end. A definition
takes its symbol before its methods are linked and its record is put into the table after that, so for
a while the symbol points past the end.

The row of what the symbols stand for is a ledger. It answers the questions that go from class to class
and from table to table.
-/
namespace InterfaceLedger

/-- Where to look for what a symbol stands for. -/
inductive SymbolEntry where
  | text (index : Nat)
  | ofClass (index : Nat)
  | ofModule (index : Nat)
  deriving DecidableEq, Repr, Inhabited

structure Registry where
  symbols : Array SymbolEntry := #[]
  texts : Array String := #[]
  classes : Array ClassRecord := #[]
  modules : Array ModuleRecord := #[]
  textMap : Std.TreeMap String Symbol := ∅
  entityMap : Std.TreeMap String Symbol := ∅

namespace Registry

instance : EmptyCollection Registry := ⟨{}⟩

instance : Inhabited Registry := ⟨∅⟩

abbrev Update := EStateM Fault Registry

def textSymbol? (R : Registry) (x : String) : Option Symbol := R.textMap[x]?

def entity? (R : Registry) (x : String) : Option Symbol := R.entityMap[x]?

/-- The name of a symbol, by way of the symbol of the name. That one is always smaller, so there is an
    end to it. -/
def nameOf? (R : Registry) (s : Symbol) : Option String :=
  match R.symbols[s]? with
  | none => none
  | some (.text i) => R.texts[i]?
  | some (.ofClass i) =>
    match R.classes[i]? with
    | none => none
    | some c => if c.name < s then R.nameOf? c.name else none
  | some (.ofModule i) =>
    match R.modules[i]? with
    | none => none
    | some m => if m.name < s then R.nameOf? m.name else none
termination_by s

def describe (R : Registry) (s : Symbol) : String := (R.nameOf? s).getD s!"#<symbol {s}>"

def isClass (R : Registry) (s : Symbol) : Bool :=
  match R.symbols[s]? with
  | some (.ofClass _) => true
  | _ => false

def isModule (R : Registry) (s : Symbol) : Bool :=
  match R.symbols[s]? with
  | some (.ofModule _) => true
  | _ => false

/-- A symbol that points past the table counts as not bound. No question ever meets one. -/
def classAt (R : Registry) (s : Symbol) : Except Fault ClassRecord :=
  match R.symbols[s]? with
  | some (.ofClass i) =>
    match R.classes[i]? with
    | some c => .ok c
    | none => .error (.unknownSymbol s)
  | some _ => .error (.notAClass (R.describe s))
  | none => .error (.unknownSymbol s)

def moduleAt (R : Registry) (s : Symbol) : Except Fault ModuleRecord :=
  match R.symbols[s]? with
  | some (.ofModule i) =>
    match R.modules[i]? with
    | some m => .ok m
    | none => .error (.unknownSymbol s)
  | some _ => .error (.notAModule (R.describe s))
  | none => .error (.unknownSymbol s)

def isInterface (R : Registry) (s : Symbol) : Bool :=
  match R.moduleAt s with
  | .ok m => m.isInterface
  | .error _ => false

def binding? (R : Registry) : SymbolEntry → Option Binding
  | .text i => .text <$> R.texts[i]?
  | .ofClass i => .ofClass <$> R.classes[i]?
  | .ofModule i => .ofModule <$> R.modules[i]?

/-- What the symbols stand for, in their order. -/
def row (R : Registry) : Ledger := ⟨R.symbols.toList.filterMap R.binding?⟩

def addSymbol (R : Registry) (e : SymbolEntry) : Symbol × Registry :=
  (R.symbols.size, { R with symbols := R.symbols.push e })

def intern (R : Registry) (x : String) : Symbol × Registry :=
  match R.textSymbol? x with
  | some s => (s, R)
  | none =>
    let (s, R) := R.addSymbol (.text R.texts.size)
    (s, { R with texts := R.texts.push x, textMap := R.textMap.insert x s })

def insertClass (R : Registry) (c : ClassRecord) : Registry :=
  { R with classes := R.classes.push c }

def insertModule (R : Registry) (m : ModuleRecord) : Registry :=
  { R with modules := R.modules.push m }

def nameEntity (R : Registry) (x : String) (s : Symbol) : Registry :=
  { R with entityMap := R.entityMap.insert x s }

def modifyClass (R : Registry) (s : Symbol) (f : ClassRecord → ClassRecord) : Registry :=
  match R.symbols[s]? with
  | some (.ofClass i) => { R with classes := R.classes.modify i f }
  | _ => R

def modifyModule (R : Registry) (s : Symbol) (f : ModuleRecord → ModuleRecord) : Registry :=
  match R.symbols[s]? with
  | some (.ofModule i) => { R with modules := R.modules.modify i f }
  | _ => R

def updateClass (cls : Symbol) (f : ClassRecord → ClassRecord) : Update Unit := do
  let _ ← ask (classAt · cls)
  modify (modifyClass · cls f)

def updateModule (mod : Symbol) (f : ModuleRecord → ModuleRecord) : Update Unit := do
  let _ ← ask (moduleAt · mod)
  modify (modifyModule · mod f)

def linkMethod (owner : Owner) (m : MethodDecl) (R : Registry) : Entry × Registry :=
  let (name, R) := R.intern m.name
  (m.toEntry name owner, R)

def linkInto (owner : Owner) (unplaced : MethodTable × Registry) (m : MethodDecl) :
    MethodTable × Registry :=
  let (table, R) := unplaced
  let (e, R) := R.linkMethod owner m
  ((table.insert e).2, R)

def linkMethods (owner : Owner) (ms : List MethodDecl) (R : Registry) : MethodTable × Registry :=
  ms.foldl (linkInto owner) (∅, R)

def vacant (x : String) (R : Registry) : Except Fault Unit :=
  if R.entityMap.contains x then .error (.duplicateDefinition x) else .ok ()

def parentOf (x? : Option String) (R : Registry) : Except Fault (Option Symbol) :=
  match x? with
  | none => .ok none
  | some x =>
    match R.entity? x with
    | none => .error (.unknownName x)
    | some p => if R.isClass p then .ok (some p) else .error (.notAClass x)

def defineClass (d : ClassDecl) : Update Symbol := do
  ask (vacant d.name)
  let parent ← ask (parentOf d.parent)
  let name ← modifyGet (intern · d.name)
  let cls ← modifyGet fun R => R.addSymbol (.ofClass R.classes.size)
  let table ← modifyGet (linkMethods (.ofClass cls) d.methods)
  modify (insertClass · { name, parent, table })
  modify (nameEntity · d.name cls)
  return cls

def defineModule (d : ModuleDecl) : Update Symbol := do
  ask (vacant d.name)
  let name ← modifyGet (intern · d.name)
  let mod ← modifyGet fun R => R.addSymbol (.ofModule R.modules.size)
  let table ← modifyGet (linkMethods (.ofModule mod) d.methods)
  modify (insertModule · { name, table })
  modify (nameEntity · d.name mod)
  return mod

def defineMethod (cls : Symbol) (m : MethodDecl) : Update Unit := do
  let _ ← ask (classAt · cls)
  let e ← modifyGet (linkMethod (.ofClass cls) m)
  updateClass cls fun c => { c with table := (c.table.insert e).2 }

def removeMethod (cls : Symbol) (name : String) : Update Bool := do
  match (← get).textSymbol? name with
  | none =>
    let _ ← ask (classAt · cls)
    return false
  | some s =>
    let c ← ask (classAt · cls)
    modify (modifyClass · cls fun c => { c with table := (c.table.remove s).2 })
    return (c.table.remove s).1.isSome

def extendModule (mod : Symbol) (m : MethodDecl) : Update Unit := do
  if (← ask (moduleAt · mod)).isInterface then
    throw (.interfaceSealed ((← get).describe mod))
  let e ← modifyGet (linkMethod (.ofModule mod) m)
  updateModule mod fun r => { r with table := (r.table.insert e).2 }

def mark (mod : Symbol) : Update Symbol := do
  updateModule mod fun m => { m with role := .interface }
  return mod

def attach (cls mod : Symbol) : Update Unit := do
  let _ ← mark mod
  if .ofModule mod ∈ (← ask (·.row.ancestors cls)) then return
  updateClass cls fun c => { c with includes := mod :: c.includes }

def declare (cls : Symbol) (mods : List Symbol) : Update Unit := do
  let _ ← ask (classAt · cls)
  mods.forM fun m => discard (ask (moduleAt · m))
  mods.reverse.forM (attach cls)

def setHandler (cls : Symbol) (h : Option Handler) : Update Unit :=
  updateClass cls fun c => { c with handler := h }

def instantiate (R : Registry) (cls : Symbol) : Except Fault Instance := do
  let _ ← R.classAt cls
  return { cls }

def addSingleton (R : Registry) (o : Instance) (m : MethodDecl) : Instance × Registry :=
  let (e, R) := R.linkMethod .singleton m
  ({ o with own := (o.own.insert e).2 }, R)

def run : Operation Symbol → Update Answer
  | .intern x => .symbol <$> modifyGet (·.intern x)
  | .defineClass d => .symbol <$> defineClass d
  | .defineModule d => .symbol <$> defineModule d
  | .defineMethod c m => (fun _ => .done) <$> defineMethod c m
  | .removeMethod c x => .flag <$> removeMethod c x
  | .extendModule c m => (fun _ => .done) <$> extendModule c m
  | .mark c => .symbol <$> mark c
  | .setHandler c h => (fun _ => .done) <$> setHandler c (some h)
  | .clearHandler c => (fun _ => .done) <$> setHandler c none
  | .declare c ms => (fun _ => .done) <$> declare c ms

def answer (R : Registry) : Question Symbol → Except Fault Answer
  | .textSymbol x => return .symbol? (R.textSymbol? x)
  | .entity x => return .symbol? (R.entity? x)
  | .nameOf s => return .text? (R.nameOf? s)
  | .isClass s => return .flag (R.isClass s)
  | .isModule s => return .flag (R.isModule s)
  | .isInterface s => return .flag (R.isInterface s)
  | .classAt s => .cls <$> R.classAt s
  | .moduleAt s => .mod <$> R.moduleAt s
  | q => q.run R.row

end Registry

end InterfaceLedger
