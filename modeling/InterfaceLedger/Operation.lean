import InterfaceLedger.Ledger.Conformance

/-!
Operations and questions as data. An `Operation` changes a ledger, a `Question` only reads it, an
`InstanceQuestion` reads it on behalf of an instance. All are stated over a way `ρ` of referring
to classes and modules: symbols when they are run, names or anything else before that, and
`mapRefs` goes from the one to the other. `Answer` is what comes back.
-/
namespace InterfaceLedger

inductive Operation (ρ : Type) where
  | intern (name : String)
  | defineClass (decl : ClassDecl)
  | defineModule (decl : ModuleDecl)
  | defineMethod (cls : ρ) (method : MethodDecl)
  | removeMethod (cls : ρ) (name : String)
  | extendModule (mod : ρ) (method : MethodDecl)
  | mark (mod : ρ)
  | setHandler (cls : ρ) (handler : Handler)
  | clearHandler (cls : ρ)
  | declare (cls : ρ) (mods : List ρ)

inductive Question (ρ : Type) where
  | textSymbol (text : String)
  | entity (name : String)
  | nameOf (s : ρ)
  | isClass (s : ρ)
  | isModule (s : ρ)
  | isInterface (s : ρ)
  | classAt (s : ρ)
  | moduleAt (s : ρ)
  | ancestors (cls : ρ)
  | interfaces (cls : ρ)
  | gap (cls face : ρ)
  | gaps (cls : ρ)
  | classResolve (cls : ρ) (name : String)
  | listing

inductive InstanceQuestion (ρ : Type) where
  | self
  | gap (face : ρ)
  | gaps
  | resolve (name : String)
  | respondsTo (name : String) (inside : Bool)
  | call (name : String) (args : List Value)
  | send (name : String) (args : List Value)

inductive Answer where
  | done
  | flag (b : Bool)
  | symbol (s : Symbol)
  | symbol? (s : Option Symbol)
  | text? (x : Option String)
  | cls (record : ClassRecord)
  | mod (record : ModuleRecord)
  | symbols (l : List Symbol)
  | owners (l : List Owner)
  | names (l : List String)
  | gaps (l : List (Symbol × List String))
  | found (e : Option Entry)
  | value (v : Value)
  | self (o : Instance)
  | listing (l : List (String × Binding))

section Refs

variable {ρ σ : Type} {m : Type → Type} [Monad m]

def Operation.mapRefs (f : ρ → m σ) : Operation ρ → m (Operation σ)
  | intern x => pure (intern x)
  | defineClass d => pure (defineClass d)
  | defineModule d => pure (defineModule d)
  | defineMethod c d => return defineMethod (← f c) d
  | removeMethod c x => return removeMethod (← f c) x
  | extendModule c d => return extendModule (← f c) d
  | mark c => return mark (← f c)
  | setHandler c h => return setHandler (← f c) h
  | clearHandler c => return clearHandler (← f c)
  | declare c ms => return declare (← f c) (← ms.mapM f)

def Question.mapRefs (f : ρ → m σ) : Question ρ → m (Question σ)
  | textSymbol x => pure (textSymbol x)
  | entity x => pure (entity x)
  | nameOf s => return nameOf (← f s)
  | isClass s => return isClass (← f s)
  | isModule s => return isModule (← f s)
  | isInterface s => return isInterface (← f s)
  | classAt s => return classAt (← f s)
  | moduleAt s => return moduleAt (← f s)
  | ancestors c => return ancestors (← f c)
  | interfaces c => return interfaces (← f c)
  | gap c i => return gap (← f c) (← f i)
  | gaps c => return gaps (← f c)
  | classResolve c x => return classResolve (← f c) x
  | listing => pure listing

def InstanceQuestion.mapRefs (f : ρ → m σ) : InstanceQuestion ρ → m (InstanceQuestion σ)
  | self => pure self
  | gap i => return gap (← f i)
  | gaps => pure gaps
  | resolve x => pure (resolve x)
  | respondsTo x p => pure (respondsTo x p)
  | call x args => pure (call x args)
  | send x args => pure (send x args)

end Refs

def Operation.run : Operation Symbol → Update Answer
  | intern x => .symbol <$> modifyGet (·.intern x)
  | defineClass d => .symbol <$> Ledger.defineClass d
  | defineModule d => .symbol <$> Ledger.defineModule d
  | defineMethod c d => (fun _ => .done) <$> Ledger.defineMethod c d
  | removeMethod c x => .flag <$> Ledger.removeMethod c x
  | extendModule c d => (fun _ => .done) <$> Ledger.extendModule c d
  | mark c => .symbol <$> Ledger.mark c
  | setHandler c h => (fun _ => .done) <$> Ledger.setHandler c (some h)
  | clearHandler c => (fun _ => .done) <$> Ledger.setHandler c none
  | declare c ms => (fun _ => .done) <$> Ledger.declare c ms

def Question.run (L : Ledger) : Question Symbol → Except Fault Answer
  | textSymbol x => return .symbol? (L.textSymbol? x)
  | entity x => return .symbol? (L.entity? x)
  | nameOf s => return .text? (L.nameOf? s)
  | isClass s => return .flag (L.isClass s)
  | isModule s => return .flag (L.isModule s)
  | isInterface s => return .flag (L.isInterface s)
  | classAt s => .cls <$> L.classAt s
  | moduleAt s => .mod <$> L.moduleAt s
  | ancestors c => .owners <$> L.ancestors c
  | interfaces c => .symbols <$> L.interfaces c
  | gap c i => .names <$> L.gap c ∅ i
  | gaps c => .gaps <$> L.gaps c ∅
  | classResolve c x => .found <$> L.classResolve c x
  | listing => return .listing L.listing

def InstanceQuestion.run (L : Ledger) (o : Instance) :
    InstanceQuestion Symbol → Except Fault Answer
  | self => return .self o
  | gap i => .names <$> L.gap o.cls o.own i
  | gaps => .gaps <$> L.gaps o.cls o.own
  | resolve x => .found <$> L.resolve o x
  | respondsTo x p => .flag <$> L.respondsTo o x p
  | call x args => .value <$> L.call o x args
  | send x args => .value <$> L.send o x args

end InterfaceLedger
