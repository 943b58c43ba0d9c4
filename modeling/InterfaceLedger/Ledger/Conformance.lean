import InterfaceLedger.Ledger.Dispatch

/-!
Declaring interfaces, and gaps. Every module that is declared becomes an interface and goes to the
front of the modules attached to the class, unless the class has it already, itself or through a
superclass. The modules are attached from the last to the first, so the one that is listed first
ends up in front. Nothing happens unless all the symbols are good.

A method that an interface declares is missing from a class when the search for it ends at the
interface itself, or nowhere, and no catch-all handler takes the name. Whatever else is found counts
as an implementation, be it private, inherited, blank or declared by another interface. Nothing is
stored: a gap is read off the tables as they are.
-/
namespace InterfaceLedger

namespace Ledger

def attach (cls mod : Symbol) : Update Unit := do
  let _ ← mark mod
  if .ofModule mod ∈ (← ask (ancestors · cls)) then return
  updateClass cls fun c => { c with includes := mod :: c.includes }

def declare (cls : Symbol) (mods : List Symbol) : Update Unit := do
  let _ ← ask (classAt · cls)
  mods.forM fun m => discard (ask (moduleAt · m))
  mods.reverse.forM (attach cls)

def interfacesAmong (L : Ledger) (owners : List Owner) : List Symbol :=
  (owners.filterMap fun
    | .ofModule m => if L.isInterface m then some m else none
    | _ => none).eraseDups

def interfaces (L : Ledger) (cls : Symbol) : Except Fault (List Symbol) :=
  L.interfacesAmong <$> L.ancestors cls

/-- The name of a declared method that only the interface itself answers to, if anything does. -/
def unserved? (L : Ledger) (cls : Symbol) (own : MethodTable) (face : Symbol)
    (handler : Option Handler) (s : Symbol) : Except Fault (Option String) := do
  let name := L.describe s
  let overridden := (← L.lookup cls own s).any (·.owner ≠ .ofModule face)
  let caught := handler.any (·.accepts name true)
  return if overridden || caught then none else some name

/-- The gap of a class, or of an instance with methods of its own, against one interface: the
    names that nothing else serves, sorted. -/
def gap (L : Ledger) (cls : Symbol) (own : MethodTable) (face : Symbol) :
    Except Fault (List String) := do
  let m ← L.moduleAt face
  unless m.isInterface do throw (.notAnInterface (L.describe face))
  let handler ← L.handlerFor cls
  let names ← m.declared.mapM (L.unserved? cls own face handler)
  return (names.filterMap id).mergeSort (· ≤ ·)

def gaps (L : Ledger) (cls : Symbol) (own : MethodTable) :
    Except Fault (List (Symbol × List String)) := do
  let all ← (← L.interfaces cls).mapM fun face => return (face, ← L.gap cls own face)
  return all.filter (!·.2.isEmpty)

end Ledger

end InterfaceLedger
