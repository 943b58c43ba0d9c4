import InterfaceLedger.Ledger.Define

/-!
Inspection texts: records written out on one line, field by field. A table is written out only
while it has at most one entry, so whatever holds a longer one has no text. A native body shows
the word `PTR` where its address would stand.
-/
namespace InterfaceLedger

namespace Inspect

def fields (title : String) (fs : List (String × String)) : String :=
  s!"{title} \x7b " ++ ", ".intercalate (fs.map fun (k, v) => s!"{k}: {v}") ++ " \x7d"

def list (items : List String) : String := "[" ++ ", ".intercalate items ++ "]"

def symbols (l : List Symbol) : String := list (l.map toString)

def type : Ty → String
  | .void => "Void"
  | .bool => "Bool"
  | .u8 => "U8"
  | .u16 => "U16"
  | .u32 => "U32"
  | .u64 => "U64"
  | .i8 => "I8"
  | .i16 => "I16"
  | .i32 => "I32"
  | .i64 => "I64"
  | .f32 => "F32"
  | .f64 => "F64"
  | .str => "Str"

def types (ts : List Ty) : String := list (ts.map type)

def signature (s : Signature) : String := fields "SignatureEntry" [("types", types s.types)]

def owner : Owner → String
  | .ofClass s => s!"Class({s})"
  | .ofModule s => s!"Module({s})"
  | .singleton => "Singleton"

def visibility : Visibility → String
  | .pub => "Public"
  | .priv => "Private"

def body : Body → String
  | .blank => "Blank"
  | .native _ => fields "Native" [("ptr", "PTR")]

def entry (e : Entry) : String :=
  fields "Function" [
    ("name", toString e.name),
    ("owner", owner e.owner),
    ("arguments", types e.params),
    ("return_type", type e.result),
    ("visibility", visibility e.visibility),
    ("value", body e.body)]

def table? (t : MethodTable) : Option String :=
  match t.toList with
  | [] => some (fields "VTable" [("symbol_mapper", "\x7b\x7d"), ("table", "[]")])
  | [e] =>
    let mapper := ", ".intercalate (t.index.toList.map fun (s, i) => s!"{s}: {i}")
    some (fields "VTable" [
      ("symbol_mapper", "\x7b" ++ mapper ++ "\x7d"),
      ("table", list [entry e])])
  | _ => none

def optional : Option Symbol → String
  | none => "None"
  | some s => s!"Some({s})"

def class? (c : ClassRecord) : Option String := do
  let table ← table? c.table
  return fields "Class" [
    ("name", toString c.name),
    ("parent", optional c.parent),
    ("vtable", table),
    ("includes", symbols c.includes),
    ("missing_method_handler", toString c.handler.isSome)]

def role : Role → String
  | .capability => "Capability"
  | .interface => "Interface"

def module? (m : ModuleRecord) : Option String := do
  let table ← table? m.table
  return fields "Module" [
    ("name", toString m.name),
    ("kind", role m.role),
    ("vtable", table)]

def instance? (o : Instance) : Option String := do
  let table ← table? o.own
  return fields "Object" [("class", toString o.cls), ("singleton_methods", table)]

end Inspect

end InterfaceLedger
