/-!
Types and values. A type is one of thirteen names, in a fixed order; every value carries exactly
one of them. Nothing is converted: `7` as a `u8` and `7` as a `u16` are two different values.
-/
namespace InterfaceLedger

inductive Ty where
  | void | bool
  | u8 | u16 | u32 | u64
  | i8 | i16 | i32 | i64
  | f32 | f64
  | str
  deriving DecidableEq, Ord, Repr, Inhabited

def Ty.name : Ty → String
  | .void => "void"
  | .bool => "bool"
  | .u8 => "u8"
  | .u16 => "u16"
  | .u32 => "u32"
  | .u64 => "u64"
  | .i8 => "i8"
  | .i16 => "i16"
  | .i32 => "i32"
  | .i64 => "i64"
  | .f32 => "f32"
  | .f64 => "f64"
  | .str => "str"

def Ty.all : List Ty :=
  [.void, .bool, .u8, .u16, .u32, .u64, .i8, .i16, .i32, .i64, .f32, .f64, .str]

def Ty.ofName? (name : String) : Option Ty := Ty.all.find? (·.name == name)

theorem Ty.ofName?_name (t : Ty) : Ty.ofName? t.name = some t := by cases t <;> decide

def Ty.sort (ts : List Ty) : List Ty := ts.mergeSort fun a b => (compare a b).isLE

/-- Values compare by type first. Floats compare as numbers, so a NaN differs from itself and the
    two zeros are equal. -/
inductive Value where
  | void
  | bool (b : Bool)
  | u8 (n : UInt8)
  | u16 (n : UInt16)
  | u32 (n : UInt32)
  | u64 (n : UInt64)
  | i8 (n : Int8)
  | i16 (n : Int16)
  | i32 (n : Int32)
  | i64 (n : Int64)
  | f32 (x : Float32)
  | f64 (x : Float)
  | str (s : String)
  deriving BEq, Inhabited

def Value.ty : Value → Ty
  | .void => .void
  | .bool _ => .bool
  | .u8 _ => .u8
  | .u16 _ => .u16
  | .u32 _ => .u32
  | .u64 _ => .u64
  | .i8 _ => .i8
  | .i16 _ => .i16
  | .i32 _ => .i32
  | .i64 _ => .i64
  | .f32 _ => .f32
  | .f64 _ => .f64
  | .str _ => .str

end InterfaceLedger
