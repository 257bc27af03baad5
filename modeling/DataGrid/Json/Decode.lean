import DataGrid.Json.Document
import DataGrid.Json.Number

/-!
# Values out of JSON documents

Readers for the values that a document holds.  Each gives `none` for a document of another shape.
Only here are the strings, the numbers and the depth of a document checked, so that a part that is
never read may be anything that is well-formed.
-/

namespace DataGrid.Json

/-- Containers that are read may be nested this deep. -/
def maxDepth : Nat := 127

namespace StringUnit

/-- The characters of a string; `none` if half of a surrogate pair stands alone. -/
def chars? : List StringUnit → Option (List Char)
  | [] => some []
  | .char c :: rest => (chars? rest).map (c :: ·)
  | .code u :: rest =>
    if 0xD800 ≤ u && u ≤ 0xDBFF then
      match rest with
      | .code v :: rest =>
        if 0xDC00 ≤ v && v ≤ 0xDFFF then
          (chars? rest).map (Char.ofNat (0x10000 + (u - 0xD800) * 0x400 + (v - 0xDC00)) :: ·)
        else none
      | _ => none
    else if 0xDC00 ≤ u && u ≤ 0xDFFF then none
    else (chars? rest).map (Char.ofNat u :: ·)

/-- The text of a string. -/
def text? (units : List StringUnit) : Option String := (chars? units).map String.ofList

end StringUnit

namespace Document

mutual

/-- The value of a document whose containers are nested at most `room` deep. -/
def json? : (room : Nat) → Document → Option Json
  | _, .null => some .null
  | _, .bool b => some (.bool b)
  | _, .number n => n.value?.map .number
  | _, .string units => (StringUnit.text? units).map .text
  | 0, .array _ => none
  | room + 1, .array items => (jsonItems? room items).map .array
  | 0, .object _ => none
  | room + 1, .object members =>
    (jsonMembers? room members).map fun entries => .ofProperties (.ofEntries entries)

/-- The values of the items of an array. -/
def jsonItems? : (room : Nat) → List Document → Option (List Json)
  | _, [] => some []
  | room, d :: rest => do
    let v ← json? room d
    return v :: (← jsonItems? room rest)

/-- The names and values of the members of an object. -/
def jsonMembers? : (room : Nat) → List (List StringUnit × Document) → Option (List (String × Json))
  | _, [] => some []
  | room, (key, d) :: rest => do
    let name ← StringUnit.text? key
    let v ← json? room d
    return (name, v) :: (← jsonMembers? room rest)

end

/-- The value of a document that is read as a whole. -/
def value? (d : Document) : Option Json := d.json? maxDepth

/-- A map of properties inside `depth` other containers. -/
def properties? (depth : Nat) (d : Document) : Option Properties :=
  (d.json? (maxDepth - depth)).bind Json.properties?

def bool? : Document → Option Bool
  | .bool b => some b
  | _ => none

def text? : Document → Option String
  | .string units => StringUnit.text? units
  | _ => none

def number? : Document → Option Number
  | .number n => n.value?
  | _ => none

/-- A whole number without a sign that fits in 64 bits. -/
def nat? (d : Document) : Option Nat :=
  match d.number? with
  | some (.whole n) => n.toNat?
  | _ => none

/-- A whole number with a sign that fits in 64 bits. -/
def int? (d : Document) : Option Int :=
  match d.number? with
  | some (.whole n) => if n < NumberText.maxNegative then some n else none
  | _ => none

/-- A number in double precision. -/
def float? (d : Document) : Option Float :=
  match d.number? with
  | some (.whole n) => some (Float.ofInt n)
  | some (.real x) => some x
  | none => none

/-- A number in single precision.  A real number is rounded to a double first. -/
def float32? (d : Document) : Option Float32 :=
  match d.number? with
  | some (.whole n) => some (Float32.ofInt n)
  | some (.real x) => some x.toFloat32
  | none => none

/-- The items of an array. -/
def list? {β : Type} (read : Document → Option β) : Document → Option (List β)
  | .array items => items.mapM read
  | _ => none

/-- Nothing if the document is `null`. -/
def nullable? {β : Type} (read : Document → Option β) : Document → Option (Option β)
  | .null => some none
  | d => (read d).map some

/-- One of a list of names: a string, or an object that gives `null` under the name. -/
def name? : Document → Option String
  | .string units => StringUnit.text? units
  | .object [(key, .null)] => StringUnit.text? key
  | _ => none

/-- The parts of a document that have a name. -/
abbrev Fields := List (String × Document)

/-- The named parts of an object; other parts are passed over, and a part given twice is an
error. -/
def objectFields? (names : List String) (members : List (List StringUnit × Document)) :
    Option Fields :=
  members.foldlM (fun fields (key, d) => do
    let name ← StringUnit.text? key
    if !names.contains name then return fields
    if fields.any (·.1 = name) then none
    return (name, d) :: fields) []

/-- The named parts of a document: those of an object, or the items of an array in the order of
the names, of which the last ones may be left out. -/
def fields? (names : List String) : Document → Option Fields
  | .object members => objectFields? names members
  | .array items => if items.length ≤ names.length then some (names.zip items) else none
  | _ => none

namespace Fields

/-- The part of this name. -/
def get? (fields : Fields) (name : String) : Option Document :=
  (fields.find? (·.1 = name)).map (·.2)

/-- A part that has to be there. -/
def required {β : Type} (fields : Fields) (name : String) (read : Document → Option β) :
    Option β :=
  (fields.get? name).bind read

/-- A part that has a default. -/
def optional {β : Type} (fields : Fields) (name : String) (default : β)
    (read : Document → Option β) : Option β :=
  match fields.get? name with
  | none => some default
  | some d => read d

end Fields

end Document

end DataGrid.Json
