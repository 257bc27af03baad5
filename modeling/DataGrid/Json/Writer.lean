import DataGrid.Decimal.Reader
import DataGrid.Decimal.Text
import DataGrid.Json

/-!
# Writing JSON

`Json.compact` writes a value on one line and `Json.pretty` one item to a line.
-/

namespace DataGrid.Json

/-- A hexadecimal digit. -/
def hexChar (n : Nat) : Char := Nat.digitChar n

/-- A character inside a JSON string. -/
def escape (c : Char) : List Char :=
  match c with
  | '"' => ['\\', '"']
  | '\\' => ['\\', '\\']
  | '\x08' => ['\\', 'b']
  | '\x0c' => ['\\', 'f']
  | '\n' => ['\\', 'n']
  | '\r' => ['\\', 'r']
  | '\t' => ['\\', 't']
  | c =>
    if c.toNat < 0x20 then
      ['\\', 'u', '0', '0', hexChar (c.toNat / 16), hexChar (c.toNat % 16)]
    else [c]

/-- A JSON string. -/
def quote (s : String) : String := "\"" ++ String.ofList (s.toList.flatMap escape) ++ "\""

/-- A JSON number. -/
def Number.write : Number → String
  | .whole n => toString n
  | .real x => Decimal.jsonFloat x

/-- What is written between the items of a container, at a given depth. -/
structure Spacing where
  /-- The text before an item. -/
  newline : Nat → String
  /-- The text after the name of a member. -/
  colon : String

/-- Everything on one line. -/
def Spacing.compact : Spacing := ⟨fun _ => "", ":"⟩

/-- Each item on a line of its own, indented by two for each container around it. -/
def Spacing.pretty : Spacing :=
  ⟨fun depth => "\n" ++ String.ofList (List.replicate (2 * depth) ' '), ": "⟩

mutual

/-- Write a value that stands in `depth` containers. -/
def write (l : Spacing) (depth : Nat) : Json → String
  | .null => "null"
  | .bool b => if b then "true" else "false"
  | .number n => n.write
  | .text s => quote s
  | .array [] => "[]"
  | .array (v :: rest) =>
    "[" ++ l.newline (depth + 1) ++ write l (depth + 1) v ++ writeItems l (depth + 1) rest
      ++ l.newline depth ++ "]"
  | .object [] => "\x7b\x7d"
  | .object ((name, v) :: rest) =>
    "\x7b" ++ l.newline (depth + 1) ++ quote name ++ l.colon ++ write l (depth + 1) v
      ++ writeMembers l (depth + 1) rest ++ l.newline depth ++ "\x7d"

/-- Write the items after the first one. -/
def writeItems (l : Spacing) (depth : Nat) : List Json → String
  | [] => ""
  | v :: rest => "," ++ l.newline depth ++ write l depth v ++ writeItems l depth rest

/-- Write the members after the first one. -/
def writeMembers (l : Spacing) (depth : Nat) : List (String × Json) → String
  | [] => ""
  | (name, v) :: rest =>
    "," ++ l.newline depth ++ quote name ++ l.colon ++ write l depth v ++ writeMembers l depth rest

end

def compact (v : Json) : String := v.write .compact 0

def pretty (v : Json) : String := v.write .pretty 0

/-- A single as a JSON number: the double nearest to its shortest decimal, so that it is written
with no more digits than a single has. -/
def ofFloat32 (x : Float32) : Json :=
  if x.isFinite then
    let d := Decimal.jsonFloat32 x
    match Decimal.Numeral.read? d.toList with
    | some n => .number (.real n.toFloat)
    | none => .null
  else .null

end DataGrid.Json
