import DataGrid.Json.Token

/-!
# JSON documents

A `Document` is well-formed JSON text as a tree.  `Document.parse?` builds it from the tokens with
a stack of the containers that are still open, so it takes one step for each token.
-/

namespace DataGrid.Json

/-- Well-formed JSON text as a tree. -/
inductive Document where
  | null
  | bool (b : Bool)
  | number (n : NumberText)
  | string (units : List StringUnit)
  | array (items : List Document)
  | object (members : List (List StringUnit × Document))

namespace Document

/-- A container that is still open, its items latest first. -/
inductive Frame where
  | array (items : List Document)
  | object (members : List (List StringUnit × Document)) (key : List StringUnit)

/-- What may come next. -/
inductive Expect where
  /-- A value. -/
  | value
  /-- The first item of an array, or its end. -/
  | firstItem
  /-- The first key of an object, or its end. -/
  | firstKey
  /-- A key of an object after these members. -/
  | key (members : List (List StringUnit × Document))
  /-- The colon after this key. -/
  | colon (members : List (List StringUnit × Document)) (key : List StringUnit)
  /-- A comma or the end of the innermost container, after this value. -/
  | after (value : Document)

/-- Begin a value. -/
def begin (open' : List Frame) : Token → Option (List Frame × Expect)
  | .null => some (open', .after .null)
  | .bool b => some (open', .after (.bool b))
  | .number n => some (open', .after (.number n))
  | .string units => some (open', .after (.string units))
  | .openArray => some (open', .firstItem)
  | .openObject => some (open', .firstKey)
  | _ => none

/-- Read one token.  An opened container is put on the stack when its first item or key comes. -/
def step (open' : List Frame) : Expect → Token → Option (List Frame × Expect)
  | .value, token => begin open' token
  | .firstItem, .closeArray => some (open', .after (.array []))
  | .firstItem, token => begin (.array [] :: open') token
  | .firstKey, .closeObject => some (open', .after (.object []))
  | .firstKey, .string key => some (open', .colon [] key)
  | .key members, .string key => some (open', .colon members key)
  | .colon members key, .colon => some (.object members key :: open', .value)
  | .after value, token =>
    match open', token with
    | .array items :: outer, .comma => some (.array (value :: items) :: outer, .value)
    | .array items :: outer, .closeArray => some (outer, .after (.array (value :: items).reverse))
    | .object members key :: outer, .comma => some (outer, .key ((key, value) :: members))
    | .object members key :: outer, .closeObject =>
      some (outer, .after (.object ((key, value) :: members).reverse))
    | _, _ => none
  | _, _ => none

/-- The document when the tokens have ended. -/
def finish : List Frame × Expect → Option Document
  | ([], .after value) => some value
  | _ => none

/-- The document that a text writes; `none` if it is no JSON. -/
def parse? (text : List Char) : Option Document :=
  ((Token.scan text).bind fun tokens =>
    tokens.foldlM (fun (open', expect) token => step open' expect token) ([], Expect.value)).bind
      finish

end Document

end DataGrid.Json
