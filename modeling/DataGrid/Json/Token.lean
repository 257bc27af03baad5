/-!
# Tokens of JSON text

`Token.scan` cuts JSON text into tokens.  Numbers are kept as they are written and the units of
strings are kept one by one, because what a number or a string means is asked only of values that
are used: a value that is skipped has to be well-formed and no more.
-/

namespace DataGrid.Json

/-- One unit of a string: a character, or a code unit of UTF-16 written as an escape. -/
inductive StringUnit where
  | char (c : Char)
  | code (u : Nat)

/-- A number as it is written: whether there is a minus, the digits before and after the point,
and the power of ten. -/
structure NumberText where
  negative : Bool
  whole : List Char
  places : List Char
  /-- Whether there is a point or a power. -/
  real : Bool
  powerNegative : Bool
  power : List Char

/-- A token of JSON text. -/
inductive Token where
  | openArray
  | closeArray
  | openObject
  | closeObject
  | comma
  | colon
  | null
  | bool (b : Bool)
  | number (n : NumberText)
  | string (units : List StringUnit)

namespace Token

/-- How far a number has been read. -/
inductive NumberPhase where
  | afterMinus
  | afterZero
  | inWhole
  | afterPoint
  | inPlaces
  | afterMark
  | afterSign
  | inPower
deriving DecidableEq

/-- Whether a number may end in this phase. -/
def NumberPhase.complete : NumberPhase → Bool
  | .afterZero | .inWhole | .inPlaces | .inPower => true
  | _ => false

/-- What has been begun when a character is read.  Digits and units are kept latest first. -/
inductive State where
  | ready
  | word (left : List Char) (token : Token)
  | number (phase : NumberPhase) (n : NumberText)
  | string (units : List StringUnit)
  | escape (units : List StringUnit)
  | hex (units : List StringUnit) (digits value : Nat)

/-- A number with its digits in reading order. -/
def close (n : NumberText) : NumberText :=
  { n with whole := n.whole.reverse, places := n.places.reverse, power := n.power.reverse }

/-- The next phase of a number after a character; `none` if the character is no part of it. -/
def continueNumber (phase : NumberPhase) (n : NumberText) (c : Char) :
    Option (NumberPhase × NumberText) :=
  match phase with
  | .afterMinus =>
    if c = '0' then some (.afterZero, { n with whole := c :: n.whole })
    else if c.isDigit then some (.inWhole, { n with whole := c :: n.whole })
    else none
  | .afterZero => fraction n c
  | .inWhole =>
    if c.isDigit then some (.inWhole, { n with whole := c :: n.whole }) else fraction n c
  | .afterPoint => if c.isDigit then some (.inPlaces, { n with places := c :: n.places }) else none
  | .inPlaces =>
    if c.isDigit then some (.inPlaces, { n with places := c :: n.places }) else mark n c
  | .afterMark =>
    if c = '-' then some (.afterSign, { n with powerNegative := true })
    else if c = '+' then some (.afterSign, n)
    else digit n c
  | .afterSign => digit n c
  | .inPower => digit n c
where
  mark (n : NumberText) (c : Char) : Option (NumberPhase × NumberText) :=
    if c = 'e' || c = 'E' then some (.afterMark, { n with real := true }) else none
  fraction (n : NumberText) (c : Char) : Option (NumberPhase × NumberText) :=
    if c = '.' then some (.afterPoint, { n with real := true }) else mark n c
  digit (n : NumberText) (c : Char) : Option (NumberPhase × NumberText) :=
    if c.isDigit then some (.inPower, { n with power := c :: n.power }) else none

/-- White space between tokens. -/
def isSpace (c : Char) : Bool := c = ' ' || c = '\n' || c = '\t' || c = '\r'

/-- Begin a token; the tokens that are complete come latest first. -/
def start (done : List Token) (c : Char) : Option (List Token × State) :=
  match c with
  | '[' => some (.openArray :: done, .ready)
  | ']' => some (.closeArray :: done, .ready)
  | '{' => some (.openObject :: done, .ready)
  | '}' => some (.closeObject :: done, .ready)
  | ',' => some (.comma :: done, .ready)
  | ':' => some (.colon :: done, .ready)
  | '"' => some (done, .string [])
  | 'n' => some (done, .word ['u', 'l', 'l'] .null)
  | 't' => some (done, .word ['r', 'u', 'e'] (.bool true))
  | 'f' => some (done, .word ['a', 'l', 's', 'e'] (.bool false))
  | '-' => some (done, .number .afterMinus ⟨true, [], [], false, false, []⟩)
  | '0' => some (done, .number .afterZero ⟨false, ['0'], [], false, false, []⟩)
  | c =>
    if c.isDigit then some (done, .number .inWhole ⟨false, [c], [], false, false, []⟩)
    else if isSpace c then some (done, .ready)
    else none

/-- The value of a hexadecimal digit. -/
def hexDigit? (c : Char) : Option Nat :=
  if '0' ≤ c && c ≤ '9' then some (c.toNat - '0'.toNat)
  else if 'a' ≤ c && c ≤ 'f' then some (c.toNat - 'a'.toNat + 10)
  else if 'A' ≤ c && c ≤ 'F' then some (c.toNat - 'A'.toNat + 10)
  else none

/-- The character that a one-letter escape stands for. -/
def escape? : Char → Option Char
  | '"' => some '"'
  | '\\' => some '\\'
  | '/' => some '/'
  | 'b' => some '\x08'
  | 'f' => some '\x0c'
  | 'n' => some '\n'
  | 'r' => some '\r'
  | 't' => some '\t'
  | _ => none

/-- Read one character. -/
def step (done : List Token) (state : State) (c : Char) : Option (List Token × State) :=
  match state with
  | .ready => start done c
  | .word [] _ => none
  | .word (d :: left) token =>
    if c ≠ d then none
    else if left.isEmpty then some (token :: done, .ready)
    else some (done, .word left token)
  | .number phase n =>
    match continueNumber phase n c with
    | some (phase, n) => some (done, .number phase n)
    | none => if phase.complete then start (.number (close n) :: done) c else none
  | .string units =>
    if c = '"' then some (.string units.reverse :: done, .ready)
    else if c = '\\' then some (done, .escape units)
    else if c.toNat < 0x20 then none
    else some (done, .string (.char c :: units))
  | .escape units =>
    if c = 'u' then some (done, .hex units 0 0)
    else (escape? c).map fun e => (done, .string (.char e :: units))
  | .hex units digits value =>
    (hexDigit? c).map fun d =>
      let value := 16 * value + d
      if digits = 3 then (done, .string (.code value :: units))
      else (done, .hex units (digits + 1) value)

/-- The tokens when the text has ended. -/
def finish : List Token × State → Option (List Token)
  | (done, .ready) => some done.reverse
  | (done, .number phase n) =>
    if phase.complete then some (.number (close n) :: done).reverse else none
  | _ => none

/-- The tokens of a text; `none` if it cannot be cut into tokens. -/
def scan (text : List Char) : Option (List Token) :=
  (text.foldlM (fun (done, state) c => step done state c) ([], State.ready)).bind finish

end Token

end DataGrid.Json
