/-!
# JSON values

`Json` is the type of JSON values, and `Properties` the type of property maps: a finite map from
names to JSON values, kept as the list of its entries in the order in which the names were first
set.  Looking a name up after a `set` gives the new value for that name and the old one for every
other (`Properties.get?_set`), and a merge is a layered lookup (`Properties.get?_merge`).
-/

namespace DataGrid

/-- A JSON number: whole if it is written without a point or an exponent and fits in 64 bits. -/
inductive Json.Number where
  | whole (n : Int)
  | real (x : Float)

/-- A JSON value. -/
inductive Json where
  | null
  | bool (b : Bool)
  | number (n : Json.Number)
  | text (s : String)
  | array (items : List Json)
  | object (members : List (String × Json))

instance : Inhabited Json := ⟨.null⟩

/-- A map from property names to values. -/
structure Properties where
  entries : List (String × Json)

namespace Properties

/-- The map without entries. -/
def empty : Properties := ⟨[]⟩

instance : Inhabited Properties := ⟨empty⟩

def isEmpty (p : Properties) : Bool := p.entries.isEmpty

/-- The value under a name. -/
def get? (p : Properties) (name : String) : Option Json :=
  (p.entries.find? (·.1 = name)).map (·.2)

/-- Replace the first entry of that name, or add one at the end. -/
def setEntry (name : String) (value : Json) : List (String × Json) → List (String × Json)
  | [] => [(name, value)]
  | e :: rest => if e.1 = name then (name, value) :: rest else e :: setEntry name value rest

/-- Put a value under a name. -/
def set (p : Properties) (name : String) (value : Json) : Properties :=
  ⟨setEntry name value p.entries⟩

/-- Lay the entries of `above` over those of `p`. -/
def merge (p above : Properties) : Properties :=
  above.entries.foldr (fun e acc => acc.set e.1 e.2) p

/-- The entries whose name passes a test. -/
def filterNames (p : Properties) (keep : String → Bool) : Properties :=
  ⟨p.entries.filter fun e => keep e.1⟩

/-- The map of a list of entries; of two entries of one name the later counts. -/
def ofEntries (entries : List (String × Json)) : Properties :=
  entries.foldl (fun acc e => acc.set e.1 e.2) empty

@[simp]
theorem get?_empty (name : String) :
  empty.get? name = none
  := rfl

theorem find?_setEntry (entries : List (String × Json)) (name other : String) (value : Json) :
  ((setEntry name value entries).find? (·.1 = other)).map (·.2)
    = if other = name then some value else (entries.find? (·.1 = other)).map (·.2)
  := by
  induction entries with
  | nil => by_cases h : other = name <;> simp [setEntry, h, eq_comm]
  | cons e rest ih =>
    by_cases he : e.1 = name <;> by_cases ho : other = name
    · simp [setEntry, he, ho]
    · have hn : ¬ name = other := fun h => ho h.symm
      simp [setEntry, he, ho, hn]
    · subst ho
      simpa [setEntry, he] using ih
    · by_cases heo : e.1 = other
      · simp [setEntry, ho, heo]
      · simpa [setEntry, he, ho, heo] using ih

/-- A name that has been set holds the new value; every other name holds what it held. -/
theorem get?_set (p : Properties) (name other : String) (value : Json) :
  (p.set name value).get? other = if other = name then some value else p.get? other
  := find?_setEntry p.entries name other value

/-- A name is looked up in the upper map first. -/
theorem get?_merge (p above : Properties) (name : String) :
  (p.merge above).get? name = (above.get? name).or (p.get? name)
  := by
  obtain ⟨entries⟩ := above
  unfold merge
  induction entries with
  | nil => simp [get?]
  | cons e rest ih =>
    simp only [List.foldr_cons, get?_set, ih]
    by_cases h : e.1 = name
    · simp [get?, h]
    · have hn : ¬ name = e.1 := fun hh => h hh.symm
      simp [get?, h, hn]

/-- A name that fails the test is forgotten; the others hold what they held. -/
theorem get?_filterNames (p : Properties) (keep : String → Bool) (name : String) :
  (p.filterNames keep).get? name = if keep name then p.get? name else none
  := by
  obtain ⟨entries⟩ := p
  simp only [filterNames, get?]
  induction entries with
  | nil => simp
  | cons e rest ih =>
    by_cases hk : keep e.1 <;> by_cases hn : e.1 = name
    · subst hn
      simp [hk]
    · simpa [hk, hn] using ih
    · subst hn
      simpa [hk] using ih
    · simpa [hk, hn] using ih

end Properties

namespace Json

/-- A JSON object with these entries. -/
def ofProperties (p : Properties) : Json := .object p.entries

/-- The text of a JSON string. -/
def text? : Json → Option String
  | .text s => some s
  | _ => none

/-- The entries of a JSON object. -/
def properties? : Json → Option Properties
  | .object members => some ⟨members⟩
  | _ => none

/-- A whole number of at least zero. -/
def nat? : Json → Option Nat
  | .number (.whole n) => n.toNat?
  | _ => none

/-- A whole number as JSON. -/
def ofNat (n : Nat) : Json := .number (.whole n)

mutual

/-- Put another value in the place of each number. -/
def mapNumbers (f : Number → Json) : Json → Json
  | .number n => f n
  | .array items => .array (mapItems f items)
  | .object members => .object (mapMembers f members)
  | other => other

/-- Put another value in the place of each number of the items of an array. -/
def mapItems (f : Number → Json) : List Json → List Json
  | [] => []
  | v :: rest => mapNumbers f v :: mapItems f rest

/-- Put another value in the place of each number of the members of an object. -/
def mapMembers (f : Number → Json) : List (String × Json) → List (String × Json)
  | [] => []
  | (name, v) :: rest => (name, mapNumbers f v) :: mapMembers f rest

end

end Json

end DataGrid
