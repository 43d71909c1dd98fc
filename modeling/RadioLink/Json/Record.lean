import RadioLink.Json.Reader

/-!
Records in JSON: an object of named fields in any order, or an array of the fields in their order.
Unknown fields are skipped, a field that stands twice is an error, and a field that is left out
keeps what the record started with unless it is required.
-/

set_option autoImplicit false

namespace RadioLink.Json

structure Field (σ : Type) where
  name : String
  read : σ → Reader σ
  required : Bool
  omissible : Bool

structure Schema (σ : Type) where
  title : String
  arrayTitle : String
  fields : List (Field σ)

/-- Whether another key follows in an object; the text is left at its opening quote or at the
closing brace. -/
def nextKey (first : Bool) : Reader Bool := do
  match ← peek with
  | none => .fail .endInObject
  | some '\x7d' => return false
  | some c =>
    if first then
      if c = '"' then return true else .fail .keyMustBeString
    else if c = ',' then
      advance
      match ← peek with
      | some '"' => return true
      | some '\x7d' => .fail .trailingComma
      | some _ => .fail .keyMustBeString
      | none => .fail .endInValue
    else .fail .expectedObjectCommaOrEnd

def colon : Reader Unit := do
  match ← peek with
  | some ':' => advance
  | some _ => .fail .expectedColon
  | none => .fail .endInObject

/-- Reads members of an object up to its closing brace: the record and the keys that stood. Every
member drops a character at least, which bounds their number. -/
def members {σ : Type} (schema : Schema σ) :
    Nat → Bool → List String → σ → Reader (List String × σ)
  | 0, _, _, _ => .fail .endInObject
  | fuel + 1, first, seen, record => do
    if !(← nextKey first) then return (seen, record)
    advance
    let key ← stringBody
    match schema.fields.find? (·.name = key) with
    | some field =>
      if seen.contains key then .fail (.duplicateField key)
      else
        colon
        let record ← field.read record
        members schema fuel false (key :: seen) record
    | none =>
      colon
      skipValue
      members schema fuel false seen record

/-- Whether another element follows in an array; a comma in front of it is dropped. -/
private def nextElement (first : Bool) : Reader Bool := do
  match ← peek with
  | none => .fail .endInList
  | some ']' => return false
  | some c =>
    if first then return true
    else if c = ',' then
      advance
      match ← peek with
      | some ']' => .fail .trailingComma
      | some _ => return true
      | none => .fail .endInValue
    else .fail .expectedListCommaOrEnd

/-- Reads the fields of a record as elements of an array, of which `index` have been read. -/
def elements {σ : Type} (arrayTitle : String) :
    List (Field σ) → Bool → Nat → σ → Reader σ
  | [], _, _, record => return record
  | field :: fields, first, index, record => do
    if ← nextElement first then
      let record ← field.read record
      elements arrayTitle fields false (index + 1) record
    else if field.omissible then elements arrayTitle fields first (index + 1) record
    else .fail (.wrongLength index arrayTitle)

def closeList : Reader Unit := do
  match ← peek with
  | some ']' => advance
  | some ',' =>
    advance
    match ← peek with
    | some ']' => .fail .trailingComma
    | _ => .fail .trailingCharacters
  | some _ => .fail .trailingCharacters
  | none => .fail .endInList

/-- The first required field that did not stand. -/
def Schema.missing? {σ : Type} (schema : Schema σ) (seen : List String) : Option String :=
  (schema.fields.find? fun field => field.required && !seen.contains field.name).map (·.name)

def remaining : Reader Nat := fun text => .ok (text.length, text)

def record {σ : Type} (schema : Schema σ) (start : σ) : Reader σ := do
  match ← peek with
  | none => .fail .endInValue
  | some '[' =>
    advance
    let value ← elements schema.arrayTitle schema.fields true 0 start
    closeList
    return value
  | some '\x7b' =>
    advance
    let (seen, value) ← members schema ((← remaining) + 1) true [] start
    match schema.missing? seen with
    | some name => .fail (.missingField name)
    | none =>
      advance
      return value
  | some _ => refuse schema.title

end RadioLink.Json
