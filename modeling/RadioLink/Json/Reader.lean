import RadioLink.Json.Lexer

/-!
Reading values of known kinds from a JSON text. Reading goes from left to right and stops at the
first fault, so of two faults the earlier one is reported.
-/

set_option autoImplicit false

namespace RadioLink.Json

abbrev Reader (α : Type) := StateT (List Char) (Except Error) α

def Reader.fail {α : Type} (e : Error) : Reader α := fun _ => .error e

/-- The next character behind blanks; the blanks are dropped. -/
def peek : Reader (Option Char) := fun text =>
  let text := skipSpaces text
  .ok (text.head?, text)

def advance : Reader Unit := fun text => .ok ((), text.tail)

def ident (name : String) : Reader Unit := fun text =>
  (identTail name.toList text).map fun rest => ((), rest)

def stringBody : Reader String := fun text =>
  (stringTail text).map fun (s, rest) => (String.ofList s, rest)

def number (positive : Bool) : Reader Number := numberTail positive

/-- Refuses the value that starts here for its kind; a value that is not well formed is refused for
that. -/
def refuse {α : Type} (expected : String) : Reader α := do
  match ← peek with
  | some 'n' => advance; ident "ull"; .fail (.wrongType .null expected)
  | some 't' => advance; ident "rue"; .fail (.wrongType (.boolean true) expected)
  | some 'f' => advance; ident "alse"; .fail (.wrongType (.boolean false) expected)
  | some '-' => advance; .fail (.wrongType (.number (← number false)) expected)
  | some '"' => advance; .fail (.wrongType (.text (← stringBody)) expected)
  | some '[' => .fail (.wrongType .sequence expected)
  | some '\x7b' => .fail (.wrongType .map expected)
  | some c =>
    if Text.isDecimalDigit c then .fail (.wrongType (.number (← number true)) expected)
    else .fail .expectedValue
  | none => .fail .endInValue

def string (expected : String) : Reader String := do
  match ← peek with
  | none => .fail .endInValue
  | some '"' => advance; stringBody
  | some _ => refuse expected

def integer {α : Type} (expected : String) (accept : Number → Option α) : Reader α := do
  let token ← match ← peek with
    | none => Reader.fail .endInValue
    | some '-' => do advance; number false
    | some c => if Text.isDecimalDigit c then number true else refuse expected
  match accept token, token with
  | some value, _ => return value
  | none, .float x => .fail (.wrongType (.number (.float x)) expected)
  | none, n => .fail (.wrongValue (.number n) expected)

/-- Reads an unsigned integer below a bound. -/
def unsigned (expected : String) (bound : Nat) : Reader Nat :=
  integer expected fun
    | .unsigned n => if n < bound then some n else none
    | _ => none

def int16 : Reader Int16 :=
  integer "i16" fun
    | .unsigned n => if n < 32768 then some (Int16.ofNat n) else none
    | .negative n => if n ≤ 32768 then some (Int16.ofInt (-(Int.ofNat n))) else none
    | .float _ => none

def boolean : Reader Bool := do
  match ← peek with
  | none => .fail .endInValue
  | some 't' => advance; ident "rue"; return true
  | some 'f' => advance; ident "alse"; return false
  | some _ => refuse "a boolean"

/-- Reads `null` as `none`, and any other value with the given reader. -/
def optional {α : Type} (read : Reader α) : Reader (Option α) := do
  match ← peek with
  | some 'n' => advance; ident "ull"; return none
  | _ => return some (← read)

/-- Reads a string and what its contents stand for. -/
def parsed {α : Type} (expected : String) (parse : String → Except String α) : Reader α := do
  match parse (← string expected) with
  | .ok value => return value
  | .error reason => .fail (.malformed reason)

/-- A bracket that is open while a value is skipped. -/
inductive Bracket where
  | list
  | object
  deriving DecidableEq, Repr

/-- What may come next while a value is skipped. -/
inductive Skipping where
  | value
  /-- The inside of the innermost bracket, where a comma may stand or not. -/
  | inside (acceptComma : Bool)
  deriving DecidableEq, Repr

/-- The text behind the key and the colon of an object's member. -/
private def skipKey (text : List Char) : Except Error (List Char) :=
  match skipSpaces text with
  | [] => .error .endInObject
  | '"' :: rest => do
    match skipSpaces (← skipStringTail rest) with
    | [] => throw .endInObject
    | ':' :: rest => return rest
    | _ => throw .expectedColon
  | _ => .error .keyMustBeString

/-- The text in front of the next value inside a bracket. -/
private def skipToValue (bracket : Bracket) (text : List Char) : Except Error (List Char) :=
  match bracket with
  | .list => .ok text
  | .object => skipKey text

/-- The text behind a value that is no array and no object, or the bracket that opens here. -/
private def skipScalar (text : List Char) : Except Error (Option Bracket × List Char) :=
  match text with
  | [] => .error .endInValue
  | c :: rest =>
    if c = 'n' then (identTail "ull".toList rest).map (none, ·)
    else if c = 't' then (identTail "rue".toList rest).map (none, ·)
    else if c = 'f' then (identTail "alse".toList rest).map (none, ·)
    else if c = '-' then (skipNumber rest).map (none, ·)
    else if Text.isDecimalDigit c then (skipNumber text).map (none, ·)
    else if c = '"' then (skipStringTail rest).map (none, ·)
    else if c = '[' then .ok (some .list, rest)
    else if c = '\x7b' then .ok (some .object, rest)
    else .error .expectedValue

/-- Skips what is left of a value inside the given brackets, innermost first. Every second step
drops a character at least, which bounds the steps. -/
private def skipFrom : Nat → Skipping → List Bracket → List Char → Except Error (List Char)
  | 0, _, _, _ => .error .endInValue
  | fuel + 1, .value, brackets, text => do
    match ← skipScalar (skipSpaces text) with
    | (some bracket, rest) => skipFrom fuel (.inside false) (bracket :: brackets) rest
    | (none, rest) => skipFrom fuel (.inside true) brackets rest
  | _ + 1, .inside _, [], text => .ok text
  | fuel + 1, .inside acceptComma, bracket :: brackets, text =>
    match skipSpaces text, bracket with
    | [], .list => .error .endInList
    | [], .object => .error .endInObject
    | ']' :: rest, .list => skipFrom fuel (.inside true) brackets rest
    | '\x7d' :: rest, .object => skipFrom fuel (.inside true) brackets rest
    | c :: rest, _ =>
      if acceptComma then
        if c = ',' then do skipFrom fuel .value (bracket :: brackets) (← skipToValue bracket rest)
        else match bracket with
          | .list => .error .expectedListCommaOrEnd
          | .object => .error .expectedObjectCommaOrEnd
      else do skipFrom fuel .value (bracket :: brackets) (← skipToValue bracket (c :: rest))

def skipValue : Reader Unit := fun text =>
  (skipFrom (2 * text.length + 3) .value [] text).map fun rest => ((), rest)

def Reader.run {α : Type} (read : Reader α) (text : String) : Except Error α := do
  let (value, rest) ← read text.toList
  if (skipSpaces rest).isEmpty then return value else throw .trailingCharacters

end RadioLink.Json
