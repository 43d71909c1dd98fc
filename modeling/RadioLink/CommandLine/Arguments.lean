import RadioLink.CommandLine.Form
import RadioLink.Device
import RadioLink.Text.Decimal

/-!
Reading the words of a command line: options by name, with or without a value, and operands in
order. An option stands once at most, and a word that looks like an option is never taken for a
value.
-/

set_option autoImplicit false

namespace RadioLink.CommandLine

structure Reading where
  /-- Options and their values; an option without a value has the empty one. -/
  switches : List (String × String)
  operands : List String

inductive Refusal where
  | misuse
  | help (form : Option Form)
  deriving DecidableEq, Repr

/-- Whether a word looks like an option: a hyphen and something behind it. -/
private def looksLikeSwitch (word : String) : Bool :=
  match word.toList with
  | '-' :: _ :: _ => true
  | _ => false

/-- Whether a word is of the form of a long option, and what stands behind the hyphens. -/
private def longForm? (word : String) : Option (List Char) :=
  match word.toList with
  | '-' :: '-' :: c :: rest => some (c :: rest)
  | _ => none

namespace Reading

private def empty : Reading := ⟨[], []⟩

private def value? (r : Reading) (long : String) : Option String :=
  r.switches.lookup long

/-- Adds an option; one that stands already is refused. -/
private def add (r : Reading) (long value : String) : Except Refusal Reading :=
  if (r.value? long).isSome then .error .misuse
  else .ok { r with switches := r.switches ++ [(long, value)] }

end Reading

/-- What the letters behind one hyphen say: options without value, and at last perhaps one whose
value is still to come. -/
private def readLetters (known : List Switch) (r : Reading) :
    List Char → Except Refusal (Reading × Option String)
  | [] => .ok (r, none)
  | c :: rest =>
    match known.find? (·.short = some c) with
    | none => .error (if c = 'h' then .help none else .misuse)
    | some switch =>
      if switch.value.isSome then
        match rest with
        | [] => .ok (r, some switch.long)
        | '=' :: value => do return (← r.add switch.long (String.ofList value), none)
        | value => do return (← r.add switch.long (String.ofList value), none)
      else do readLetters known (← r.add switch.long "") rest

/-- What a long option says: it is complete, or its value is still to come. -/
private def readLong (known : List Switch) (r : Reading) (text : List Char) :
    Except Refusal (Reading × Option String) :=
  let name := String.ofList (text.takeWhile (· ≠ '='))
  let given? : Option String :=
    if '=' ∈ text then some (String.ofList ((text.dropWhile (· ≠ '=')).drop 1)) else none
  match known.find? (·.long = name), given? with
  | none, none => .error (if name = "help" then .help none else .misuse)
  | none, some _ => .error .misuse
  | some switch, some value =>
    if switch.value.isSome then do return (← r.add switch.long value, none) else .error .misuse
  | some switch, none =>
    if switch.value.isSome then .ok (r, some switch.long)
    else do return (← r.add switch.long "", none)

/-- Reads an option; one whose value is still to come waits for it. -/
private def readSwitch (known : List Switch) (r : Reading) (word : String) :
    Except Refusal (Reading × Option String) :=
  match longForm? word with
  | some text => readLong known r text
  | none => readLetters known r (word.toList.drop 1)

/-- Reads words up to the first operand, if only options are wanted, or else all of them. Behind two
hyphens every word is an operand. -/
private def readWords (known : List Switch) (stopAtOperand : Bool) (r : Reading)
    (awaited : Option String) :
    List String → Except Refusal (Reading × List String)
  | [] => if awaited.isSome then .error .misuse else .ok (r, [])
  | word :: words =>
    match awaited with
    | some long =>
      if looksLikeSwitch word then .error .misuse
      else do readWords known stopAtOperand (← r.add long word) none words
    | none =>
      if word = "--" then
        if stopAtOperand then .error .misuse
        else .ok ({ r with operands := r.operands ++ words }, [])
      else if looksLikeSwitch word then do
        let (r, awaited) ← readSwitch known r word
        readWords known stopAtOperand r awaited words
      else if stopAtOperand then .ok (r, word :: words)
      else readWords known stopAtOperand { r with operands := r.operands ++ [word] } none words

inductive Command where
  /-- Browse for radios for so many seconds. -/
  | discover (medium : Medium) (seconds : Nat)
  | connect (medium : Medium) (target : String)
  | updateWifi (host firmware : String) (password : Option String)
  | updateBle (firmware : String)
  deriving DecidableEq, Repr

structure Request where
  /-- The file of settings, if one is named. -/
  config : Option String
  command : Command
  deriving DecidableEq, Repr

/-- The medium that is chosen; TCP unless another one is named. -/
private def readMedium (r : Reading) : Except Refusal Medium :=
  match r.value? "transport" with
  | none => .ok .tcp
  | some "tcp" => .ok .tcp
  | some "ble" => .ok .ble
  | some _ => .error .misuse

/-- A number of 64 bits; a plus sign may stand in front. -/
private def readCount (text : String) : Except Refusal Nat :=
  let digits := match text.toList with
    | '+' :: rest => rest
    | all => all
  match Text.readDecimal? digits with
  | some n => if n < UInt64.size then .ok n else .error .misuse
  | none => .error .misuse

private def readPath (text : String) : Except Refusal String :=
  if text.isEmpty then .error .misuse else .ok text

/-- Reads all words behind the name of a command. Where they ask for help, they ask for that of the
command. -/
private def readRest (form : Form) (words : List String) : Except Refusal Reading :=
  match readWords form.switches false .empty none words with
  | .ok (r, _) => .ok r
  | .error (.help _) => .error (.help (some form))
  | .error .misuse => .error .misuse

private def readTopic : List String → Refusal
  | [] => .help none
  | [name] =>
    match forms.find? (·.name = name) with
    | some form => .help (some form)
    | none => .misuse
  | _ => .misuse

private def readCommand (name : String) (words : List String) : Except Refusal Command := do
  match name with
  | "discover" =>
    let r ← readRest discoverForm words
    let seconds ← match r.value? "seconds" with
      | some text => readCount text
      | none => pure 10
    match r.operands with
    | [] => return .discover (← readMedium r) seconds
    | _ => throw .misuse
  | "connect" =>
    let r ← readRest connectForm words
    match r.operands with
    | [target] => return .connect (← readMedium r) target
    | _ => throw .misuse
  | "ota-wifi" =>
    let r ← readRest updateWifiForm words
    match r.operands with
    | [host, firmware] => return .updateWifi host (← readPath firmware) (r.value? "password")
    | _ => throw .misuse
  | "ota-ble" =>
    let r ← readRest updateBleForm words
    match r.operands with
    | [firmware] => return .updateBle (← readPath firmware)
    | _ => throw .misuse
  | "help" => throw (readTopic words)
  | _ => throw .misuse

def readRequest (words : List String) : Except Refusal Request := do
  match ← readWords commonSwitches true .empty none words with
  | (_, []) => throw .misuse
  | (r, name :: rest) =>
    let config ← (r.value? "config").mapM readPath
    return ⟨config, ← readCommand name rest⟩

end RadioLink.CommandLine
