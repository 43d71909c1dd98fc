import RadioLink.Duration
import RadioLink.Text.Blank
import RadioLink.Text.Decimal
import RadioLink.Text.Quoted
import RadioLink.Text.Utf8

/-!
Spans of time as people write them: numbers with units, such as `1h 30m` or `500ms`. A span is
printed as its largest parts first; reading accepts the parts in any order, decimal fractions that
come out whole, and blanks almost anywhere.
-/

set_option autoImplicit false

namespace RadioLink.Duration

inductive Unit where
  | nanosecond
  | microsecond
  | millisecond
  | second
  | minute
  | hour
  | day
  | week
  | month
  | year
  deriving DecidableEq, Repr

namespace Unit

private def spellings : List (Unit × List String) :=
  [(nanosecond, ["nanos", "nsec", "ns"]), (microsecond, ["usec", "us", "µs"]),
   (millisecond, ["millis", "msec", "ms"]),
   (second, ["seconds", "second", "secs", "sec", "s"]),
   (minute, ["minutes", "minute", "min", "mins", "m"]),
   (hour, ["hours", "hour", "hrs", "hr", "h"]), (day, ["days", "day", "d"]),
   (week, ["weeks", "week", "wks", "wk", "w"]), (month, ["months", "month", "M"]),
   (year, ["years", "year", "yrs", "yr", "y"])]

def ofText? (text : String) : Option Unit :=
  (spellings.find? fun (_, names) => names.contains text).map (·.1)

/-- Whole seconds in a unit of a second or more. -/
def secs : Unit → Nat
  | second => 1
  | minute => 60
  | hour => 3600
  | day => 86400
  | week => 604800
  | month => 2630016
  | year => 31557600
  | _ => 0

/-- Nanoseconds in a unit of less than a second. -/
def nanos : Unit → Nat
  | nanosecond => 1
  | microsecond => 1000
  | millisecond => 1000000
  | _ => 0

/-- Nanoseconds in a unit whose fractions are counted in nanoseconds: those up to the minute. -/
def fractionNanos? : Unit → Option Nat
  | nanosecond => none
  | microsecond => some 1000
  | millisecond => some 1000000
  | second => some 1000000000
  | minute => some 60000000000
  | _ => none

end Unit

/-- Why a text is no span of time. Offsets count octets of UTF-8. -/
inductive TextError where
  /-- A character that can stand neither in a number nor in a unit. -/
  | invalidCharacter (offset : Nat)
  | numberExpected (offset : Nat)
  | unknownUnit (unit : String) (value : Nat)
  /-- A number of more than 64 bits, or a fraction of a nanosecond. -/
  | overflow
  | empty
  deriving DecidableEq, Repr

def TextError.message : TextError → String
  | .invalidCharacter offset => s!"invalid character at {offset}"
  | .numberExpected offset => s!"expected number at {offset}"
  | .unknownUnit unit value =>
    if unit.isEmpty then s!"time unit needed, for example {value}sec or {value}ms"
    else "unknown time unit " ++ Text.Quoted.quote unit ++ ", supported units: ns, us/µs, ms, sec, min, "
      ++ "hours, days, weeks, months, years (and few variations)"
  | .overflow => "number is too large or cannot be represented without a lack of precision "
      ++ "(values below 1ns are not supported)"
  | .empty => "value was empty"

/-- A decimal fraction: the digits behind the point over a power of ten. -/
structure Fraction where
  numerator : Nat
  denominator : Nat
  deriving DecidableEq, Repr

inductive Reading where
  /-- Before a number, since an offset; `started` once a number has been read. -/
  | seeking (since : Nat) (started : Bool)
  | whole (n : Nat)
  /-- Behind the point of a number; `mark` is where a missing digit would be reported. -/
  | fraction (n : Nat) (digits : Fraction) (mark : Nat)
  | unit (n : Nat) (fraction : Option Fraction) (letters : List Char)
  deriving DecidableEq, Repr

def checked (n : Nat) : Except TextError Nat :=
  if n < UInt64.size then .ok n else .error .overflow

def plus (d : Duration) (secs nanos : Nat) : Except TextError Duration := do
  let nanos ← checked (d.nanos + nanos)
  match ofNanos? ((d.secs.toNat + secs) * 1000000000 + nanos) with
  | some sum => return sum
  | none => throw .overflow

/-- A product that fits into 64 bits, divided without remainder. -/
def exactShare (n factor denominator : Nat) : Except TextError Nat := do
  let product ← checked (n * factor)
  if product % denominator = 0 then return product / denominator else throw .overflow

def addUnits (d : Duration) (n : Nat) (fraction : Option Fraction) (letters : List Char) :
    Except TextError Duration := do
  let text := String.ofList letters.reverse
  let some unit := Unit.ofText? text | throw (.unknownUnit text n)
  let d ← plus d (← checked (n * unit.secs)) (← checked (n * unit.nanos))
  match fraction with
  | none => return d
  | some f =>
    if unit = .nanosecond then throw .overflow
    else match unit.fractionNanos? with
      | some nanos => plus d 0 (← exactShare f.numerator nanos f.denominator)
      | none => plus d (← exactShare f.numerator unit.secs f.denominator) 0

/-- Whether a character can stand in the name of a unit. -/
def isUnitLetter (c : Char) : Bool :=
  ('a' ≤ c && c ≤ 'z') || ('A' ≤ c && c ≤ 'Z') || c = 'µ'

def pushDigit (n : Nat) (c : Char) : Except TextError Nat :=
  checked (10 * n + Text.digitValue c)

def Fraction.pushDigit (f : Fraction) (c : Char) : Except TextError Fraction := do
  return ⟨← Duration.pushDigit f.numerator c, ← checked (10 * f.denominator)⟩

def Reading.step (reading : Reading) (d : Duration) (offset : Nat) (c : Char) :
    Except TextError (Reading × Duration) := do
  match reading with
  | .seeking since started =>
    if Text.isDecimalDigit c then return (.whole (Text.digitValue c), d)
    else if Text.isBlank c then return (.seeking since started, d)
    else throw (.numberExpected since)
  | .whole n =>
    if Text.isDecimalDigit c then return (.whole (← pushDigit n c), d)
    else if Text.isBlank c then return (.whole n, d)
    else if isUnitLetter c then return (.unit n none [c], d)
    else if c = '.' then return (.fraction n ⟨0, 1⟩ offset, d)
    else throw (.invalidCharacter offset)
  | .fraction n f mark =>
    let next := offset + Text.Utf8.width c
    if Text.isDecimalDigit c then return (.fraction n (← f.pushDigit c) next, d)
    else if Text.isBlank c then return (.fraction n f next, d)
    else if isUnitLetter c && f.denominator ≠ 1 then return (.unit n (some f) [c], d)
    else throw (.invalidCharacter mark)
  | .unit n f letters =>
    if Text.isDecimalDigit c then return (.whole (Text.digitValue c), ← addUnits d n f letters)
    else if Text.isBlank c then
      return (.seeking (offset + Text.Utf8.width c) true, ← addUnits d n f letters)
    else if isUnitLetter c then return (.unit n f (c :: letters), d)
    else throw (.invalidCharacter offset)

def Reading.finish (reading : Reading) (d : Duration) : Except TextError Duration :=
  match reading with
  | .seeking _ started => if started then .ok d else .error .empty
  | .whole n => .error (.unknownUnit "" n)
  | .fraction n f mark =>
    if f.denominator = 1 then .error (.invalidCharacter mark) else .error (.unknownUnit "" n)
  | .unit n f letters => addUnits d n f letters

def Reading.run (reading : Reading) (d : Duration) (offset : Nat) :
    List Char → Except TextError Duration
  | [] => reading.finish d
  | c :: rest =>
    match reading.step d offset c with
    | .ok (next, sum) => next.run sum (offset + Text.Utf8.width c) rest
    | .error e => .error e

/-- Reads a span of time; a lone zero needs no unit. -/
def ofText (text : String) : Except TextError Duration :=
  if text = "0" then .ok zero else (Reading.seeking 0 false).run zero 0 text.toList

/-- One part of the printed form, if it is not zero; long names take an `s` beyond one. -/
def part (value : Nat) (name : String) (plural : Bool) : List (List Char) :=
  if value = 0 then []
  else [Text.decimalDigits value ++ name.toList ++ if plural && 1 < value then ['s'] else []]

/-- The parts of the printed form, largest first. -/
def parts (d : Duration) : List (List Char) :=
  let secs := d.secs.toNat
  let inYear := secs % 31557600
  let inMonth := inYear % 2630016
  let inDay := inMonth % 86400
  part (secs / 31557600) "year" true ++ part (inYear / 2630016) "month" true ++
    part (inMonth / 86400) "day" true ++ part (inDay / 3600) "h" false ++
    part (inDay % 3600 / 60) "m" false ++ part (inDay % 60) "s" false ++
    part (d.nanos / 1000000) "ms" false ++ part (d.nanos / 1000 % 1000) "us" false ++
    part (d.nanos % 1000) "ns" false

def joinParts : List (List Char) → List Char
  | [] => []
  | [p] => p
  | p :: rest => p ++ ' ' :: joinParts rest

def chars (d : Duration) : List Char :=
  if d = zero then ['0', 's'] else joinParts d.parts

def text (d : Duration) : String :=
  String.ofList d.chars

end RadioLink.Duration
