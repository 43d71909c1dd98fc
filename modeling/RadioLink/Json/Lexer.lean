import RadioLink.Json.Error
import RadioLink.Text.Utf8

/-!
The tokens of JSON: blanks, strings, numbers and literal names, each read off the front of a text.
A function that reads a token answers what the token means and the text behind it.
-/

set_option autoImplicit false

namespace RadioLink.Json

def isSpace (c : Char) : Bool :=
  c = ' ' || c = '\n' || c = '\t' || c = '\r'

def skipSpaces (text : List Char) : List Char :=
  text.dropWhile isSpace

/-- Puts a character in front of a string that has been read. -/
def consChar (c : Char) (read : List Char × List Char) : List Char × List Char :=
  (c :: read.1, read.2)

def simpleEscape? (c : Char) : Option Char :=
  if c = '"' || c = '\\' || c = '/' then some c
  else if c = 'b' then some '\x08'
  else if c = 'f' then some '\x0c'
  else if c = 'n' then some '\n'
  else if c = 'r' then some '\r'
  else if c = 't' then some '\t'
  else none

def hexValue4? (a b c d : Char) : Option Nat := do
  return 4096 * (← Bytes.hexValue? a) + 256 * (← Bytes.hexValue? b) + 16 * (← Bytes.hexValue? c)
    + (← Bytes.hexValue? d)

/-- Whether a UTF-16 unit is the first half of a pair. -/
def isHighSurrogate (n : Nat) : Bool :=
  0xd800 ≤ n && n ≤ 0xdbff

/-- Whether a UTF-16 unit is the second half of a pair. -/
def isLowSurrogate (n : Nat) : Bool :=
  0xdc00 ≤ n && n ≤ 0xdfff

/-- The character that two halves of a pair stand for. -/
def pairedChar (high low : Nat) : Char :=
  Char.ofNat (0x10000 + 0x400 * (high - 0xd800) + (low - 0xdc00))

/-- The error of an escape with fewer than four characters left: the text ends in it, unless what is
left fills four octets. -/
def shortEscape (rest : List Char) : Error :=
  if Text.Utf8.size rest < 4 then .endInString else .invalidEscape

def stringTail : List Char → Except Error (List Char × List Char)
  | [] => .error .endInString
  | '"' :: rest => .ok ([], rest)
  | '\\' :: 'u' :: a :: b :: c :: d :: rest =>
    match hexValue4? a b c d with
    | none => .error .invalidEscape
    | some n =>
      if isLowSurrogate n then .error .loneSurrogate
      else if isHighSurrogate n then
        match rest with
        | [] => .error .endInString
        | '\\' :: 'u' :: e :: f :: g :: h :: rest =>
          match hexValue4? e f g h with
          | none => .error .invalidEscape
          | some m =>
            if isLowSurrogate m then (stringTail rest).map (consChar (pairedChar n m))
            else .error .loneSurrogate
        | '\\' :: 'u' :: short => .error (shortEscape short)
        | ['\\'] => .error .endInString
        | _ => .error .unexpectedEndOfEscape
      else (stringTail rest).map (consChar (Char.ofNat n))
  | '\\' :: 'u' :: short => .error (shortEscape short)
  | '\\' :: c :: rest =>
    match simpleEscape? c with
    | some e => (stringTail rest).map (consChar e)
    | none => .error .invalidEscape
  | ['\\'] => .error .endInString
  | c :: rest =>
    if c.toNat < 0x20 then .error .controlCharacter else (stringTail rest).map (consChar c)

/-- Skips a string behind its opening quote, where halves of pairs need no partner. -/
def skipStringTail : List Char → Except Error (List Char)
  | [] => .error .endInString
  | '"' :: rest => .ok rest
  | '\\' :: 'u' :: a :: b :: c :: d :: rest =>
    if (hexValue4? a b c d).isSome then skipStringTail rest else .error .invalidEscape
  | '\\' :: 'u' :: short => .error (shortEscape short)
  | '\\' :: c :: rest =>
    if (simpleEscape? c).isSome then skipStringTail rest else .error .invalidEscape
  | ['\\'] => .error .endInString
  | c :: rest => if c.toNat < 0x20 then .error .controlCharacter else skipStringTail rest

def identTail (name text : List Char) : Except Error (List Char) :=
  match name, text with
  | [], rest => .ok rest
  | _ :: _, [] => .error .endInValue
  | n :: name, c :: rest => if c = n then identTail name rest else .error .expectedIdent

/-- A significand below `UInt64.size` and a power of ten. -/
structure Scaled where
  significand : Nat
  exponent : Int

/-- Takes one more digit of an integer; once the significand is full, digits only scale it. -/
def Scaled.pushDigit (s : Scaled) (c : Char) : Scaled :=
  let next := 10 * s.significand + Text.digitValue c
  if 0 < s.exponent || UInt64.size ≤ next then ⟨s.significand, s.exponent + 1⟩ else ⟨next, 0⟩

/-- Takes the digits behind a point: the scaled number, and whether the significand was full. -/
private def Scaled.pushFraction : Scaled → List Char → Scaled × Bool
  | s, [] => (s, false)
  | s, c :: rest =>
    let next := 10 * s.significand + Text.digitValue c
    if UInt64.size ≤ next then (s, true) else Scaled.pushFraction ⟨next, s.exponent - 1⟩ rest

private def powerOfTen (n : Nat) : Float :=
  Float.ofScientific 1 false n

/-- Scales a number by a power of ten, in steps of at most `1e308`. -/
private def scaleFloat : Nat → Float → Int → Except Error Float
  | 0, x, _ => .ok x
  | fuel + 1, x, exponent =>
    if exponent.natAbs ≤ 308 then
      if 0 ≤ exponent then
        let y := x * powerOfTen exponent.natAbs
        if y.isInf then .error .numberOutOfRange else .ok y
      else .ok (x / powerOfTen exponent.natAbs)
    else if x == 0 then .ok x
    else if 0 ≤ exponent then .error .numberOutOfRange
    else scaleFloat fuel (x / powerOfTen 308) (exponent + 308)

/-- The number a scaled significand writes. A quotient by `1e308` leaves nothing after three
steps. -/
def Scaled.toNumber (s : Scaled) (positive : Bool) : Except Error Number := do
  let x ← scaleFloat 8 (UInt64.ofNat s.significand).toFloat s.exponent
  return .float (if positive then x else -x)

/-- Reads an exponent behind its `e` and scales by it. -/
def exponentTail (positive : Bool) (s : Scaled) (text : List Char) :
    Except Error (Number × List Char) := do
  let (up, text) := match text with
    | '+' :: rest => (true, rest)
    | '-' :: rest => (false, rest)
    | rest => (true, rest)
  match text with
  | [] => throw .endInValue
  | c :: _ =>
    if !Text.isDecimalDigit c then throw .invalidNumber
    else
      let (digits, rest) := text.span Text.isDecimalDigit
      let e := Text.decimalValue digits
      if 2147483648 ≤ e then
        if s.significand ≠ 0 && up then throw .numberOutOfRange
        else return (.float (if positive then 0 else -0), rest)
      else
        let exponent := if up then s.exponent + e else s.exponent - e
        return (← Scaled.toNumber ⟨s.significand, exponent⟩ positive, rest)

/-- Reads the fraction behind a point, and an exponent. -/
def fractionTail (positive : Bool) (s : Scaled) (text : List Char) :
    Except Error (Number × List Char) := do
  let (digits, rest) := text.span Text.isDecimalDigit
  if digits.isEmpty then throw (if rest.isEmpty then .endInValue else .invalidNumber)
  let (s, _) := s.pushFraction digits
  match rest with
  | 'e' :: rest => exponentTail positive s rest
  | 'E' :: rest => exponentTail positive s rest
  | _ => return (← s.toNumber positive, rest)

def numberTail (positive : Bool) (text : List Char) : Except Error (Number × List Char) :=
  match text with
  | [] => .error .endInValue
  | first :: behind =>
    if !Text.isDecimalDigit first then .error .invalidNumber
    else if first = '0' && (behind.head?.any Text.isDecimalDigit) then .error .invalidNumber
    else
      let (digits, rest) := text.span Text.isDecimalDigit
      let s := digits.foldl Scaled.pushDigit ⟨0, 0⟩
      match rest with
      | '.' :: rest => fractionTail positive s rest
      | 'e' :: rest => exponentTail positive s rest
      | 'E' :: rest => exponentTail positive s rest
      | _ =>
        if s.exponent ≠ 0 then do return (← s.toNumber positive, rest)
        else if positive then .ok (.unsigned s.significand, rest)
        else if s.significand = 0 || 9223372036854775808 < s.significand then
          .ok (.float (-(UInt64.ofNat s.significand).toFloat), rest)
        else .ok (.negative s.significand, rest)

private def skipExponent (text : List Char) : Except Error (List Char) :=
  let text := match text with
    | '+' :: rest => rest
    | '-' :: rest => rest
    | rest => rest
  if text.head?.any Text.isDecimalDigit then .ok (text.dropWhile Text.isDecimalDigit)
  else .error .invalidNumber

/-- Skips what may follow the digits of a whole number. -/
private def skipNumberRest : List Char → Except Error (List Char)
  | '.' :: text =>
    if text.head?.any Text.isDecimalDigit then
      match text.dropWhile Text.isDecimalDigit with
      | 'e' :: rest => skipExponent rest
      | 'E' :: rest => skipExponent rest
      | rest => .ok rest
    else .error .invalidNumber
  | 'e' :: rest => skipExponent rest
  | 'E' :: rest => skipExponent rest
  | rest => .ok rest

/-- Skips a number behind its sign; its size does not matter. -/
def skipNumber (text : List Char) : Except Error (List Char) :=
  match text with
  | [] => .error .invalidNumber
  | first :: behind =>
    if !Text.isDecimalDigit first then .error .invalidNumber
    else if first = '0' then
      if behind.head?.any Text.isDecimalDigit then .error .invalidNumber else skipNumberRest behind
    else skipNumberRest (behind.dropWhile Text.isDecimalDigit)

end RadioLink.Json
