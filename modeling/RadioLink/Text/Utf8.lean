import RadioLink.Bytes

/-!
Reading UTF-8 (RFC 3629) out of arbitrary octets. A scan yields the characters of the text and a
mark for each maximal part that no character starts with; lossy reading puts U+FFFD in place of a
mark, strict reading refuses the text.
-/

set_option autoImplicit false

namespace RadioLink.Text.Utf8

inductive Pending where
  | start
  /-- Inside a character: the value so far, the tails still owed, and the least and the greatest
  octet the next one may be. -/
  | inside (value owed low high : Nat)
  deriving DecidableEq, Repr

/-- What the first octet of a character yields; a mark when no character starts with it. -/
def first (b : Nat) : List (Option Char) × Pending :=
  if b < 0x80 then ([some (Char.ofNat b)], .start)
  else if 0xc2 ≤ b ∧ b ≤ 0xdf then ([], .inside (b - 0xc0) 1 0x80 0xbf)
  else if b = 0xe0 then ([], .inside 0 2 0xa0 0xbf)
  else if b = 0xed then ([], .inside 0xd 2 0x80 0x9f)
  else if 0xe1 ≤ b ∧ b ≤ 0xef then ([], .inside (b - 0xe0) 2 0x80 0xbf)
  else if b = 0xf0 then ([], .inside 0 3 0x90 0xbf)
  else if 0xf1 ≤ b ∧ b ≤ 0xf3 then ([], .inside (b - 0xf0) 3 0x80 0xbf)
  else if b = 0xf4 then ([], .inside 4 3 0x80 0x8f)
  else ([none], .start)

/-- What one octet yields. An octet that cannot continue the character begun marks it and starts
afresh. -/
def step (p : Pending) (b : Nat) : List (Option Char) × Pending :=
  match p with
  | .start => first b
  | .inside value owed low high =>
    if low ≤ b ∧ b ≤ high then
      let value := 64 * value + (b - 0x80)
      if owed ≤ 1 then ([some (Char.ofNat value)], .start)
      else ([], .inside value (owed - 1) 0x80 0xbf)
    else
      let (out, next) := first b
      (none :: out, next)

/-- The characters and marks of the octets, from a standing. -/
def scanFrom (p : Pending) : Bytes → List (Option Char)
  | [] => match p with
    | .start => []
    | .inside .. => [none]
  | b :: rest =>
    let (out, next) := step p b.toNat
    out ++ scanFrom next rest

def scan (bytes : Bytes) : List (Option Char) :=
  scanFrom .start bytes

/-- The text with U+FFFD for each maximal part that is not UTF-8. -/
def lossy (bytes : Bytes) : List Char :=
  (scan bytes).map (·.getD (Char.ofNat 0xfffd))

def lossyString (bytes : Bytes) : String :=
  String.ofList (lossy bytes)

/-- The text, provided that all of it is UTF-8. -/
def strict? (bytes : Bytes) : Option String :=
  ((scan bytes).mapM id).map String.ofList

/-- The number of octets of a character in UTF-8. -/
def width (c : Char) : Nat :=
  if c.toNat < 0x80 then 1 else if c.toNat < 0x800 then 2 else if c.toNat < 0x10000 then 3 else 4

def size (text : List Char) : Nat :=
  text.foldl (fun n c => n + width c) 0

end RadioLink.Text.Utf8
