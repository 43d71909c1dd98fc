import RadioLink.Frame

/-!
The frames of a whole byte string, found by the leftmost magic pair: the meaning that every way of
feeding a decoder has to agree with.
-/

set_option autoImplicit false

namespace RadioLink.Frame

/-- The octets behind the leftmost magic pair. -/
def afterPair? : Bytes → Option Bytes
  | a :: b :: rest => if a = magic₁ ∧ b = magic₂ then some rest else afterPair? (b :: rest)
  | _ => none

/-- The first frame's payload and the octets behind it, if all of it is there. -/
def firstFrame? (stream : Bytes) : Option (Bytes × Bytes) :=
  match afterPair? stream with
  | some (high :: low :: rest) =>
    let length := 256 * high.toNat + low.toNat
    if length ≤ rest.length then some (rest.take length, rest.drop length) else none
  | _ => none

/-- At most so many payloads of the leftmost parse. -/
def parseUpTo : Nat → Bytes → List Bytes
  | 0, _ => []
  | n + 1, stream =>
    match firstFrame? stream with
    | some (payload, rest) => payload :: parseUpTo n rest
    | none => []

/-- The payloads of the leftmost parse. Each takes four octets of header at least. -/
def parse (stream : Bytes) : List Bytes :=
  parseUpTo (stream.length / 4) stream

end RadioLink.Frame
