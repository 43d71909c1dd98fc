import RadioLink.Text.Decimal

/-!
The shortest decimal text of a binary64 number: the fewest digits that round back to it, and of
those the digits nearest to it. The search is in exact arithmetic on the number's bits.
-/

set_option autoImplicit false

namespace RadioLink.Number

structure Quotient where
  num : Nat
  den : Nat

/-- A finite positive binary64 number: `mantissa * 2 ^ exponent`. -/
structure Binary where
  mantissa : Nat
  exponent : Int
  /-- Whether the next number below lies at half the distance of the next number above. -/
  atPowerOfTwo : Bool

/-- The leading digit of a mantissa, which the bits leave out: two to the power of 52. -/
private def hidden : Nat := 4503599627370496

/-- The bit that holds the sign: two to the power of 63. -/
private def signBit : Nat := 9223372036854775808

private def Binary.ofBits (bits : Nat) : Binary :=
  let field := bits / hidden % 2048
  let fraction := bits % hidden
  if field = 0 then ⟨fraction, -1074, false⟩
  else ⟨hidden + fraction, Int.ofNat field - 1075, fraction = 0 && 1 < field⟩

/-- A count of quarter units of a number's last place. -/
private def Binary.quarters (b : Binary) (count : Nat) : Quotient :=
  if 2 ≤ b.exponent then ⟨count * Nat.pow 2 (b.exponent - 2).toNat, 1⟩
  else ⟨count, Nat.pow 2 (2 - b.exponent).toNat⟩

/-- Whether the reals `p` and `q` stand in order; equality counts as asked. -/
private def Quotient.before (p q : Quotient) (orEqual : Bool) : Bool :=
  if orEqual then p.num * q.den ≤ q.num * p.den else p.num * q.den < q.num * p.den

private def ofPower (count : Nat) (power : Int) : Quotient :=
  if 0 ≤ power then ⟨count * Nat.pow 10 power.toNat, 1⟩ else ⟨count, Nat.pow 10 (-power).toNat⟩

/-- The largest whole number of units of a power of ten that is not above the number. -/
private def Quotient.floorOn (p : Quotient) (power : Int) : Nat :=
  if 0 ≤ power then p.num / (p.den * Nat.pow 10 power.toNat)
  else p.num * Nat.pow 10 (-power).toNat / p.den

private def Quotient.magnitude (p : Quotient) : Int :=
  match (List.range 700).find? fun i => p.before (ofPower 1 (Int.ofNat i - 345)) false with
  | some i => Int.ofNat i - 345
  | none => 355

/-- Digits `count` standing for `count * 10 ^ power`. -/
structure Digits where
  count : Nat
  power : Int

/-- The digits on one decimal grid that round back to the number, the nearer of two; a tie goes to
the even one. -/
private def Binary.onGrid? (b : Binary) (power : Int) : Option Digits :=
  let even := b.mantissa % 2 = 0
  let value := b.quarters (4 * b.mantissa)
  let low := b.quarters (4 * b.mantissa - if b.atPowerOfTwo then 1 else 2)
  let high := b.quarters (4 * b.mantissa + 2)
  let below := value.floorOn power
  let fits (n : Nat) : Bool :=
    low.before (ofPower n power) even && (ofPower n power).before high even
  if fits below && 0 < below then
    if fits (below + 1) then
      let twice := ofPower (2 * below + 1) power
      let double : Quotient := ⟨2 * value.num, value.den⟩
      if double.before twice false then some ⟨below, power⟩
      else if twice.before double false then some ⟨below + 1, power⟩
      else some ⟨if below % 2 = 0 then below else below + 1, power⟩
    else some ⟨below, power⟩
  else if fits (below + 1) then some ⟨below + 1, power⟩
  else none

/-- The fewest digits that round back to the number. The first grid tried is that of the power of
ten above the number, which may itself round back to it; no later digits end in a zero, since the
grid before would hold them too. -/
private def Binary.shortest (b : Binary) : Digits :=
  let top := (b.quarters (4 * b.mantissa)).magnitude
  match (List.range 18).findSome? fun i => b.onGrid? (top - Int.ofNat i) with
  | some digits => digits
  | none => ⟨(b.quarters (4 * b.mantissa)).floorOn (top - 17), top - 17⟩

/-- How digits are laid out: positional between two powers of ten, else with an exponent of at least
two digits and its sign; whole numbers keep a zero behind the point. -/
structure Layout where
  /-- Least power of ten of the first digit that is written positionally. -/
  least : Int
  /-- Greatest power of ten of the first digit that is written positionally. -/
  greatest : Int

private def Layout.write (layout : Layout) (d : Digits) : List Char :=
  let digits := Text.decimalDigits d.count
  let point := Int.ofNat digits.length + d.power
  let first := point - 1
  if layout.least ≤ first && first ≤ layout.greatest then
    if point ≤ 0 then ['0', '.'] ++ List.replicate (-point).toNat '0' ++ digits
    else if 0 ≤ d.power then digits ++ List.replicate d.power.toNat '0' ++ ['.', '0']
    else digits.take point.toNat ++ '.' :: digits.drop point.toNat
  else
    let tail := match digits with
      | [] => []
      | [c] => [c]
      | c :: rest => c :: '.' :: rest
    tail ++ 'e' :: (if first < 0 then '-' else '+') ::
      Text.zeroPadded 2 (Text.decimalDigits first.natAbs)

def Layout.text (layout : Layout) (x : Float) : String :=
  let bits := x.toBits.toNat
  let magnitude := bits % signBit
  let sign := if signBit ≤ bits then ['-'] else []
  if magnitude = 0 then String.ofList (sign ++ ['0', '.', '0'])
  else String.ofList (sign ++ layout.write (Binary.ofBits magnitude).shortest)

end RadioLink.Number
