import RadioLink.Digest.Sha256

/-!
MD5 (RFC 1321), in which update devices compare images.
-/

set_option autoImplicit false

namespace RadioLink.Digest

namespace Md5

/-- The integer parts of `2^32 * |sin (i + 1)|`. -/
private def sines : Array UInt32 := #[
  0xd76aa478, 0xe8c7b756, 0x242070db, 0xc1bdceee, 0xf57c0faf, 0x4787c62a, 0xa8304613, 0xfd469501,
  0x698098d8, 0x8b44f7af, 0xffff5bb1, 0x895cd7be, 0x6b901122, 0xfd987193, 0xa679438e, 0x49b40821,
  0xf61e2562, 0xc040b340, 0x265e5a51, 0xe9b6c7aa, 0xd62f105d, 0x02441453, 0xd8a1e681, 0xe7d3fbc8,
  0x21e1cde6, 0xc33707d6, 0xf4d50d87, 0x455a14ed, 0xa9e3e905, 0xfcefa3f8, 0x676f02d9, 0x8d2a4c8a,
  0xfffa3942, 0x8771f681, 0x6d9d6122, 0xfde5380c, 0xa4beea44, 0x4bdecfa9, 0xf6bb4b60, 0xbebfbc70,
  0x289b7ec6, 0xeaa127fa, 0xd4ef3085, 0x04881d05, 0xd9d4d039, 0xe6db99e5, 0x1fa27cf8, 0xc4ac5665,
  0xf4292244, 0x432aff97, 0xab9423a7, 0xfc93a039, 0x655b59c3, 0x8f0ccc92, 0xffeff47d, 0x85845dd1,
  0x6fa87e4f, 0xfe2ce6e0, 0xa3014314, 0x4e0811a1, 0xf7537e82, 0xbd3af235, 0x2ad7d2bb, 0xeb86d391]

/-- The rotation of a step: four per group of sixteen, in turn. -/
private def shift (step : Nat) : UInt32 :=
  (#[7, 12, 17, 22, 5, 9, 14, 20, 4, 11, 16, 23, 6, 10, 15, 21] : Array UInt32).getD
    (4 * (step / 16) + step % 4) 0

structure State where
  a : UInt32
  b : UInt32
  c : UInt32
  d : UInt32

def State.initial : State :=
  ⟨0x67452301, 0xefcdab89, 0x98badcfe, 0x10325476⟩

private def rotl (x n : UInt32) : UInt32 :=
  (x <<< n) ||| (x >>> (32 - n))

/-- The sixteen little-endian words of a block. -/
private def words (block : Bytes) : Array UInt32 :=
  (List.range 16).foldl
    (fun acc i => acc.push (UInt32.ofNat (Bytes.toNatBE ((block.drop (4 * i)).take 4).reverse))) #[]

/-- The mixing function of a step and the message word it takes. -/
private def mix (s : State) (step : Nat) : UInt32 × Nat :=
  if step < 16 then ((s.b &&& s.c) ||| (~~~s.b &&& s.d), step)
  else if step < 32 then ((s.d &&& s.b) ||| (~~~s.d &&& s.c), (5 * step + 1) % 16)
  else if step < 48 then (s.b ^^^ s.c ^^^ s.d, (3 * step + 5) % 16)
  else (s.c ^^^ (s.b ||| ~~~s.d), (7 * step) % 16)

private def round (w : Array UInt32) (s : State) (step : Nat) : State :=
  let (f, index) := mix s step
  let sum := s.a + f + sines.getD step 0 + w.getD index 0
  ⟨s.d, s.b + rotl sum (shift step), s.b, s.c⟩

def compress (s : State) (block : Bytes) : State :=
  let w := words block
  let t := (List.range 64).foldl (round w) s
  ⟨s.a + t.a, s.b + t.b, s.c + t.c, s.d + t.d⟩

/-- The message with its marker, zeros and little-endian bit length. -/
def padded (message : Bytes) : Bytes :=
  let length := message.length
  message ++ 0x80 :: List.replicate (padding length) 0 ++ Bytes.ofNatLE 8 (8 * length)

def State.toBytes (s : State) : Bytes :=
  [s.a, s.b, s.c, s.d].flatMap fun w => Bytes.ofNatLE 4 w.toNat

end Md5

def md5 (message : Bytes) : Bytes :=
  let text := Md5.padded message
  ((blocks64 (text.length / 64) text).foldl Md5.compress Md5.State.initial).toBytes

end RadioLink.Digest
