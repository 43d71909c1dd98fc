/-!
Spans of time: whole seconds in 64 bits and nanoseconds below one second.
-/

set_option autoImplicit false

namespace RadioLink

structure Duration where
  secs : UInt64
  nanos : Nat
  nanos_lt : nanos < 1000000000
  deriving DecidableEq

namespace Duration

def zero : Duration := ⟨0, 0, by decide⟩

instance : Inhabited Duration := ⟨zero⟩

def toNanos (d : Duration) : Nat :=
  d.secs.toNat * 1000000000 + d.nanos

/-- The span of a number of nanoseconds; `none` past the largest number of seconds. -/
def ofNanos? (n : Nat) : Option Duration :=
  if n / 1000000000 < UInt64.size then
    some ⟨UInt64.ofNat (n / 1000000000), n % 1000000000, Nat.mod_lt n (by decide)⟩
  else none

def ofSecs (n : Nat) : Duration :=
  ⟨UInt64.ofNat n, 0, by decide⟩

def ofMillis (n : Nat) : Duration :=
  ⟨UInt64.ofNat (n / 1000), n % 1000 * 1000000, by omega⟩

/-- The whole milliseconds, as a 64-bit count. -/
def toMillis (d : Duration) : Nat :=
  d.toNanos / 1000000 % UInt64.size

theorem toNanos_injective {d e : Duration} (h : d.toNanos = e.toNanos) : d = e := by
  have hd := d.nanos_lt
  have he := e.nanos_lt
  simp only [toNanos] at h
  have hsecs : d.secs.toNat = e.secs.toNat := by omega
  have hnanos : d.nanos = e.nanos := by omega
  cases d
  cases e
  simp_all [UInt64.toNat_inj]

end Duration

end RadioLink
