/-!
# Durations

A span of time in whole seconds and nanoseconds.  The two parts are machine
words, so that doubling has to carry and has to stop at the largest span the
words can hold; `toNanos` is the exact length that both parts stand for.
-/

namespace AsyncLog

/-- A span of time; the nanoseconds never make up a whole second. -/
structure Duration where
  secs : UInt64
  nanos : UInt32
  nanos_lt : nanos.toNat < 1000000000 := by decide
  deriving DecidableEq

namespace Duration

def zero : Duration := { secs := 0, nanos := 0 }

def max : Duration := { secs := 0xFFFFFFFFFFFFFFFF, nanos := 999999999 }

instance : Inhabited Duration := ⟨zero⟩

def toNanos (d : Duration) : Nat :=
  d.secs.toNat * 1000000000 + d.nanos.toNat

def isZero (d : Duration) : Bool :=
  d.secs == 0 && d.nanos == 0

def ofMillis (ms : UInt64) : Duration where
  secs := ms / 1000
  nanos := (ms % 1000).toUInt32 * 1000000
  nanos_lt := by
    have h : ms.toNat % 1000 < 1000 := Nat.mod_lt _ (by decide)
    simp only [UInt32.toNat_mul, UInt64.toNat_toUInt32, UInt64.toNat_mod,
      UInt64.reduceToNat, UInt32.reduceToNat]
    rw [Nat.mod_eq_of_lt (a := ms.toNat % 1000) (by omega), Nat.mod_eq_of_lt (by omega)]
    omega

def ofParts? (secs : UInt64) (nanos : UInt32) : Option Duration :=
  if h : nanos.toNat < 1000000000 then some { secs, nanos, nanos_lt := h } else none

/-!
## Doubling

The nanoseconds are doubled first and carry into the seconds.  A span whose
double does not fit becomes the longest span.
-/

def doubledNanos (d : Duration) : UInt32 :=
  if d.nanos < 500000000 then d.nanos * 2 else d.nanos * 2 - 1000000000

theorem doubledNanos_lt (d : Duration) : d.doubledNanos.toNat < 1000000000 := by
  have h := d.nanos_lt
  unfold doubledNanos
  split
  · rename_i hlt
    have hlt' : d.nanos.toNat < 500000000 := by simpa using UInt32.lt_iff_toNat_lt.mp hlt
    simp only [UInt32.toNat_mul, UInt32.reduceToNat]
    omega
  · have hle : (1000000000 : UInt32).toNat ≤ (d.nanos * 2).toNat := by
      rename_i hlt
      have hge : 500000000 ≤ d.nanos.toNat := by
        have := mt UInt32.lt_iff_toNat_lt.mpr hlt
        simpa using this
      simp only [UInt32.toNat_mul, UInt32.reduceToNat]
      omega
    rw [UInt32.toNat_sub_of_le _ _ (UInt32.le_iff_toNat_le.mpr hle)]
    simp only [UInt32.toNat_mul, UInt32.reduceToNat]
    omega

def carry (d : Duration) : UInt64 :=
  if d.nanos < 500000000 then 0 else 1

/-- Twice the span, or the longest span where twice does not fit. -/
def double (d : Duration) : Duration :=
  if d.secs < 0x8000000000000000 then
    { secs := d.secs * 2 + d.carry, nanos := d.doubledNanos, nanos_lt := d.doubledNanos_lt }
  else
    max

/-!
## Text

The largest unit with a whole part is used, and the fraction keeps as many
digits as it needs.
-/

def fractionDigits : Nat -> Nat -> Nat -> List Char
  | 0, _, _ => []
  | places + 1, weight, rest =>
      if rest = 0 then []
      else Nat.digitChar (rest / weight % 10) :: fractionDigits places (weight / 10) (rest % weight)

def scaledText (whole fraction places : Nat) (unit : String) : String :=
  let digits := fractionDigits places (Nat.pow 10 (places - 1)) fraction
  let point := if digits.isEmpty then "" else "."
  toString whole ++ point ++ String.ofList digits ++ unit

def text (d : Duration) : String :=
  if d.secs > 0 then scaledText d.secs.toNat d.nanos.toNat 9 "s"
  else if d.nanos ≥ 1000000 then
    scaledText (d.nanos.toNat / 1000000) (d.nanos.toNat % 1000000) 6 "ms"
  else if d.nanos ≥ 1000 then
    scaledText (d.nanos.toNat / 1000) (d.nanos.toNat % 1000) 3 "µs"
  else scaledText d.nanos.toNat 0 0 "ns"

end Duration

end AsyncLog
