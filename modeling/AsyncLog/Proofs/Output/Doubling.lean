import AsyncLog.Duration
/-!
# Doubling in exact nanoseconds

The two words of a duration stand for a number of nanoseconds.  To double a duration doubles this
number, with the carry between the words, as long as the result fits; from then on it is the
longest duration.  No operation on the words that doubling takes leaves its word.
-/

namespace AsyncLog.Duration

theorem toNanos_max : max.toNanos = 18446744073709551615999999999 := by
  decide

theorem toNanos_le_max (d : Duration) : d.toNanos ≤ max.toNanos := by
  have hsecs := d.secs.toNat_lt
  have hnanos := d.nanos_lt
  rw [toNanos_max, toNanos]
  omega

theorem toNanos_inj {d d' : Duration} (h : d.toNanos = d'.toNanos) : d = d' := by
  have hlt := d.nanos_lt
  have hlt' := d'.nanos_lt
  rcases d with ⟨secs, nanos, _⟩
  rcases d' with ⟨secs', nanos', _⟩
  have hsum : secs.toNat * 1000000000 + nanos.toNat = secs'.toNat * 1000000000 + nanos'.toNat := h
  have hsecs : secs = secs' := UInt64.toNat_inj.mp (by omega)
  have hnanos : nanos = nanos' := UInt32.toNat_inj.mp (by omega)
  cases hsecs
  cases hnanos
  rfl

def clamp (n : Nat) : Duration :=
  if n ≤ max.toNanos then
    { secs := UInt64.ofNat (n / 1000000000)
      nanos := UInt32.ofNat (n % 1000000000)
      nanos_lt := by
        have hless : n % 1000000000 < 1000000000 := Nat.mod_lt _ (by decide)
        rw [UInt32.toNat_ofNat_of_lt' (Nat.lt_trans hless (by decide))]
        exact hless }
  else max

theorem toNanos_clamp (n : Nat) : (clamp n).toNanos = min n max.toNanos := by
  unfold clamp
  split
  · rename_i hfits
    rw [Nat.min_eq_left hfits]
    rw [toNanos_max] at hfits
    have hless : n % 1000000000 < UInt32.size :=
      Nat.lt_trans (Nat.mod_lt _ (by decide)) (by decide)
    have hsecs : n / 1000000000 < UInt64.size := by
      show n / 1000000000 < 18446744073709551616
      omega
    show (UInt64.ofNat (n / 1000000000)).toNat * 1000000000 +
      (UInt32.ofNat (n % 1000000000)).toNat = n
    rw [UInt64.toNat_ofNat_of_lt' hsecs, UInt32.toNat_ofNat_of_lt' hless]
    exact Nat.div_add_mod' n 1000000000
  · rename_i hover
    rw [Nat.min_eq_right (Nat.le_of_not_le hover)]

theorem clamp_toNanos (d : Duration) : clamp d.toNanos = d := by
  apply toNanos_inj
  rw [toNanos_clamp, Nat.min_eq_left d.toNanos_le_max]

/-!
## Doubling
-/

theorem nanos_lt_half_iff (d : Duration) :
    d.nanos < 500000000 ↔ d.nanos.toNat < 500000000 := UInt32.lt_iff_toNat_lt

theorem carry_add_doubledNanos (d : Duration) :
    d.carry.toNat * 1000000000 + d.doubledNanos.toNat = 2 * d.nanos.toNat := by
  have hnanos := d.nanos_lt
  have htwice : (d.nanos * 2).toNat = d.nanos.toNat * 2 := by
    rw [UInt32.toNat_mul]
    show d.nanos.toNat * 2 % 4294967296 = _
    omega
  unfold carry doubledNanos
  by_cases hhalf : d.nanos < 500000000
  · rw [if_pos hhalf, if_pos hhalf, htwice]
    show 0 * 1000000000 + _ = _
    omega
  · have hge : 500000000 ≤ d.nanos.toNat := Nat.le_of_not_lt fun h =>
      hhalf (d.nanos_lt_half_iff.mpr h)
    have hle : (1000000000 : UInt32) ≤ d.nanos * 2 := by
      rw [UInt32.le_iff_toNat_le, htwice]
      show 1000000000 ≤ _
      omega
    rw [if_neg hhalf, if_neg hhalf, UInt32.toNat_sub_of_le _ _ hle, htwice]
    show 1 * 1000000000 + (_ - 1000000000) = _
    omega

theorem carry_le (d : Duration) : d.carry.toNat ≤ 1 := by
  unfold carry
  split
  · exact Nat.zero_le 1
  · exact Nat.le_refl 1

theorem secs_lt_half_iff (d : Duration) :
    d.secs < 0x8000000000000000 ↔ d.secs.toNat < 9223372036854775808 := UInt64.lt_iff_toNat_lt

/-- As long as the doubled seconds fit there is room for the carry, too. -/
theorem doubledSecs_of_lt {d : Duration} (h : d.secs.toNat < 9223372036854775808) :
    (d.secs * 2 + d.carry).toNat = d.secs.toNat * 2 + d.carry.toNat := by
  have hcarry := d.carry_le
  rw [UInt64.toNat_add, UInt64.toNat_mul]
  show (d.secs.toNat * 2 % 18446744073709551616 + d.carry.toNat) % 18446744073709551616 = _
  omega

theorem toNanos_double (d : Duration) :
    d.double.toNanos = min (2 * d.toNanos) max.toNanos := by
  have hnanos := d.nanos_lt
  by_cases hfits : d.secs < 0x8000000000000000
  · have hless := d.secs_lt_half_iff.mp hfits
    have hexact : (d.secs * 2 + d.carry).toNat * 1000000000 + d.doubledNanos.toNat =
        2 * d.toNanos := by
      rw [doubledSecs_of_lt hless, toNanos, Nat.add_mul, Nat.add_assoc, d.carry_add_doubledNanos]
      omega
    have hwithin : 2 * d.toNanos ≤ max.toNanos := by
      rw [toNanos_max, toNanos]
      omega
    rw [double, if_pos hfits, Nat.min_eq_left hwithin]
    exact hexact
  · have hge : 9223372036854775808 ≤ d.secs.toNat := Nat.le_of_not_lt fun h =>
      hfits (d.secs_lt_half_iff.mpr h)
    have hover : max.toNanos ≤ 2 * d.toNanos := by
      rw [toNanos_max, toNanos]
      omega
    rw [double, if_neg hfits, Nat.min_eq_right hover]

theorem double_clamp (n : Nat) : (clamp n).double = clamp (2 * n) := by
  apply toNanos_inj
  rw [toNanos_double, toNanos_clamp, toNanos_clamp]
  omega

/-!
## Words that must not overflow
-/

def word32? (n : Nat) : Option UInt32 :=
  if n < UInt32.size then some (UInt32.ofNat n) else none

def word64? (n : Nat) : Option UInt64 :=
  if n < UInt64.size then some (UInt64.ofNat n) else none

/-- A duration doubled by operations that give nothing if they leave their word.  The
nanoseconds are doubled in a wider word and the seconds may turn out too large, for which the
longest duration stands in; nothing else is provided for. -/
def doubleInWords? (d : Duration) : Option Duration := do
  let total <- word64? (d.nanos.toNat * 2)
  let nanos <- word32? (total.toNat % 1000000000)
  match word64? (d.secs.toNat * 2) with
  | none => some max
  | some secs =>
      match word64? (secs.toNat + total.toNat / 1000000000) with
      | none => some max
      | some secs' => ofParts? secs' nanos

theorem word32?_of_lt {n : Nat} (h : n < UInt32.size) :
    word32? n = some (UInt32.ofNat n) ∧ (UInt32.ofNat n).toNat = n :=
  ⟨if_pos h, UInt32.toNat_ofNat_of_lt' h⟩

theorem word64?_of_lt {n : Nat} (h : n < UInt64.size) :
    word64? n = some (UInt64.ofNat n) ∧ (UInt64.ofNat n).toNat = n :=
  ⟨if_pos h, UInt64.toNat_ofNat_of_lt' h⟩

theorem doubleInWords?_eq (d : Duration) : d.doubleInWords? = some d.double := by
  have hnanos := d.nanos_lt
  have htotal : d.nanos.toNat * 2 < UInt64.size := by
    show _ < 18446744073709551616
    omega
  have hrest : d.nanos.toNat * 2 % 1000000000 < UInt32.size :=
    Nat.lt_trans (Nat.mod_lt _ (by decide)) (by decide)
  rcases word64?_of_lt htotal with ⟨hword, hvalue⟩
  rcases word32?_of_lt hrest with ⟨hword', hvalue'⟩
  simp only [doubleInWords?, hword, hvalue, hword', Option.bind_eq_bind, Option.bind_some]
  by_cases hsecs : d.secs.toNat * 2 < UInt64.size
  · rcases word64?_of_lt hsecs with ⟨hdoubled, hsecsValue⟩
    have hsum : d.secs.toNat * 2 + d.nanos.toNat * 2 / 1000000000 < UInt64.size := by
      have hsecs' : d.secs.toNat * 2 < 18446744073709551616 := hsecs
      show _ < 18446744073709551616
      omega
    rcases word64?_of_lt hsum with ⟨hcarried, hcarriedValue⟩
    simp only [hdoubled, hsecsValue, hcarried]
    have hbelow : (UInt32.ofNat (d.nanos.toNat * 2 % 1000000000)).toNat < 1000000000 := by
      rw [hvalue']
      exact Nat.mod_lt _ (by decide)
    rw [ofParts?, dif_pos hbelow]
    apply congrArg some
    apply toNanos_inj
    rw [toNanos_double, Nat.min_eq_left]
    · show (UInt64.ofNat _).toNat * 1000000000 + (UInt32.ofNat _).toNat = _
      rw [hcarriedValue, hvalue', toNanos]
      omega
    · have hsecs' : d.secs.toNat * 2 < 18446744073709551616 := hsecs
      rw [toNanos_max, toNanos]
      omega
  · have hnone : word64? (d.secs.toNat * 2) = none := if_neg hsecs
    simp only [hnone]
    apply congrArg some
    apply toNanos_inj
    have hsecs' : ¬ d.secs.toNat * 2 < 18446744073709551616 := hsecs
    rw [toNanos_double, Nat.min_eq_right]
    rw [toNanos_max, toNanos]
    omega

end AsyncLog.Duration
