import AsyncLog.Random.Generator
import Mathlib.Algebra.Order.Floor.Div
import Mathlib.Data.Nat.Count
import Mathlib.Order.Interval.Finset.Nat
/-!
# Integers are drawn evenly

A word times the number of possible values is a product of two halves.  The
words whose product lies in one window of that product, long enough for the
accepted lower halves, follow each other without a gap; there are as many of
them for the first value as for the last one.
-/

namespace AsyncLog.Random

def width (min max : Int32) : Nat := (max.toInt - min.toInt + 1).toNat

/-- How many of all words give an integer. -/
def wordsFor (min max v : Int32) : Nat :=
  Nat.count (fun i => integerOf min max (.ofNat i) = some v) UInt32.size

/-- The number of words that each integer of a range is to have. -/
def share (min max : Int32) : Nat :=
  if valueCount min max = 0 then 1 else 2 ^ (leadingZeros (valueCount min max)).toNat

/-!
## Draws
-/

theorem Generator.word_next (g : Generator) (j : Nat) :
    g.next.2.key.word (g.next.2.position + j) = g.key.word (g.position + (j + 1)) := by
  rw [next, Nat.add_assoc, Nat.add_comm 1]

/-- A drawn value is that of the first word that is not refused, and the
generator goes on behind that word. -/
theorem Generator.drawWithin_eq_some_iff {rule : UInt32 -> Option α} {g g' : Generator}
    {tries : Nat} {a : α} :
    g.drawWithin rule tries = some (a, g') ↔
      exists refused, refused < tries ∧ rule (g.key.word (g.position + refused)) = some a ∧
        (forall j, j < refused -> rule (g.key.word (g.position + j)) = none) ∧
        g' = { g with position := g.position + refused + 1 } := by
  induction tries generalizing g with
  | zero => simp [drawWithin]
  | succ tries ih =>
      have hskip : forall n, g.next.2.position + n + 1 = g.position + (n + 1) + 1 :=
        fun n => congrArg Nat.succ (Nat.succ_add g.position n)
      rw [drawWithin]
      cases hword : rule g.next.1 with
      | some b =>
          constructor
          · intro h
            obtain ⟨rfl, rfl⟩ := Prod.mk.inj (Option.some.inj h)
            exact ⟨0, Nat.succ_pos tries, hword, fun j hj => absurd hj (Nat.not_lt_zero j), rfl⟩
          · rintro ⟨refused, _, hvalue, hbefore, rfl⟩
            cases refused with
            | zero =>
                cases hword.symm.trans hvalue
                rfl
            | succ refused => cases hword.symm.trans (hbefore 0 (Nat.succ_pos refused))
      | none =>
          simp only [ih, word_next, hskip]
          constructor
          · rintro ⟨refused, hlt, hvalue, hbefore, rfl⟩
            refine ⟨refused + 1, Nat.succ_lt_succ hlt, hvalue, fun j hj => ?_, rfl⟩
            cases j with
            | zero => exact hword
            | succ j => exact hbefore j (Nat.lt_of_succ_lt_succ hj)
          · rintro ⟨refused, hlt, hvalue, hbefore, rfl⟩
            cases refused with
            | zero => cases hword.symm.trans hvalue
            | succ refused =>
                exact ⟨refused, Nat.lt_of_succ_lt_succ hlt, hvalue,
                  fun j hj => hbefore (j + 1) (Nat.succ_lt_succ hj), rfl⟩

theorem Generator.drawWithin_eq_none_iff {rule : UInt32 -> Option α} {g : Generator}
    {tries : Nat} :
    g.drawWithin rule tries = none ↔
      forall j, j < tries -> rule (g.key.word (g.position + j)) = none := by
  induction tries generalizing g with
  | zero => simp [drawWithin]
  | succ tries ih =>
      rw [drawWithin]
      cases hword : rule g.next.1 with
      | some b =>
          constructor
          · nofun
          · intro hrefused
            cases hword.symm.trans (hrefused 0 (Nat.succ_pos tries))
      | none =>
          simp only [ih, word_next]
          constructor
          · intro hrefused j hj
            cases j with
            | zero => exact hword
            | succ j => exact hrefused j (Nat.lt_of_succ_lt_succ hj)
          · intro hrefused j hj
            exact hrefused (j + 1) (Nat.succ_lt_succ hj)

/-!
## Windows of products

The multiples of `n` that lie in a window of `n * share` numbers are `share` in
number, wherever the window starts.
-/

section Windows

variable {n share size : Nat}

theorem product_in_window_iff (hn : 0 < n) (hshare : n * share ≤ size) (k w : Nat) :
    (w * n / size = k ∧ w * n % size < n * share) ↔
      (k * size ⌈/⌉ n ≤ w ∧ w < k * size ⌈/⌉ n + share) := by
  have hfirst : k * size ⌈/⌉ n ≤ w ↔ k * size ≤ n * w := ceilDiv_le_iff_le_mul hn
  have hlast : w < k * size ⌈/⌉ n + share ↔ n * w < k * size + n * share := by
    rcases Nat.lt_or_ge w share with hw | hw
    · have := Nat.mul_lt_mul_of_pos_left hw hn
      omega
    · obtain ⟨d, rfl⟩ := Nat.exists_eq_add_of_le hw
      have hd : k * size ⌈/⌉ n ≤ d ↔ k * size ≤ n * d := ceilDiv_le_iff_le_mul hn
      rw [Nat.mul_add]
      omega
  rw [hfirst, hlast, Nat.mul_comm w n]
  have hsplit := Nat.div_add_mod (n * w) size
  constructor
  · rintro ⟨rfl, hlow⟩
    rw [Nat.mul_comm (n * w / size)]
    omega
  · rintro ⟨hge, hlt⟩
    have hk : n * w / size = k :=
      Nat.div_eq_of_lt_le hge (by rw [Nat.add_mul]; omega)
    subst hk
    rw [Nat.mul_comm (n * w / size)] at hlt
    exact ⟨rfl, by omega⟩

theorem window_within (hn : 0 < n) (hshare : n * share ≤ size) {k : Nat} (hk : k < n) :
    k * size ⌈/⌉ n + share ≤ size := by
  rcases Nat.eq_zero_or_pos share with rfl | hpos
  · exact ceilDiv_le_iff_le_mul hn |>.mpr (Nat.mul_le_mul_right size (Nat.le_of_lt hk))
  · -- The last word of the window has its product below `(k + 1) * size`.
    obtain ⟨hquotient, -⟩ := (product_in_window_iff hn hshare k
      (k * size ⌈/⌉ n + (share - 1))).mpr ⟨Nat.le_add_right _ _, by omega⟩
    have hsize : 0 < size := Nat.lt_of_lt_of_le (Nat.mul_pos hn hpos) hshare
    have hproduct := Nat.lt_of_lt_of_le
      ((Nat.div_lt_iff_lt_mul hsize).mp (hquotient.trans_lt hk))
      (Nat.le_of_eq (Nat.mul_comm n size))
    have := Nat.lt_of_mul_lt_mul_right hproduct
    omega

theorem count_of_interval {p : Nat -> Prop} [DecidablePred p] {first length : Nat}
    (hwithin : first + length ≤ size)
    (hp : forall i, i < size -> (p i ↔ first ≤ i ∧ i < first + length)) :
    Nat.count p size = length := by
  have hset : (Finset.range size).filter p = Finset.Ico first (first + length) := by
    ext i
    simp only [Finset.mem_filter, Finset.mem_range, Finset.mem_Ico]
    constructor
    · rintro ⟨hi, hpi⟩
      exact (hp i hi).mp hpi
    · intro hi
      have hsize : i < size := Nat.lt_of_lt_of_le hi.2 hwithin
      exact ⟨hsize, (hp i hsize).mpr hi⟩
  rw [Nat.count_eq_card_filter_range, hset, Nat.card_Ico, Nat.add_sub_cancel_left]

end Windows

/-!
## Words as numbers
-/

theorem toNat_toUInt32 (x : Int32) : (x.toUInt32.toNat : Int) = x.toInt % 4294967296 := by
  rw [← Int32.toNat_toBitVec, ← Int32.toInt_toBitVec, BitVec.toInt_eq_toNat_cond]
  have := x.toBitVec.isLt
  split <;> omega

theorem toNat_ne_zero {count : UInt32} (h : count ≠ 0) : count.toNat ≠ 0 :=
  fun hzero => h (UInt32.toNat_inj.mp hzero)

theorem toInt_offset (min : Int32) (upper : UInt32) {max : Int32}
    (h : min.toInt + upper.toNat ≤ max.toInt) :
    (min.toUInt32 + upper).toInt32.toInt = min.toInt + upper.toNat := by
  have hmin := toNat_toUInt32 min
  have hsum := toNat_toUInt32 (min.toUInt32 + upper).toInt32
  rw [UInt32.toUInt32_toInt32, UInt32.toNat_add] at hsum
  have := min.le_toInt
  have := max.toInt_lt
  have := (min.toUInt32 + upper).toInt32.le_toInt
  have := (min.toUInt32 + upper).toInt32.toInt_lt
  omega

theorem toNat_halves (w count : UInt32) :
    ((w.toUInt64 * count.toUInt64) >>> 32).toUInt32.toNat =
        w.toNat * count.toNat / UInt32.size ∧
      (w.toUInt64 * count.toUInt64).toUInt32.toNat = w.toNat * count.toNat % UInt32.size := by
  have hlt : w.toNat * count.toNat < UInt64.size := Nat.mul_lt_mul'' w.toNat_lt count.toNat_lt
  have hproduct : (w.toUInt64 * count.toUInt64).toNat = w.toNat * count.toNat := by
    rw [UInt64.toNat_mul, UInt32.toNat_toUInt64, UInt32.toNat_toUInt64, Nat.mod_eq_of_lt hlt]
  constructor
  · have hshift : (32 : UInt64).toNat % 64 = 32 := rfl
    rw [UInt64.toNat_toUInt32, UInt64.toNat_shiftRight, hproduct, hshift,
      Nat.shiftRight_eq_div_pow]
    exact Nat.mod_eq_of_lt (Nat.div_lt_of_lt_mul hlt)
  · rw [UInt64.toNat_toUInt32, hproduct]

theorem leadingZeros_add_log2 {count : UInt32} (h : count ≠ 0) :
    (leadingZeros count).toNat + count.toNat.log2 = 31 := by
  have hlog : count.toNat.log2 < 32 := (Nat.log2_lt (toNat_ne_zero h)).mpr count.toNat_lt
  have hword : count.log2.toNat = count.toNat.log2 := rfl
  have hle : count.log2 ≤ 31 := UInt32.le_iff_toNat_le.mpr (Nat.le_of_lt_succ hlog)
  have hmost : (31 : UInt32).toNat = 31 := rfl
  rw [leadingZeros, UInt32.toNat_sub_of_le _ _ hle, hword, hmost]
  omega

theorem count_mul_share_bounds {count : UInt32} (h : count ≠ 0) :
    UInt32.size / 2 ≤ count.toNat * 2 ^ (leadingZeros count).toNat ∧
      count.toNat * 2 ^ (leadingZeros count).toNat < UInt32.size := by
  have hsum := leadingZeros_add_log2 h
  have hlow := Nat.log2_self_le (toNat_ne_zero h)
  have hhigh := @Nat.lt_log2_self count.toNat
  generalize (leadingZeros count).toNat = zeros at hsum ⊢
  constructor
  · calc
      UInt32.size / 2 = 2 ^ (count.toNat.log2 + zeros) := by rw [Nat.add_comm, hsum]; rfl
      _ = 2 ^ count.toNat.log2 * 2 ^ zeros := Nat.pow_add ..
      _ ≤ count.toNat * 2 ^ zeros := Nat.mul_le_mul_right _ hlow
  · calc
      count.toNat * 2 ^ zeros < 2 ^ (count.toNat.log2 + 1) * 2 ^ zeros :=
        Nat.mul_lt_mul_of_pos_right hhigh (Nat.two_pow_pos zeros)
      _ = 2 ^ (count.toNat.log2 + 1 + zeros) := (Nat.pow_add ..).symm
      _ = UInt32.size := by rw [Nat.add_right_comm, Nat.add_comm _ zeros, hsum]; rfl

theorem toNat_zone {count : UInt32} (h : count ≠ 0) :
    (zone count).toNat + 1 = count.toNat * 2 ^ (leadingZeros count).toNat := by
  obtain ⟨hlow, hhigh⟩ := count_mul_share_bounds h
  have hzeros : (leadingZeros count).toNat < 32 := by
    have := leadingZeros_add_log2 h
    omega
  have hshift : (count <<< leadingZeros count).toNat =
      count.toNat * 2 ^ (leadingZeros count).toNat := by
    rw [UInt32.toNat_shiftLeft, Nat.mod_eq_of_lt hzeros, Nat.shiftLeft_eq,
      Nat.mod_eq_of_lt hhigh]
  have hone : (1 : UInt32) ≤ count <<< leadingZeros count := by
    rw [UInt32.le_iff_toNat_le, hshift]
    exact Nat.le_trans (by decide) hlow
  rw [zone, UInt32.toNat_sub_of_le _ _ hone, hshift]
  exact Nat.sub_add_cancel (Nat.le_trans (by decide) hlow)

/-!
## The number of values
-/

section Range

variable {min max : Int32}

theorem toNat_valueCount (h : min ≤ max) :
    (valueCount min max).toNat = width min max % UInt32.size := by
  rw [Int32.le_iff_toInt_le] at h
  have hmin := toNat_toUInt32 min
  have hmax := toNat_toUInt32 max
  simp only [valueCount, width, UInt32.toNat_add, UInt32.toNat_sub, UInt32.size,
    UInt32.reduceToNat]
  omega

theorem lt_width_iff (k : Nat) : k < width min max ↔ min.toInt + k ≤ max.toInt := by
  rw [width]
  omega

theorem width_pos (h : min ≤ max) : 0 < width min max := by
  rw [Int32.le_iff_toInt_le] at h
  exact (lt_width_iff 0).mpr (by omega)

theorem upper_lt_width (h : min ≤ max) (w : UInt32) :
    w.toNat * width min max / UInt32.size < width min max :=
  Nat.div_lt_of_lt_mul (Nat.mul_lt_mul_of_pos_right w.toNat_lt (width_pos h))

theorem width_le (min max : Int32) : width min max ≤ UInt32.size := by
  have := min.le_toInt
  have := max.toInt_lt
  simp only [width, UInt32.size]
  omega

theorem full_of_valueCount_eq_zero (h : min ≤ max) (hfull : valueCount min max = 0) :
    width min max = UInt32.size ∧ forall v : Int32, min ≤ v ∧ v ≤ max := by
  have hcount := toNat_valueCount h
  have hwidth := width_le min max
  rw [hfull, UInt32.toNat_zero] at hcount
  rw [Int32.le_iff_toInt_le] at h
  have hsize : width min max = UInt32.size := by
    simp only [width, UInt32.size] at hcount hwidth ⊢
    omega
  refine ⟨hsize, fun v => ?_⟩
  have := min.le_toInt
  have := max.toInt_lt
  have := v.le_toInt
  have := v.toInt_lt
  simp only [width, UInt32.size] at hsize
  simp only [Int32.le_iff_toInt_le]
  omega

theorem toNat_valueCount_of_ne_zero (h : min ≤ max) (hcount : valueCount min max ≠ 0) :
    (valueCount min max).toNat = width min max := by
  have hne := toNat_ne_zero hcount
  have hwidth := width_le min max
  rw [toNat_valueCount h] at hne ⊢
  refine Nat.mod_eq_of_lt (Nat.lt_of_le_of_ne hwidth fun hsize => hne ?_)
  rw [hsize, Nat.mod_self]

theorem width_mul_share (h : min ≤ max) :
    UInt32.size / 2 ≤ width min max * share min max ∧
      width min max * share min max ≤ UInt32.size := by
  rw [share]
  by_cases hcount : valueCount min max = 0
  · rw [if_pos hcount, (full_of_valueCount_eq_zero h hcount).1]
    decide
  · rw [if_neg hcount, ← toNat_valueCount_of_ne_zero h hcount]
    exact ⟨(count_mul_share_bounds hcount).1, Nat.le_of_lt (count_mul_share_bounds hcount).2⟩

/-!
## The value of a word
-/

theorem integerOf_of_full (hcount : valueCount min max = 0) (w : UInt32) :
    integerOf min max w = some w.toInt32 := if_pos hcount

/-- Outside the full range the product of a word and the width tells whether the
word is accepted, and how far above the least integer its value is. -/
theorem integerOf_eq_some_iff (h : min ≤ max) (hcount : valueCount min max ≠ 0) (w : UInt32)
    (v : Int32) :
    integerOf min max w = some v ↔
      v.toInt = min.toInt + (w.toNat * width min max / UInt32.size : Nat) ∧
        w.toNat * width min max % UInt32.size < width min max * share min max := by
  have hwidth := toNat_valueCount_of_ne_zero h hcount
  have hzone := toNat_zone hcount
  obtain ⟨hupper, hlower⟩ := toNat_halves w (valueCount min max)
  have hshare : share min max = 2 ^ (leadingZeros (valueCount min max)).toNat := if_neg hcount
  rw [← hshare, hwidth] at hzone
  rw [hwidth] at hupper hlower
  -- The upper half stays below the width, so the sum does not pass the greatest integer.
  have hvalue := toInt_offset min
    ((w.toUInt64 * (valueCount min max).toUInt64) >>> 32).toUInt32
    (hupper ▸ (lt_width_iff _).mp (upper_lt_width h w))
  rw [hupper] at hvalue
  have haccept : (w.toUInt64 * (valueCount min max).toUInt64).toUInt32 ≤
      zone (valueCount min max) ↔
        w.toNat * width min max % UInt32.size < width min max * share min max := by
    rw [UInt32.le_iff_toNat_le, hlower, ← hzone, Nat.lt_succ_iff]
  simp only [integerOf, if_neg hcount]
  split
  · next haccepted =>
      rw [Option.some_inj, ← Int32.toInt_inj, hvalue]
      exact ⟨fun heq => ⟨heq.symm, haccept.mp haccepted⟩, fun hv => hv.1.symm⟩
  · next hrefused =>
      exact ⟨fun heq => absurd heq (by simp), fun hv => absurd (haccept.mpr hv.2) hrefused⟩

theorem wordsFor_of_full (hcount : valueCount min max = 0) (v : Int32) :
    wordsFor min max v = 1 := by
  have hword : v.toUInt32.toNat + 1 ≤ UInt32.size := v.toUInt32.toNat_lt
  refine count_of_interval hword fun i hi => ?_
  rw [integerOf_of_full hcount, Option.some_inj]
  constructor
  · rintro rfl
    rw [UInt32.toUInt32_toInt32, UInt32.toNat_ofNat_of_lt' hi]
    exact ⟨Nat.le_refl i, Nat.lt_succ_self i⟩
  · intro hv
    have hword : i = v.toUInt32.toNat := by omega
    rw [hword, UInt32.ofNat_toNat, Int32.toInt32_toUInt32]

theorem wordsFor_of_not_full (h : min ≤ max) (hcount : valueCount min max ≠ 0) {v : Int32}
    (hmin : min ≤ v) (hmax : v ≤ max) : wordsFor min max v = share min max := by
  have hshare := (width_mul_share h).2
  have hplace : exists k : Nat, v.toInt = min.toInt + k := by
    refine ⟨(v.toInt - min.toInt).toNat, ?_⟩
    rw [Int32.le_iff_toInt_le] at hmin
    omega
  obtain ⟨k, hk⟩ := hplace
  have hlt : k < width min max := by
    rw [lt_width_iff, ← hk]
    exact Int32.le_iff_toInt_le.mp hmax
  have hpos := width_pos h
  refine count_of_interval (window_within hpos hshare hlt) fun i hi => ?_
  rw [integerOf_eq_some_iff h hcount, UInt32.toNat_ofNat_of_lt' hi,
    ← product_in_window_iff hpos hshare, hk, Int.add_right_inj, Int.ofNat_inj, eq_comm (a := k)]

theorem wordsFor_eq_share (h : min ≤ max) {v : Int32} (hmin : min ≤ v) (hmax : v ≤ max) :
    wordsFor min max v = share min max := by
  by_cases hcount : valueCount min max = 0
  · rw [wordsFor_of_full hcount, share, if_pos hcount]
  · exact wordsFor_of_not_full h hcount hmin hmax

theorem exists_word (h : min ≤ max) {v : Int32} (hmin : min ≤ v) (hmax : v ≤ max) :
    exists w, integerOf min max w = some v := by
  have hpos : 0 < wordsFor min max v := by
    have := (width_mul_share h).1
    rw [wordsFor_eq_share h hmin hmax]
    refine Nat.pos_of_ne_zero fun hzero => ?_
    rw [hzero, Nat.mul_zero] at this
    exact absurd this (by decide)
  rw [wordsFor, Nat.count_eq_card_filter_range] at hpos
  obtain ⟨i, hi⟩ := Finset.card_pos.mp hpos
  exact ⟨.ofNat i, (Finset.mem_filter.mp hi).2⟩

theorem integerOf_in_range (h : min ≤ max) {w : UInt32} {v : Int32}
    (hword : integerOf min max w = some v) : min ≤ v ∧ v ≤ max := by
  by_cases hcount : valueCount min max = 0
  · exact (full_of_valueCount_eq_zero h hcount).2 v
  · obtain ⟨hvalue, -⟩ := (integerOf_eq_some_iff h hcount w v).mp hword
    have hbelow := upper_lt_width h w
    rw [lt_width_iff, ← hvalue] at hbelow
    refine ⟨?_, Int32.le_iff_toInt_le.mpr hbelow⟩
    rw [Int32.le_iff_toInt_le, hvalue]
    exact Int.le_add_of_nonneg_right (Int.natCast_nonneg _)

/-!
## Even sampling
-/

/-- What it means to draw an integer of a range evenly. -/
structure SampledEvenly (min max : Int32) : Prop where
  /-- The integer of an accepted word belongs to the range; but for the range of
  all integers it lies above the least one by the upper half of the product, as
  numbers and not only modulo the size of a word. -/
  in_range : forall w v, integerOf min max w = some v ->
    min ≤ v ∧ v ≤ max ∧
      (valueCount min max = 0 -> v.toUInt32 = w) ∧
      (valueCount min max ≠ 0 ->
        v.toInt = min.toInt + (w.toNat * width min max / UInt32.size : Nat))
  /-- Every integer of the range belongs to equally many words. -/
  even : forall v, min ≤ v -> v ≤ max -> wordsFor min max v = share min max
  ends : (exists w, integerOf min max w = some min) ∧ exists w, integerOf min max w = some max
  /-- At least every second word is accepted. -/
  accepted : UInt32.size / 2 ≤ width min max * share min max ∧
    width min max * share min max ≤ UInt32.size
  /-- A generator hands out the integer of its first accepted word, and none only if a whole
  period of words is refused. -/
  drawn : forall g : Generator, exists result, g.integerBetween min max = .ok result ∧
    (result = none ↔ forall j, j < Key.period ->
      integerOf min max (g.key.word (g.position + j)) = none) ∧
    (forall v g', result = some (v, g') -> min ≤ v ∧ v ≤ max) ∧
    forall v g', result = some (v, g') ↔
      exists refused, refused < Key.period ∧
        integerOf min max (g.key.word (g.position + refused)) = some v ∧
        (forall j, j < refused -> integerOf min max (g.key.word (g.position + j)) = none) ∧
        g' = { g with position := g.position + refused + 1 }

/-- The integers of every range that is not empty are drawn evenly. -/
theorem sampled_evenly {min max : Int32} (h : min ≤ max) : SampledEvenly min max where
  in_range w v hword := by
    obtain ⟨hmin, hmax⟩ := integerOf_in_range h hword
    refine ⟨hmin, hmax, fun hfull => ?_, fun hcount => ?_⟩
    · rw [integerOf_of_full hfull] at hword
      rw [← Option.some.inj hword, UInt32.toUInt32_toInt32]
    · exact ((integerOf_eq_some_iff h hcount w v).mp hword).1
  even _ hmin hmax := wordsFor_eq_share h hmin hmax
  ends := ⟨exists_word h (Int32.le_refl min) h, exists_word h h (Int32.le_refl max)⟩
  accepted := width_mul_share h
  drawn g := by
    refine ⟨g.draw (integerOf min max), if_neg (Int32.not_lt.mpr h),
      Generator.drawWithin_eq_none_iff, fun v g' hdraw => ?_,
      fun v g' => Generator.drawWithin_eq_some_iff⟩
    obtain ⟨refused, _, hvalue, _⟩ := Generator.drawWithin_eq_some_iff.mp hdraw
    exact integerOf_in_range h hvalue

theorem sampled_evenly_extremes :
    (SampledEvenly .minValue .maxValue ∧ share .minValue .maxValue = 1) ∧
      (SampledEvenly (-1073741824) 1073741824 ∧ share (-1073741824) 1073741824 = 1) ∧
      SampledEvenly 1 6 ∧ share 1 6 = 536870912 :=
  ⟨⟨sampled_evenly (by decide), by decide⟩, ⟨sampled_evenly (by decide), by decide⟩,
    sampled_evenly (by decide), by decide⟩

end Range

end AsyncLog.Random
