import Mathlib.Data.List.TakeWhile
import AsyncLog.Proofs.Text.Decoding
import AsyncLog.Text.Blank
import AsyncLog.Text.Case
import AsyncLog.Text.Numeral
/-!
# Letter case and blanks

Two spellings of a text that differ in the case of the letters `A` to `Z`, or in the
blanks at their ends, are trimmed to the same text in lower case.  The differences
are stated of the bytes, so they also make sense of bytes that are no text, and
they never turn text into something else.
-/

namespace AsyncLog.Text

/-!
## Lower case
-/

theorem toLower_cases (c : Char) :
    c.toLower = c ∨ 65 ≤ c.toNat ∧ c.toNat ≤ 90 ∧ c.toLower.toNat = c.toNat + 32 := by
  by_cases hupper : c.val ≥ 'A'.val ∧ c.val ≤ 'Z'.val
  · right
    have hlow : 65 ≤ c.toNat := hupper.1
    have hhigh : c.toNat ≤ 90 := hupper.2
    refine ⟨hlow, hhigh, ?_⟩
    have hlower : c.toLower = _ := dif_pos hupper
    rw [hlower]
    show (c.val + 32).toNat = c.val.toNat + 32
    rw [UInt32.toNat_add]
    show (c.toNat + 32) % 4294967296 = c.toNat + 32
    omega
  · exact Or.inl (dif_neg hupper)

theorem toLower_of_not_upper {c : Char} (h : c.toNat < 65 ∨ 90 < c.toNat) : c.toLower = c := by
  rcases toLower_cases c with hsame | ⟨hlow, hhigh, _⟩
  · exact hsame
  · omega

theorem toLower_toLower (c : Char) : c.toLower.toLower = c.toLower := by
  rcases toLower_cases c with hsame | ⟨hlow, hhigh, hlower⟩
  · rw [hsame, hsame]
  · exact toLower_of_not_upper (by omega)

theorem isBlank_of_letter {c : Char} (hlow : 65 ≤ c.toNat) (hhigh : c.toNat ≤ 122) :
    isBlank c = false := by
  have hout : ∀ range ∈ blankRanges, ¬ (range.1 ≤ c.toNat ∧ c.toNat ≤ range.2) := by
    simp [blankRanges]
    omega
  rw [isBlank, List.any_eq_false]
  intro range hrange
  rw [Bool.and_eq_true, decide_eq_true_eq, decide_eq_true_eq]
  exact hout range hrange

theorem digitValue?_of_letter {c : Char} (h : 65 ≤ c.toNat) : digitValue? c = none := by
  have hdigit : c.isDigit = false := by
    simp only [Char.isDigit, Bool.and_eq_false_iff, decide_eq_false_iff_not]
    right
    intro hle
    have hlow : c.toNat ≤ 57 := hle
    omega
  rw [digitValue?, hdigit, if_neg Bool.false_ne_true]

theorem isBlank_toLower (c : Char) : isBlank c.toLower = isBlank c := by
  rcases toLower_cases c with hsame | ⟨hlow, hhigh, hlower⟩
  · rw [hsame]
  · rw [isBlank_of_letter (by omega) (by omega), isBlank_of_letter hlow (by omega)]

theorem digitValue?_toLower (c : Char) : digitValue? c.toLower = digitValue? c := by
  rcases toLower_cases c with hsame | ⟨hlow, hhigh, hlower⟩
  · rw [hsame]
  · rw [digitValue?_of_letter (by omega), digitValue?_of_letter hlow]

theorem lowerCase_lowerCase (s : List Char) : lowerCase (lowerCase s) = lowerCase s := by
  rw [lowerCase, lowerCase, List.map_map]
  exact List.map_congr_left fun c _ => toLower_toLower c

theorem trim_lowerCase (s : List Char) : trim (lowerCase s) = lowerCase (trim s) := by
  have hdrop : forall t : List Char,
      (lowerCase t).dropWhile isBlank = lowerCase (t.dropWhile isBlank) := by
    intro t
    rw [lowerCase, List.dropWhile_map]
    exact congrArg (fun p => (t.dropWhile p).map Char.toLower) (funext isBlank_toLower)
  have hreverse : forall t : List Char, (lowerCase t).reverse = lowerCase t.reverse :=
    fun t => List.map_reverse.symm
  rw [trim, trim, hdrop, hreverse, hdrop, hreverse]

theorem readDigits_lowerCase (limit value : Nat) (s : List Char) :
    readDigits limit value (lowerCase s) = readDigits limit value s := by
  induction s generalizing value with
  | nil => rfl
  | cons c rest ih => simp only [lowerCase_cons, readDigits, digitValue?_toLower, ih]

theorem toLower_ne_plus {c : Char} (h : c ≠ '+') : c.toLower ≠ '+' := by
  rcases toLower_cases c with hsame | ⟨hlow, _, hlower⟩
  · rwa [hsame]
  · intro hplus
    rw [hplus] at hlower
    have hplus' : '+'.toNat = 43 := rfl
    omega

theorem readNumeral_of_ne_plus (limit : Nat) {c : Char} (h : c ≠ '+') (rest : List Char) :
    readNumeral limit (c :: rest) = readDigits limit 0 (c :: rest) := by
  unfold readNumeral
  split
  · rename_i hnil
    cases hnil
  · rename_i hplus
    cases hplus
    exact absurd rfl h
  · rename_i hplus
    cases hplus
    exact absurd rfl h
  · rfl

/-- Letters are no part of a numeral, so it reads the same, or fails the same, in any case. -/
theorem readNumeral_lowerCase (limit : Nat) (s : List Char) :
    readNumeral limit (lowerCase s) = readNumeral limit s := by
  cases s with
  | nil => rfl
  | cons c rest =>
      by_cases hplus : c = '+'
      · subst hplus
        cases rest with
        | nil => rfl
        | cons d rest => exact readDigits_lowerCase limit 0 (d :: rest)
      · rw [lowerCase_cons, readNumeral_of_ne_plus limit (toLower_ne_plus hplus),
          readNumeral_of_ne_plus limit hplus, ← lowerCase_cons]
        exact readDigits_lowerCase limit 0 (c :: rest)

/-!
## Blanks
-/

theorem trim_append_of_blank {before s after : List Char} (hbefore : ∀ c ∈ before, isBlank c = true)
    (hafter : ∀ c ∈ after, isBlank c = true) : trim (before ++ s ++ after) = trim s := by
  have hafter' : ∀ c ∈ after.reverse, isBlank c = true := by
    intro c hc
    exact hafter c (List.mem_reverse.mp hc)
  rw [trim, List.append_assoc, List.dropWhile_append_of_pos hbefore, List.dropWhile_append]
  split
  · rename_i hempty
    rw [trim, List.isEmpty_iff.mp hempty, List.dropWhile_eq_nil_iff.mpr hafter]
  · rw [List.reverse_append, List.dropWhile_append_of_pos hafter', trim]

/-!
## Spellings of a value
-/

def lowerByte (b : UInt8) : UInt8 :=
  if 0x41 ≤ b ∧ b ≤ 0x5A then b + 0x20 else b

/-- Two values differ in nothing but the case of letters. -/
def SameLetters (x y : List UInt8) : Prop :=
  x.map lowerByte = y.map lowerByte

/-- Two values differ in nothing but the blanks at their ends. -/
def SameCore (x y : List UInt8) : Prop :=
  exists core before after before' after',
    (∀ c ∈ before ++ after ++ before' ++ after', isBlank c = true) ∧
    x = Utf8.encode before ++ core ++ Utf8.encode after ∧
    y = Utf8.encode before' ++ core ++ Utf8.encode after'

def word? (bytes : List UInt8) : Option (List Char) :=
  (String.fromUTF8? ⟨bytes.toArray⟩).map fun raw => lowerCase (trim raw.toList)

theorem word?_encode (s : List Char) : word? (Utf8.encode s) = some (lowerCase (trim s)) := by
  have htext : String.fromUTF8? ⟨(Utf8.encode s).toArray⟩ = some (String.ofList s) := by
    rw [Utf8.fromUTF8?_eq_some_iff, String.toList_ofList]
  rw [word?, htext, Option.map_some, String.toList_ofList]

theorem word?_of_not_isText {bytes : List UInt8} (h : ¬ Utf8.IsText bytes) :
    word? bytes = none := by
  rw [word?, Utf8.fromUTF8?_eq_none_iff.mpr h, Option.map_none]

theorem word?_of_sameCore {x y : List UInt8} (h : SameCore x y) : word? x = word? y := by
  rcases h with ⟨core, before, after, before', after', hblank, rfl, rfl⟩
  have hx : Utf8.IsText (Utf8.encode before ++ core ++ Utf8.encode after) ↔ Utf8.IsText core := by
    rw [Utf8.isText_append_encode_iff, Utf8.isText_encode_append_iff]
  have hy : Utf8.IsText (Utf8.encode before' ++ core ++ Utf8.encode after') ↔ Utf8.IsText core := by
    rw [Utf8.isText_append_encode_iff, Utf8.isText_encode_append_iff]
  by_cases hcore : Utf8.IsText core
  · rcases hcore with ⟨s, rfl⟩
    simp only [List.forall_mem_append] at hblank
    rcases hblank with ⟨⟨⟨hbefore, hafter⟩, hbefore'⟩, hafter'⟩
    rw [← Utf8.encode_append, ← Utf8.encode_append, ← Utf8.encode_append, ← Utf8.encode_append,
      word?_encode, word?_encode, trim_append_of_blank hbefore hafter,
      trim_append_of_blank hbefore' hafter']
  · rw [word?_of_not_isText (fun h => hcore (hx.mp h)),
      word?_of_not_isText (fun h => hcore (hy.mp h))]

theorem lowerByte_of_not_ascii {b : UInt8} (h : ¬ b < 0x80) : lowerByte b = b := by
  apply if_neg
  rintro ⟨_, hhigh⟩
  exact h (UInt8.lt_of_le_of_lt hhigh (by decide))

theorem lowerByte_lt_iff {b : UInt8} : lowerByte b < 0x80 ↔ b < 0x80 := by
  unfold lowerByte
  split
  · rename_i hupper
    have hlow : 65 ≤ b.toNat := hupper.1
    have hhigh : b.toNat ≤ 90 := hupper.2
    have hsum : (b + 0x20).toNat = b.toNat + 32 := by
      rw [UInt8.toNat_add]
      exact Nat.mod_eq_of_lt (by show b.toNat + 32 < 256; omega)
    rw [UInt8.lt_iff_toNat_lt, UInt8.lt_iff_toNat_lt, hsum]
    show b.toNat + 32 < 128 ↔ b.toNat < 128
    omega
  · rfl

theorem toLower_ofNat {n : Nat} (h : n < 128) :
    (Char.ofNat n).toLower = Char.ofNat (lowerByte (UInt8.ofNat n)).toNat := by
  have hall : ∀ n < 128, (Char.ofNat n).toLower =
      Char.ofNat (lowerByte (UInt8.ofNat n)).toNat := by decide
  exact hall n h

theorem toLower_ofByte {b : UInt8} (h : b < 0x80) :
    (Char.ofNat b.toNat).toLower = Char.ofNat (lowerByte b).toNat := by
  have hlower := toLower_ofNat (UInt8.lt_iff_toNat_lt.mp h)
  rw [UInt8.ofNat_toNat] at hlower
  exact hlower

theorem encode_ofByte {b : UInt8} (h : b < 0x80) :
    String.utf8EncodeChar (Char.ofNat b.toNat) = [b] := by
  have hlt : b.toNat < 128 := h
  have hvalue : (Char.ofNat b.toNat).val.toNat = b.toNat := by
    rw [Char.ofNat, dif_pos (Or.inl (by omega))]
    rfl
  rw [String.utf8EncodeChar, hvalue, if_pos (Nat.le_of_lt_succ hlt), UInt8.ofNat_toNat]

theorem not_ascii_of_le {low b : UInt8} (hlow : 0x80 ≤ low) (h : low ≤ b) : ¬ b < 0x80 := by
  intro hascii
  exact UInt8.lt_irrefl _ (UInt8.lt_of_lt_of_le hascii (UInt8.le_trans hlow h))

theorem map_lowerByte_of_not_ascii {bytes : List UInt8} (h : ∀ b ∈ bytes, ¬ b < 0x80) :
    bytes.map lowerByte = bytes := by
  rw [List.map_congr_left fun b hb => lowerByte_of_not_ascii (h b hb), List.map_id']

theorem exists_text_of_sameLetters {s : List Char} {y : List UInt8}
    (h : SameLetters (Utf8.encode s) y) :
    exists t, y = Utf8.encode t ∧ lowerCase t = lowerCase s := by
  unfold SameLetters at h
  induction s generalizing y with
  | nil =>
      exists []
      exact ⟨List.map_eq_nil_iff.mp h.symm, rfl⟩
  | cons c s ih =>
      rw [Utf8.encode_cons, List.map_append] at h
      rcases List.map_eq_append_iff.mp h.symm with ⟨front, rest, rfl, hfront, hrest⟩
      rcases ih hrest.symm with ⟨t, rfl, ht⟩
      -- A letter is the only byte of its character, so a longer character is left as it is.
      rcases Utf8.utf8EncodeChar_cases c with ⟨b, hb, rfl, _⟩ | ⟨first, more, hbytes, hfirst, hmore⟩
      · rw [encode_ofByte hb, List.map_singleton] at hfront
        rcases List.map_eq_singleton_iff.mp hfront with ⟨b', rfl, hsame⟩
        have hb' : b' < 0x80 := by
          rw [← lowerByte_lt_iff, hsame, lowerByte_lt_iff]
          exact hb
        exists Char.ofNat b'.toNat :: t
        constructor
        · rw [Utf8.encode_cons, encode_ofByte hb']
        · rw [lowerCase_cons, lowerCase_cons, toLower_ofByte hb', toLower_ofByte hb, hsame, ht]
      · have hmany : ∀ b ∈ String.utf8EncodeChar c, ¬ b < 0x80 := by
          rw [hbytes, List.forall_mem_cons]
          exact ⟨not_ascii_of_le (by decide) hfirst,
            fun b hb => not_ascii_of_le (by decide) (hmore b hb).1⟩
        rw [map_lowerByte_of_not_ascii hmany] at hfront
        have hfront' : ∀ b ∈ front, ¬ b < 0x80 := by
          intro b hb hascii
          have hlower : lowerByte b ∈ String.utf8EncodeChar c := by
            rw [← hfront]
            exact List.mem_map_of_mem hb
          exact hmany _ hlower (lowerByte_lt_iff.mpr hascii)
        rw [map_lowerByte_of_not_ascii hfront'] at hfront
        exists c :: t
        constructor
        · rw [Utf8.encode_cons, hfront]
        · rw [lowerCase_cons, lowerCase_cons, ht]

theorem word?_of_sameLetters {x y : List UInt8} (h : SameLetters x y) : word? x = word? y := by
  by_cases hx : Utf8.IsText x
  · rcases hx with ⟨s, rfl⟩
    rcases exists_text_of_sameLetters h with ⟨t, rfl, hsame⟩
    rw [word?_encode, word?_encode, ← trim_lowerCase, ← trim_lowerCase, hsame]
  · have hy : ¬ Utf8.IsText y := by
      rintro ⟨t, rfl⟩
      rcases exists_text_of_sameLetters h.symm with ⟨s, rfl, _⟩
      exact hx ⟨s, rfl⟩
    rw [word?_of_not_isText hx, word?_of_not_isText hy]

end AsyncLog.Text
