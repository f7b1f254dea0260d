import AsyncLog.Text.Numeral
/-!
# The grammar of numerals

A numeral is an optional plus sign and decimal digits, at least one, that are worth
less than the limit.  Exactly the numerals are read, each as what its digits are
worth.
-/

namespace AsyncLog.Text

/-- A text is a numeral worth `n`, below a limit. -/
def IsNumeral (limit n : Nat) (text : List Char) : Prop :=
  exists digits, (text = digits ∨ text = '+' :: digits) ∧ digits ≠ [] ∧
    (∀ c ∈ digits, c.isDigit = true) ∧ Nat.ofDigitChars 10 digits 0 = n ∧ n < limit

theorem le_ofDigitChars (digits : List Char) (value : Nat) :
    value ≤ Nat.ofDigitChars 10 digits value := by
  induction digits generalizing value with
  | nil => exact Nat.le_refl value
  | cons c rest ih =>
      rw [Nat.ofDigitChars_cons]
      calc value
        _ ≤ 10 * value + (c.toNat - '0'.toNat) := by omega
        _ ≤ Nat.ofDigitChars 10 rest (10 * value + (c.toNat - '0'.toNat)) := ih _

theorem readDigits_eq_ok_iff {limit value n : Nat} {s : List Char} (hvalue : value < limit) :
    readDigits limit value s = .ok n ↔
      (∀ c ∈ s, c.isDigit = true) ∧ Nat.ofDigitChars 10 s value = n ∧ n < limit := by
  induction s generalizing value with
  | nil =>
      simp only [readDigits, Except.ok.injEq, Nat.ofDigitChars_nil]
      constructor
      · rintro rfl
        exact ⟨List.forall_mem_nil _, rfl, hvalue⟩
      · intro h
        exact h.2.1
  | cons c rest ih =>
      rw [List.forall_mem_cons, Nat.ofDigitChars_cons, Nat.mul_comm 10]
      cases hdigit : c.isDigit with
      | false => simp [readDigits, digitValue?, hdigit]
      | true =>
          simp only [readDigits, digitValue?, hdigit, if_true, true_and]
          by_cases hroom : value * 10 + (c.toNat - '0'.toNat) < limit
          · rw [if_pos hroom]
            exact ih hroom
          · rw [if_neg hroom]
            have hlarge := le_ofDigitChars rest (value * 10 + (c.toNat - '0'.toNat))
            constructor
            · intro h
              cases h
            · rintro ⟨_, rfl, hlt⟩
              exact absurd (Nat.lt_of_le_of_lt hlarge hlt) hroom

def unsigned : List Char -> List Char
  | '+' :: rest => rest
  | text => text

theorem unsigned_of_isDigit {digits : List Char} (h : ∀ c ∈ digits, c.isDigit = true) :
    unsigned digits = digits := by
  unfold unsigned
  split
  · cases h '+' List.mem_cons_self
  · rfl

theorem readNumeral_eq_ok_iff_unsigned {limit n : Nat} {text : List Char} :
    readNumeral limit text = .ok n ↔
      unsigned text ≠ [] ∧ readDigits limit 0 (unsigned text) = .ok n := by
  unfold readNumeral
  split
  · simp [unsigned]
  · simp [unsigned]
  · rename_i rest hrest
    exact ⟨fun h => ⟨hrest, h⟩, fun h => h.2⟩
  · rename_i hempty _ hplus
    have hsame : unsigned text = text := by
      unfold unsigned
      split
      · exact absurd rfl (hplus _)
      · rfl
    rw [hsame]
    exact ⟨fun h => ⟨hempty, h⟩, fun h => h.2⟩

theorem readNumeral_eq_ok_iff {limit n : Nat} {text : List Char} (hlimit : 0 < limit) :
    readNumeral limit text = .ok n ↔ IsNumeral limit n text := by
  rw [readNumeral_eq_ok_iff_unsigned, readDigits_eq_ok_iff hlimit]
  constructor
  · rintro ⟨hsome, hnumeral⟩
    refine ⟨unsigned text, ?_, hsome, hnumeral⟩
    unfold unsigned
    split
    · exact Or.inr rfl
    · exact Or.inl rfl
  · rintro ⟨digits, htext, hsome, hdigits, hvalue⟩
    have hsame : unsigned text = digits := by
      rcases htext with rfl | rfl
      · exact unsigned_of_isDigit hdigits
      · rfl
    rw [hsame]
    exact ⟨hsome, hdigits, hvalue⟩

end AsyncLog.Text
