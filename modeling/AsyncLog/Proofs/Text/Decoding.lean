import Mathlib.Tactic.IntervalCases
import AsyncLog.Entry
/-!
# Reading back the bytes of text

Decoding with replacement gives back every text from its bytes, also where broken
bytes stand before it.  So the bytes that decoding leaves as they are are exactly
the bytes of text, and an entry is the decoding of its bytes whether they are
text or not.
-/

namespace AsyncLog

namespace Text.Utf8

/-!
## One character
-/

def IsContinuation (b : UInt8) : Prop :=
  0x80 ≤ b ∧ b ≤ 0xBF

def continuation (n : Nat) : UInt8 :=
  UInt8.ofNat (n % 64 + 128)

theorem toNat_continuation (n : Nat) : (continuation n).toNat = n % 64 + 128 := by
  rw [continuation, UInt8.toNat_ofNat']
  omega

theorem isContinuation_continuation (n : Nat) : IsContinuation (continuation n) := by
  rw [IsContinuation, UInt8.le_iff_toNat_le, UInt8.le_iff_toNat_le, toNat_continuation]
  show 128 ≤ _ ∧ _ ≤ 191
  omega

theorem forall_isContinuation (ns : List Nat) : ∀ b ∈ ns.map continuation, IsContinuation b := by
  intro b hb
  rcases List.mem_map.mp hb with ⟨n, _, rfl⟩
  exact isContinuation_continuation n

theorem utf8EncodeChar_cases (c : Char) :
    (exists b : UInt8, b < 0x80 ∧ c = Char.ofNat b.toNat ∧ String.utf8EncodeChar c = [b]) ∨
      exists first more, String.utf8EncodeChar c = first :: more ∧ 0xC0 ≤ first ∧
        ∀ b ∈ more, IsContinuation b := by
  have hlead : forall {n : Nat}, 192 ≤ n -> n < 256 -> 0xC0 ≤ UInt8.ofNat n := by
    intro n hlow hhigh
    rw [UInt8.le_iff_toNat_le, UInt8.toNat_ofNat', Nat.mod_eq_of_lt hhigh]
    exact hlow
  rw [String.utf8EncodeChar]
  split
  · rename_i hone
    have hbyte : (UInt8.ofNat c.val.toNat).toNat = c.val.toNat := by
      rw [UInt8.toNat_ofNat']
      omega
    refine Or.inl ⟨_, ?_, ?_, rfl⟩
    · rw [UInt8.lt_iff_toNat_lt, hbyte]
      exact Nat.lt_succ_of_le hone
    · rw [hbyte]
      exact (Char.ofNat_toNat c).symm
  right
  split
  · exact ⟨_, _, rfl, hlead (by omega) (by omega), forall_isContinuation [c.val.toNat]⟩
  split
  · exact ⟨_, _, rfl, hlead (by omega) (by omega),
      forall_isContinuation [c.val.toNat / 64, c.val.toNat]⟩
  · exact ⟨_, _, rfl, hlead (by omega) (by omega),
      forall_isContinuation [c.val.toNat / 4096, c.val.toNat / 64, c.val.toNat]⟩

def extended (value : Nat) (ns : List Nat) : Nat :=
  ns.foldl (fun value n => value * 64 + n % 64) value

theorem decodeFrom_inside_last {lead : Lead} {n : Nat} (howed : lead.owed = 1)
    (hrange : lead.low ≤ continuation n ∧ continuation n ≤ lead.high) (rest : List UInt8) :
    decodeFrom (.inside lead) (continuation n :: rest) =
      Char.ofNat (extended lead.value [n]) :: decode rest := by
  have hbits : (continuation n).toNat % 64 = n % 64 := by
    rw [toNat_continuation]
    omega
  simp only [decodeFrom, step, if_pos hrange, if_pos howed, hbits]
  rfl

theorem decodeFrom_inside_more {lead : Lead} {n : Nat} (howed : lead.owed ≠ 1)
    (hrange : lead.low ≤ continuation n ∧ continuation n ≤ lead.high) (rest : List UInt8) :
    decodeFrom (.inside lead) (continuation n :: rest) =
      decodeFrom (.inside ⟨lead.owed - 1, 0x80, 0xBF, extended lead.value [n]⟩) rest := by
  have hbits : (continuation n).toNat % 64 = n % 64 := by
    rw [toNat_continuation]
    omega
  simp only [decodeFrom, step, if_pos hrange, if_neg howed, hbits]
  rfl

theorem decodeFrom_inside {lead : Lead} {n : Nat} (ns : List Nat)
    (howed : lead.owed = ns.length + 1)
    (hrange : lead.low ≤ continuation n ∧ continuation n ≤ lead.high) (rest : List UInt8) :
    decodeFrom (.inside lead) ((n :: ns).map continuation ++ rest) =
      Char.ofNat (extended lead.value (n :: ns)) :: decode rest := by
  induction ns generalizing lead n with
  | nil => exact decodeFrom_inside_last howed hrange rest
  | cons m ns ih =>
      have hmany : lead.owed ≠ 1 := by
        rw [howed, List.length_cons]
        omega
      rw [List.map_cons, List.cons_append, decodeFrom_inside_more hmany hrange]
      exact ih (by rw [howed]; rfl) (isContinuation_continuation m)

theorem lead?_of_ascii {b : UInt8} (h : b < 0x80) : lead? b = none := by
  have hlt : b.toNat < 128 := h
  simp only [lead?, UInt8.le_iff_toNat_le, ← UInt8.toNat_inj]
  simp only [UInt8.reduceToNat]
  repeat rw [if_neg (by omega)]

theorem decode_of_lead? {first : UInt8} {lead : Lead} {n : Nat} (ns : List Nat)
    (hlead : lead? first = some lead) (howed : lead.owed = ns.length + 1)
    (hrange : lead.low ≤ continuation n ∧ continuation n ≤ lead.high) (rest : List UInt8) :
    decode (first :: (n :: ns).map continuation ++ rest) =
      Char.ofNat (extended lead.value (n :: ns)) :: decode rest := by
  have hfirst : ¬ first < 0x80 := by
    intro hascii
    rw [lead?_of_ascii hascii] at hlead
    cases hlead
  have hstart : start first = ([], .inside lead) := by
    rw [start, if_neg hfirst, hlead]
  rw [← decodeFrom_inside ns howed hrange rest]
  simp only [decode, List.cons_append, decodeFrom, step, hstart, List.nil_append]

theorem lead?_two {u : Nat} (hlow : 2 ≤ u) (hhigh : u < 32) :
    lead? (UInt8.ofNat (u + 192)) = some ⟨1, 0x80, 0xBF, u⟩ := by
  interval_cases u <;> rfl

theorem lead?_three {u : Nat} (h : u < 16) :
    lead? (UInt8.ofNat (u + 224)) =
      some ⟨2, if u = 0 then 0xA0 else 0x80, if u = 13 then 0x9F else 0xBF, u⟩ := by
  interval_cases u <;> rfl

theorem lead?_four {u : Nat} (h : u < 5) :
    lead? (UInt8.ofNat (u + 240)) =
      some ⟨3, if u = 0 then 0x90 else 0x80, if u = 4 then 0x8F else 0xBF, u⟩ := by
  interval_cases u <;> rfl

theorem decode_char_two {v : Nat} (hlow : 127 < v) (hhigh : v ≤ 2047) (rest : List UInt8) :
    decode (UInt8.ofNat (v / 64 % 32 + 192) :: continuation v :: rest) =
      Char.ofNat v :: decode rest := by
  have hfirst : v / 64 % 32 = v / 64 := by omega
  have hvalue : extended (v / 64) [v] = v := Nat.div_add_mod' v 64
  have hchar := decode_of_lead? [] (lead?_two (u := v / 64) (by omega) (by omega)) rfl
    (isContinuation_continuation v) rest
  rw [hvalue] at hchar
  rw [hfirst]
  exact hchar

/-- What an overlong form or a surrogate would need is outside of the range that the first byte
sets to the second. -/
theorem decode_char_three {v : Nat} (hlow : 2047 < v) (hhigh : v ≤ 65535)
    (hvalid : v < 0xD800 ∨ 0xDFFF < v) (rest : List UInt8) :
    decode (UInt8.ofNat (v / 4096 % 16 + 224) :: continuation (v / 64) :: continuation v :: rest) =
      Char.ofNat v :: decode rest := by
  have hfirst : v / 4096 % 16 = v / 4096 := by omega
  have hvalue : extended (v / 4096) [v / 64, v] = v := by
    show (v / 4096 * 64 + v / 64 % 64) * 64 + v % 64 = v
    omega
  have hrange : (if v / 4096 = 0 then 0xA0 else 0x80) ≤ continuation (v / 64) ∧
      continuation (v / 64) ≤ (if v / 4096 = 13 then 0x9F else 0xBF) := by
    rw [UInt8.le_iff_toNat_le, UInt8.le_iff_toNat_le, toNat_continuation]
    split <;> split <;> simp <;> omega
  have hchar := decode_of_lead? [v] (lead?_three (u := v / 4096) (by omega)) rfl hrange rest
  rw [hvalue] at hchar
  rw [hfirst]
  exact hchar

theorem decode_char_four {v : Nat} (hlow : 65535 < v) (hhigh : v < 0x110000) (rest : List UInt8) :
    decode (UInt8.ofNat (v / 262144 % 8 + 240) :: continuation (v / 4096) ::
      continuation (v / 64) :: continuation v :: rest) = Char.ofNat v :: decode rest := by
  have hfirst : v / 262144 % 8 = v / 262144 := by omega
  have hvalue : extended (v / 262144) [v / 4096, v / 64, v] = v := by
    show ((v / 262144 * 64 + v / 4096 % 64) * 64 + v / 64 % 64) * 64 + v % 64 = v
    omega
  have hrange : (if v / 262144 = 0 then 0x90 else 0x80) ≤ continuation (v / 4096) ∧
      continuation (v / 4096) ≤ (if v / 262144 = 4 then 0x8F else 0xBF) := by
    rw [UInt8.le_iff_toNat_le, UInt8.le_iff_toNat_le, toNat_continuation]
    split <;> split <;> simp <;> omega
  have hchar := decode_of_lead? [v / 64, v] (lead?_four (u := v / 262144) (by omega)) rfl hrange
    rest
  rw [hvalue] at hchar
  rw [hfirst]
  exact hchar

theorem decode_char_append (c : Char) (rest : List UInt8) :
    decode (String.utf8EncodeChar c ++ rest) = c :: decode rest := by
  have hvalid : c.val.toNat < 0xD800 ∨ 0xDFFF < c.val.toNat ∧ c.val.toNat < 0x110000 := c.valid
  have hchar : Char.ofNat c.val.toNat = c := Char.ofNat_toNat c
  rw [String.utf8EncodeChar]
  by_cases hone : c.val.toNat ≤ 127
  · have hbyte : (UInt8.ofNat c.val.toNat).toNat = c.val.toNat := by
      rw [UInt8.toNat_ofNat']
      omega
    have hascii : UInt8.ofNat c.val.toNat < 0x80 := by
      rw [UInt8.lt_iff_toNat_lt, hbyte]
      exact Nat.lt_succ_of_le hone
    rw [if_pos hone, List.singleton_append, decode_ascii_cons hascii, hbyte, hchar]
  rw [if_neg hone]
  by_cases htwo : c.val.toNat ≤ 2047
  · rw [if_pos htwo]
    exact (decode_char_two (by omega) htwo rest).trans (by rw [hchar])
  rw [if_neg htwo]
  by_cases hthree : c.val.toNat ≤ 65535
  · rw [if_pos hthree]
    exact (decode_char_three (by omega) hthree (by omega) rest).trans (by rw [hchar])
  · rw [if_neg hthree]
    exact (decode_char_four (by omega) (by omega) rest).trans (by rw [hchar])

theorem decode_encode_append (s : List Char) (rest : List UInt8) :
    decode (encode s ++ rest) = s ++ decode rest := by
  induction s with
  | nil => rfl
  | cons c s ih => rw [encode_cons, List.append_assoc, decode_char_append, ih, List.cons_append]

theorem decode_encode (s : List Char) : decode (encode s) = s := by
  have h := decode_encode_append s []
  rwa [decode_nil, List.append_nil, List.append_nil] at h

/-!
## Text behind any bytes

The first byte of a character continues nothing, so characters are read as they
are even where the bytes before them break off inside another one.
-/

/-- Only continuation bytes are taken for the inside of a character. -/
def Place.IsBounded : Place -> Prop
  | .between => True
  | .inside lead => 0x80 ≤ lead.low ∧ lead.high ≤ 0xBF

theorem isBounded_of_lead? {b : UInt8} {lead : Lead} (h : lead? b = some lead) :
    (Place.inside lead).IsBounded := by
  unfold lead? at h
  repeat' split at h
  all_goals cases h <;> simp [Place.IsBounded]

theorem isBounded_start (b : UInt8) : (start b).2.IsBounded := by
  unfold start
  split
  · trivial
  · cases hlead : lead? b with
    | none => trivial
    | some lead => exact isBounded_of_lead? hlead

theorem isBounded_step (place : Place) (b : UInt8) : (step place b).2.IsBounded := by
  cases place with
  | between => exact isBounded_start b
  | inside lead =>
      unfold step
      dsimp only
      split
      · split
        · trivial
        · simp [Place.IsBounded]
      · exact isBounded_start b

theorem decodeFrom_cons (place : Place) (b : UInt8) (rest : List UInt8) :
    decodeFrom place (b :: rest) = (step place b).1 ++ decodeFrom (step place b).2 rest := by
  cases place <;> rfl

theorem exists_first (c : Char) : exists b more,
    String.utf8EncodeChar c = b :: more ∧ ¬ IsContinuation b := by
  rcases utf8EncodeChar_cases c with ⟨b, hb, _, hbytes⟩ | ⟨first, more, hbytes, hfirst, _⟩
  · refine ⟨b, [], hbytes, ?_⟩
    intro h
    exact UInt8.lt_irrefl _ (UInt8.lt_of_lt_of_le hb h.1)
  · refine ⟨first, more, hbytes, ?_⟩
    intro h
    exact absurd (UInt8.le_trans hfirst h.2) (by decide)

theorem decodeFrom_encode {place : Place} (h : place.IsBounded) (s : List Char) :
    decodeFrom place (encode s) = decodeFrom place [] ++ s := by
  cases place with
  | between => exact decode_encode s
  | inside lead =>
      cases s with
      | nil => rfl
      | cons c rest =>
          -- The byte that breaks off the character before is read again as a first byte.
          rcases exists_first c with ⟨b, more, hbytes, hfirst⟩
          have hbroken : ¬ (lead.low ≤ b ∧ b ≤ lead.high) := by
            rintro ⟨hlow, hhigh⟩
            exact hfirst ⟨UInt8.le_trans h.1 hlow, UInt8.le_trans hhigh h.2⟩
          have hread := decode_encode (c :: rest)
          rw [encode_cons, hbytes, List.cons_append, decode, decodeFrom_cons] at hread
          rw [encode_cons, hbytes, List.cons_append, decodeFrom_cons, step, if_neg hbroken]
          exact congrArg (List.cons replacement) hread

theorem decodeFrom_append_encode {place : Place} (h : place.IsBounded) (bytes : List UInt8)
    (s : List Char) : decodeFrom place (bytes ++ encode s) = decodeFrom place bytes ++ s := by
  induction bytes generalizing place with
  | nil => exact decodeFrom_encode h s
  | cons b rest ih =>
      rw [List.cons_append, decodeFrom_cons, decodeFrom_cons, ih (isBounded_step place b),
        List.append_assoc]

theorem decode_append_encode (bytes : List UInt8) (s : List Char) :
    decode (bytes ++ encode s) = decode bytes ++ s :=
  decodeFrom_append_encode (show Place.IsBounded .between from trivial) bytes s

/-!
## Bytes that are text
-/

theorem encode_toList (s : String) : encode s.toList = s.toUTF8.data.toList := by
  rw [String.toUTF8, ← String.utf8Encode_toList, List.utf8Encode, List.toList_data_toByteArray,
    encode]

theorem fromUTF8?_eq_some_iff {bytes : List UInt8} {s : String} :
    String.fromUTF8? ⟨bytes.toArray⟩ = some s ↔ bytes = encode s.toList := by
  have hbytes : (⟨bytes.toArray⟩ : ByteArray) = s.toUTF8 ↔ bytes = encode s.toList := by
    rw [encode_toList, ByteArray.ext_iff]
    constructor
    · intro h
      rw [← h]
    · intro h
      simp [h]
  rw [← hbytes, String.fromUTF8?]
  split
  · rw [Option.some.injEq, ← String.toByteArray_inj]
    rfl
  · rename_i hinvalid
    constructor
    · intro h
      cases h
    · intro h
      exact absurd (h ▸ s.isValidUTF8) hinvalid

def IsText (bytes : List UInt8) : Prop :=
  exists s : List Char, bytes = encode s

theorem isText_iff {bytes : List UInt8} : IsText bytes ↔ encode (decode bytes) = bytes := by
  constructor
  · rintro ⟨s, rfl⟩
    rw [decode_encode]
  · intro h
    exact ⟨decode bytes, h.symm⟩

theorem isText_encode_append_iff (s : List Char) {bytes : List UInt8} :
    IsText (encode s ++ bytes) ↔ IsText bytes := by
  rw [isText_iff, isText_iff, decode_encode_append, encode_append, List.append_cancel_left_eq]

theorem isText_append_encode_iff (s : List Char) {bytes : List UInt8} :
    IsText (bytes ++ encode s) ↔ IsText bytes := by
  rw [isText_iff, isText_iff, decode_append_encode, encode_append, List.append_cancel_right_eq]

theorem fromUTF8?_eq_none_iff {bytes : List UInt8} :
    String.fromUTF8? ⟨bytes.toArray⟩ = none ↔ ¬ IsText bytes := by
  rw [Option.eq_none_iff_forall_ne_some]
  constructor
  · rintro h ⟨s, hs⟩
    apply h (String.ofList s)
    rw [fromUTF8?_eq_some_iff, String.toList_ofList]
    exact hs
  · intro h s hs
    exact h ⟨s.toList, fromUTF8?_eq_some_iff.mp hs⟩

end Text.Utf8

namespace Entry

open Text.Utf8

theorem bytes_eq (e : Entry) : e.bytes = encode e.toList :=
  (encode_toList e).symm

theorem ofBytes_eq (bytes : List UInt8) : ofBytes bytes = String.ofList (decode bytes) := by
  rw [ofBytes]
  split
  · rename_i text htext
    rw [fromUTF8?_eq_some_iff] at htext
    rw [htext, decode_encode, String.ofList_toList]
  · rfl

/-- An entry has the bytes it was made of exactly if they were text. -/
theorem bytes_ofBytes_iff (bytes : List UInt8) : (ofBytes bytes).bytes = bytes ↔ IsText bytes := by
  rw [ofBytes_eq, bytes_eq, String.toList_ofList, isText_iff]

end Entry

end AsyncLog
