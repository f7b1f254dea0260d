/-!
# Decoding UTF-8 with replacement

Bytes are read one at a time.  A sequence of bytes that cannot be continued to
a character, taken as long as it could still have become one, is replaced by
one replacement character; the byte that broke it off starts anew.
-/

namespace AsyncLog.Text.Utf8

def replacement : Char := '\uFFFD'

/-- What a first byte promises: continuation bytes to come, the range of the
first of them, and the value it contributes. -/
structure Lead where
  owed : Nat
  low : UInt8
  high : UInt8
  value : Nat

def lead? (b : UInt8) : Option Lead :=
  if 0xC2 ≤ b ∧ b ≤ 0xDF then some ⟨1, 0x80, 0xBF, b.toNat % 32⟩
  else if b = 0xE0 then some ⟨2, 0xA0, 0xBF, 0⟩
  else if b = 0xED then some ⟨2, 0x80, 0x9F, 13⟩
  else if 0xE1 ≤ b ∧ b ≤ 0xEF then some ⟨2, 0x80, 0xBF, b.toNat % 16⟩
  else if b = 0xF0 then some ⟨3, 0x90, 0xBF, 0⟩
  else if 0xF1 ≤ b ∧ b ≤ 0xF3 then some ⟨3, 0x80, 0xBF, b.toNat % 8⟩
  else if b = 0xF4 then some ⟨3, 0x80, 0x8F, 4⟩
  else none

/-- Where the reader stands: between two characters, or inside one. -/
inductive Place where
  | between
  | inside (lead : Lead)

def start (b : UInt8) : List Char × Place :=
  if b < 0x80 then ([Char.ofNat b.toNat], .between)
  else
    match lead? b with
    | some lead => ([], .inside lead)
    | none => ([replacement], .between)

/-- The characters given out on one byte, and the place after it. -/
def step : Place -> UInt8 -> List Char × Place
  | .between, b => start b
  | .inside lead, b =>
      if lead.low ≤ b ∧ b ≤ lead.high then
        let value := lead.value * 64 + b.toNat % 64
        if lead.owed = 1 then ([Char.ofNat value], .between)
        else ([], .inside ⟨lead.owed - 1, 0x80, 0xBF, value⟩)
      else
        (replacement :: (start b).1, (start b).2)

def decodeFrom : Place -> List UInt8 -> List Char
  | .between, [] => []
  | .inside _, [] => [replacement]
  | place, b :: rest => (step place b).1 ++ decodeFrom (step place b).2 rest

def decode (bytes : List UInt8) : List Char :=
  decodeFrom .between bytes

/-!
## The bytes of text
-/

def encode (s : List Char) : List UInt8 :=
  s.flatMap String.utf8EncodeChar

@[simp] theorem encode_nil : encode [] = [] := rfl

@[simp] theorem encode_cons (c : Char) (s : List Char) :
    encode (c :: s) = String.utf8EncodeChar c ++ encode s := by
  simp [encode]

@[simp] theorem encode_append (s t : List Char) : encode (s ++ t) = encode s ++ encode t := by
  simp [encode]

@[simp] theorem decode_nil : decode [] = [] := rfl

theorem decode_ascii_cons {b : UInt8} (h : b < 0x80) (rest : List UInt8) :
    decode (b :: rest) = Char.ofNat b.toNat :: decode rest := by
  simp [decode, decodeFrom, step, start, h]

end AsyncLog.Text.Utf8
