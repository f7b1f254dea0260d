import AsyncLog.Text.Utf8
/-!
# Entries

An entry is a text that is written as it is, without a separator.  Events that
arrive in pieces of bytes become one entry when their writer is done with them.
-/

namespace AsyncLog

abbrev Entry := String

def Entry.bytes (e : Entry) : List UInt8 :=
  e.toUTF8.data.toList

/-- The entry that some bytes stand for: their text if they are UTF-8, and the
text with replacement characters if they are not. -/
def Entry.ofBytes (bytes : List UInt8) : Entry :=
  match String.fromUTF8? ⟨bytes.toArray⟩ with
  | some text => text
  | none => String.ofList (Text.Utf8.decode bytes)

/-- The bytes of one event, gathered piece by piece. -/
structure EntryBuffer where
  bytes : List UInt8 := []
  deriving DecidableEq, Repr

namespace EntryBuffer

def write (b : EntryBuffer) (piece : List UInt8) : EntryBuffer where
  bytes := b.bytes ++ piece

def flush (b : EntryBuffer) : EntryBuffer := b

def finish (b : EntryBuffer) : Option Entry :=
  if b.bytes.isEmpty then none else some (.ofBytes b.bytes)

@[simp] theorem bytes_write (b : EntryBuffer) (piece : List UInt8) :
    (b.write piece).bytes = b.bytes ++ piece := rfl

end EntryBuffer

end AsyncLog
