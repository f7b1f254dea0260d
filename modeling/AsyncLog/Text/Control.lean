import AsyncLog.Text.Quoted
/-!
# Controls that a terminal obeys

Shown on a terminal, some controls do something instead of being seen: they
move the cursor, ring the bell, or begin a command.  Text that others may have
chosen is logged with these controls spelled out by their numbers; all other
characters, line breaks and tabs among them, stand as they are.
-/

namespace AsyncLog.Text

/-- Escape, bell, backspace, form feed and delete, and the controls beyond ASCII. -/
def isTerminalControl (c : Char) : Bool :=
  c == '\x1b' || c == '\x07' || c == '\x08' || c == '\x0c' || c == '\x7f' ||
    (0x80 ≤ c.toNat && c.toNat ≤ 0x9F)

def spelledChar (c : Char) : List Char :=
  if !isTerminalControl c then [c]
  else if c.toNat < 0x80 then
    ['\\', 'x', Nat.digitChar (c.toNat / 16), Nat.digitChar (c.toNat % 16)]
  else numbered c

def spellControls (s : String) : String :=
  String.ofList (s.toList.flatMap spelledChar)

end AsyncLog.Text
