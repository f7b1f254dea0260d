import AsyncLog.Text.Printable
/-!
# Quoted text

Text between double quotes.  A backslash marks the quote, the backslash itself,
four controls that have a letter, and every character that cannot be shown,
which is written as its number in lower-case hexadecimal digits.
-/

namespace AsyncLog.Text

def hexDigits (n : Nat) : List Char :=
  Nat.toDigits 16 n

def numbered (c : Char) : List Char :=
  ['\\', 'u', '\x7b'] ++ hexDigits c.toNat ++ ['\x7d']

def quotedChar (c : Char) : List Char :=
  if c = '\x00' then ['\\', '0']
  else if c = '\t' then ['\\', 't']
  else if c = '\r' then ['\\', 'r']
  else if c = '\n' then ['\\', 'n']
  else if c = '\\' then ['\\', '\\']
  else if c = '"' then ['\\', '"']
  else if isPrintable c then [c]
  else numbered c

def quote (s : String) : String :=
  String.ofList ('"' :: s.toList.flatMap quotedChar ++ ['"'])

end AsyncLog.Text
