import RunTable.Text.Lowercase
import RunTable.Text.PrintTable

/-!
The quoted form of a text for a terminal: between double quotes, with the quote, the backslash and
whatever would not be seen as a character of its own written as an escape.
-/

namespace RunTable.Text

/-- The digits of a code point in base sixteen, letters in lower case. -/
def hexDigits (n : Nat) : List Char := Nat.toDigits 16 n

def quoteChar (c : Char) : List Char :=
  if c = '\x00' then ['\\', '0']
  else if c = '\t' then ['\\', 't']
  else if c = '\n' then ['\\', 'n']
  else if c = '\r' then ['\\', 'r']
  else if c = '"' || c = '\\' then ['\\', c]
  else if inRanges extendingRanges c || inRanges invisibleRanges c then
    '\\' :: 'u' :: '\x7b' :: hexDigits c.toNat ++ ['\x7d']
  else [c]

def quoted (s : String) : String :=
  String.ofList ('"' :: s.toList.flatMap quoteChar ++ ['"'])

end RunTable.Text
