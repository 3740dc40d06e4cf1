import ChangeRouting.Text.HiddenTable
import ChangeRouting.Text.Range

/-!
# ChangeRouting.Text.Quote

Texts in quotes, as descriptions of services and scopes show them to operators.

Quotes, backslashes and every character that a reader would not see are escaped, so a description stays
on one line and shows where each name begins and ends and what it is made of.
-/

namespace ChangeRouting.Text

/-- The digits of a number in base sixteen. -/
private def hexText (n : Nat) : String := String.ofList (Nat.toDigits 16 n)

/-- Whether a reader would not see a character for what it is. -/
def isHidden (c : Char) : Bool :=
  c.toNat < 32 || c.toNat = 127 || (128 ≤ c.toNat && inRanges hiddenRanges c)

/-- One character of a quoted text. -/
def quoteChar (c : Char) : String :=
  if c = '"' then "\\\""
  else if c = '\\' then "\\\\"
  else if c = '\n' then "\\n"
  else if c = '\r' then "\\r"
  else if c = '\t' then "\\t"
  else if c = '\x00' then "\\0"
  else if isHidden c then "\\u" ++ "\x7b" ++ hexText c.toNat ++ "\x7d"
  else c.toString

/-- A text in quotes. -/
def quoted (s : String) : String := "\"" ++ String.join (s.toList.map quoteChar) ++ "\""

/-- Texts in quotes, in brackets. -/
def quotedList (names : List String) : String := "[" ++ ", ".intercalate (names.map quoted) ++ "]"

end ChangeRouting.Text
