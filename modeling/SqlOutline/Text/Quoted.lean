import SqlOutline.Text.Basic
import SqlOutline.Unicode.Visible

/-!
Texts as messages quote them: between double quotes, on one line, and free of characters that a
reader could not see.
-/

namespace SqlOutline.Text
open Unicode

/-- A character by its code point, in lower-case hexadecimal digits without padding. -/
def codePoint (c : Char) : Text :=
  "\\u\x7b".toList ++ Nat.toDigits 16 c.toNat ++ "\x7d".toList

/-- A character inside quotes. -/
def quotedChar (c : Char) : Text :=
  if c = '\x00' then ['\\', '0']
  else if c = '\t' then ['\\', 't']
  else if c = '\r' then ['\\', 'r']
  else if c = '\n' then ['\\', 'n']
  else if c = '"' || c = '\\' then ['\\', c]
  else if isExtender c || isHidden c then codePoint c
  else [c]

/-- `t` between double quotes. -/
def quoted (t : Text) : Text := '"' :: t.flatMap quotedChar ++ ['"']

end SqlOutline.Text
