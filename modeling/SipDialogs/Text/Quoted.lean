-- SUMMARY: Texts and characters between quotes, as error messages show them.
import SipDialogs.Text.Hidden

/-! # Quoted texts

A message that repeats what a caller sent puts it between quotes. The quote in use, the backslash
and hidden characters are spelled out, so that the reader sees what was sent. -/

namespace SipDialogs.Text.Quoted

/-- A code point in lower-case hexadecimal, between braces after a backslash and a `u`. -/
def codePoint (c : Char) : List Char :=
  "\\u\x7b".toList ++ Nat.toDigits 16 c.toNat ++ "\x7d".toList

/-- How one character stands between two `quote` characters. -/
def encodeChar (quote c : Char) : List Char :=
  if c = '\x00' then "\\0".toList
  else if c = '\t' then "\\t".toList
  else if c = '\n' then "\\n".toList
  else if c = '\r' then "\\r".toList
  else if c = '\\' then "\\\\".toList
  else if c = quote then ['\\', quote]
  else if isHidden c then codePoint c
  else [c]

/-- A text between double quotes. -/
def text (s : String) : String :=
  String.ofList ('"' :: s.toList.flatMap (encodeChar '"') ++ ['"'])

/-- A character between single quotes. -/
def character (c : Char) : String :=
  String.ofList ('\'' :: encodeChar '\'' c ++ ['\''])

end SipDialogs.Text.Quoted
