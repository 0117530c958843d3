-- SUMMARY: Writing JSON texts.
import SipDialogs.Value
import SipDialogs.Text.Decimal

/-! # Writing JSON

The text is compact. A string escapes the quote, the backslash and control characters only. -/

namespace SipDialogs.Json

def escapeChar (c : Char) : String :=
  if c = '"' then "\\\""
  else if c = '\\' then "\\\\"
  else if c.toNat < 0x20 then
    let digits := Nat.toDigits 16 c.toNat
    "\\u" ++ String.ofList (List.replicate (4 - digits.length) '0' ++ digits)
  else String.singleton c

def quote (s : String) : String :=
  "\"" ++ s.toList.foldl (fun out c => out ++ escapeChar c) "" ++ "\""

mutual

def write : Value → String
  | .null => "null"
  | .bool b => if b then "true" else "false"
  | .int n => toString n
  | .real s => s
  | .moment s => quote s
  | .text s => quote s
  | .list items => "[" ++ writeItems items ++ "]"
  | .map es => "\x7b" ++ writeEntries es ++ "\x7d"

def writeItems : List Value → String
  | [] => ""
  | [v] => write v
  | v :: vs => write v ++ "," ++ writeItems vs

def writeEntries : List (String × Value) → String
  | [] => ""
  | [(k, v)] => quote k ++ ":" ++ write v
  | (k, v) :: es => quote k ++ ":" ++ write v ++ "," ++ writeEntries es

end

end SipDialogs.Json
