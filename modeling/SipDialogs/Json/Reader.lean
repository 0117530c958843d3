-- SUMMARY: Reading JSON texts.
import SipDialogs.Value
import SipDialogs.Text.Decimal
import SipDialogs.Text.Radix

/-! # Reading JSON

A reader takes a list of characters and returns a value with what follows it. The fuel of the
reader is the length of the text, which bounds its nesting and the length of its containers. A
name that stands twice in a map keeps its last value. -/

namespace SipDialogs.Json

def isBlank (c : Char) : Bool := c == ' ' || c == '\t' || c == '\n' || c == '\r'

def skipBlanks (cs : List Char) : List Char := cs.dropWhile isBlank

/-- The character after `\u`, which may take a second escape. -/
def unicodeEscape? (cs : List Char) : Option (Char × List Char) := do
  let (high, rest) ← Text.digitsIn? 16 4 0 cs
  if 0xD800 ≤ high ∧ high < 0xDC00 then
    match rest with
    | '\\' :: 'u' :: rest =>
      let (low, rest) ← Text.digitsIn? 16 4 0 rest
      if 0xDC00 ≤ low ∧ low < 0xE000 then
        some (Char.ofNat (0x10000 + (high - 0xD800) * 0x400 + (low - 0xDC00)), rest)
      else none
    | _ => none
  else if 0xDC00 ≤ high ∧ high < 0xE000 then none
  else some (Char.ofNat high, rest)

def simpleEscape? : Char → Option Char
  | '"' => some '"'
  | '\\' => some '\\'
  | '/' => some '/'
  | 'b' => some '\x08'
  | 'f' => some '\x0c'
  | 'n' => some '\n'
  | 'r' => some '\r'
  | 't' => some '\t'
  | _ => none

/-- The characters of a string up to its closing quote; `acc` holds the earlier ones, last first. -/
def stringBody? : Nat → List Char → List Char → Option (String × List Char)
  | 0, _, _ => none
  | _ + 1, _, [] => none
  | _ + 1, acc, '"' :: cs => some (String.ofList acc.reverse, cs)
  | fuel + 1, acc, '\\' :: 'u' :: cs => do
    let (c, rest) ← unicodeEscape? cs
    stringBody? fuel (c :: acc) rest
  | fuel + 1, acc, '\\' :: e :: cs => do
    let c ← simpleEscape? e
    stringBody? fuel (c :: acc) cs
  | fuel + 1, acc, c :: cs => if c.toNat < 0x20 then none else stringBody? fuel (c :: acc) cs

/-- Integers of 64 bits, signed or unsigned, are exact; any other number keeps its text. -/
def number (negative isInteger : Bool) (text : List Char) : Value :=
  let written := Value.real (String.ofList text)
  if isInteger then
    match Text.digits? (if negative then text.drop 1 else text) with
    | some n =>
      if negative then
        if n = 0 ∨ -(n : Int) < Value.least64 then written else .int (-(n : Int))
      else if n < UInt64.size then .int n else written
    | none => written
  else written

/-- Splits the digits off the front. -/
def takeDigits (cs : List Char) : List Char × List Char := cs.span Char.isDigit

def number? (cs : List Char) : Option (Value × List Char) := do
  let (sign, cs) := match cs with
    | '-' :: cs => (['-'], cs)
    | cs => ([], cs)
  let (whole, cs) := takeDigits cs
  if whole.isEmpty || (whole.head? == some '0' && whole.length > 1) then none
  else do
    let (fraction, cs) ← match cs with
      | '.' :: cs =>
        let (digits, cs) := takeDigits cs
        if digits.isEmpty then none else some ('.' :: digits, cs)
      | cs => some ([], cs)
    let (exponent, cs) ← match cs with
      | e :: cs =>
        if e == 'e' || e == 'E' then
          let (mark, cs) := match cs with
            | '+' :: cs => (['+'], cs)
            | '-' :: cs => (['-'], cs)
            | cs => ([], cs)
          let (digits, cs) := takeDigits cs
          if digits.isEmpty then none else some (e :: mark ++ digits, cs)
        else some ([], e :: cs)
      | [] => some ([], [])
    return (number (!sign.isEmpty) (fraction.isEmpty && exponent.isEmpty)
      (sign ++ whole ++ fraction ++ exponent), cs)

mutual

def value? : Nat → List Char → Option (Value × List Char)
  | 0, _ => none
  | fuel + 1, cs =>
    match skipBlanks cs with
    | 'n' :: 'u' :: 'l' :: 'l' :: cs => some (.null, cs)
    | 't' :: 'r' :: 'u' :: 'e' :: cs => some (.bool true, cs)
    | 'f' :: 'a' :: 'l' :: 's' :: 'e' :: cs => some (.bool false, cs)
    | '"' :: cs => (stringBody? (cs.length + 1) [] cs).map fun r => (.text r.1, r.2)
    | '[' :: cs =>
      match skipBlanks cs with
      | ']' :: cs => some (.list [], cs)
      | cs => items? fuel [] cs
    | '{' :: cs =>
      match skipBlanks cs with
      | '}' :: cs => some (.map [], cs)
      | cs => entries? fuel [] cs
    | cs => number? cs

/-- The items of a list up to its closing bracket. -/
def items? : Nat → List Value → List Char → Option (Value × List Char)
  | 0, _, _ => none
  | fuel + 1, acc, cs => do
    let (v, cs) ← value? fuel cs
    match skipBlanks cs with
    | ',' :: cs => items? fuel (v :: acc) cs
    | ']' :: cs => some (.list (v :: acc).reverse, cs)
    | _ => none

/-- The entries of a map up to its closing brace. -/
def entries? : Nat → Entries → List Char → Option (Value × List Char)
  | 0, _, _ => none
  | fuel + 1, acc, cs =>
    match skipBlanks cs with
    | '"' :: cs => do
      let (name, cs) ← stringBody? (cs.length + 1) [] cs
      match skipBlanks cs with
      | ':' :: cs => do
        let (v, cs) ← value? fuel cs
        let acc := Entries.insert name v acc
        match skipBlanks cs with
        | ',' :: cs => entries? fuel acc cs
        | '}' :: cs => some (.map acc, cs)
        | _ => none
      | _ => none
    | _ => none

end

/-- The value a text holds, if it holds just one. -/
def read? (s : String) : Option Value :=
  let cs := s.toList
  match value? (2 * cs.length + 2) cs with
  | some (v, rest) => if (skipBlanks rest).isEmpty then some v else none
  | none => none

end SipDialogs.Json
