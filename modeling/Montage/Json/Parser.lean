import Montage.Decimal.Reader
import Montage.Hex
import Montage.Json.Basic

/-!
Reading JSON text. The grammar is the strict one: no comments, no trailing commas, no leading
noughts, no lone surrogates, nothing after the value. Nesting is limited, and a number too large
for a double is no number.
-/

namespace Montage.Json

/-- How deep arrays and objects may nest. -/
def maxDepth : Nat := 127

/-- An integer in text: one that neither a signed nor an unsigned 64-bit word holds is a double,
and so is a negative nought. -/
def ofInteger (negative : Bool) (n : Nat) : Json :=
  if negative then
    if n = 0 then .double (-0.0)
    else if n ≤ 9223372036854775808 then .int (-n) else .double (Float.ofQuotient true n 1)
  else if n ≤ 18446744073709551615 then .int n else .double (Float.ofQuotient false n 1)

/-- The double nearest to `digits * 10 ^ exponent`, unless it is beyond the finite ones. -/
def ofDecimal? (negative : Bool) (digits : Nat) (exponent : Int) : Option Float :=
  let x := Float.ofDecimal negative ⟨digits, exponent⟩
  if x.isFinite then some x else none

namespace Parser

open Decimal (digitsValue takeDigits takeExponent)

def isBlank (c : Char) : Bool := c == ' ' || c == '\n' || c == '\t' || c == '\r'

def skipBlanks (cs : List Char) : List Char := cs.dropWhile isBlank

/-- The UTF-16 unit of four hexadecimal digits. -/
def unit? (a b c d : Char) : Option Nat := Hex.number? [a, b, c, d]

def isHighSurrogate (n : Nat) : Bool := 0xD800 ≤ n && n < 0xDC00

def isLowSurrogate (n : Nat) : Bool := 0xDC00 ≤ n && n < 0xE000

/-- The character of a pair of surrogates. -/
def ofSurrogates (high low : Nat) : Char :=
  Char.ofNat (0x10000 + (high - 0xD800) * 0x400 + (low - 0xDC00))

/-- What a letter after a backslash stands for. -/
def escaped? : Char → Option Char
  | '"' => some '"'
  | '\\' => some '\\'
  | '/' => some '/'
  | 'b' => some '\x08'
  | 'f' => some '\x0c'
  | 'n' => some '\n'
  | 'r' => some '\r'
  | 't' => some '\t'
  | _ => none

/-- The characters up to the closing quote, put in front of `seen`, and the rest. -/
def string (seen : List Char) : List Char → Option (String × List Char)
  | [] => none
  | '"' :: rest => some (String.ofList seen.reverse, rest)
  | '\\' :: 'u' :: a :: b :: c :: d :: rest =>
    match unit? a b c d with
    | none => none
    | some n =>
      if isLowSurrogate n then none
      else if isHighSurrogate n then
        match rest with
        | '\\' :: 'u' :: e :: f :: g :: h :: rest =>
          match unit? e f g h with
          | none => none
          | some m => if isLowSurrogate m then string (ofSurrogates n m :: seen) rest else none
        | _ => none
      else string (Char.ofNat n :: seen) rest
  | '\\' :: c :: rest =>
    match escaped? c with
    | none => none
    | some e => string (e :: seen) rest
  | c :: rest => if c.toNat < 0x20 || c == '\\' then none else string (c :: seen) rest

/-- The digits after a point, if there is one. -/
def fraction : List Char → Option (Option (List Char) × List Char)
  | '.' :: rest =>
    match takeDigits rest with
    | ([], _) => none
    | (ds, rest) => some (some ds, rest)
  | cs => some (none, cs)

def number (cs : List Char) : Option (Json × List Char) := do
  let (negative, cs) := match cs with
    | '-' :: rest => (true, rest)
    | cs => (false, cs)
  let (whole, rest) := takeDigits cs
  if whole.isEmpty || (whole.length > 1 && whole.head? == some '0') then none
  let (places, rest) ← fraction rest
  let (power, rest) ← takeExponent rest
  if places.isNone && power.isNone then
    return (ofInteger negative (digitsValue whole), rest)
  let places := places.getD []
  let x ← ofDecimal? negative (digitsValue (whole ++ places)) (power.getD 0 - places.length)
  return (.double x, rest)

mutual

/-- One value, with at most `depth` containers in one another. -/
def value (fuel depth : Nat) (cs : List Char) : Option (Json × List Char) :=
  match fuel with
  | 0 => none
  | fuel + 1 =>
    match skipBlanks cs with
    | '[' :: rest =>
      match depth, skipBlanks rest with
      | 0, _ => none
      | _, ']' :: rest => some (.arr [], rest)
      | depth + 1, rest => items fuel depth [] rest
    | '\x7b' :: rest =>
      match depth, skipBlanks rest with
      | 0, _ => none
      | _, '\x7d' :: rest => some (.obj [], rest)
      | depth + 1, rest => members fuel depth [] rest
    | '"' :: rest => (string [] rest).map fun (s, rest) => (.str s, rest)
    | 'n' :: 'u' :: 'l' :: 'l' :: rest => some (.null, rest)
    | 't' :: 'r' :: 'u' :: 'e' :: rest => some (.bool true, rest)
    | 'f' :: 'a' :: 'l' :: 's' :: 'e' :: rest => some (.bool false, rest)
    | cs => number cs

/-- The items of an array from one value on to the closing bracket. -/
def items (fuel depth : Nat) (seen : List Json) (cs : List Char) : Option (Json × List Char) :=
  match fuel with
  | 0 => none
  | fuel + 1 =>
    match value fuel depth cs with
    | none => none
    | some (v, rest) =>
      match skipBlanks rest with
      | ',' :: rest => items fuel depth (v :: seen) rest
      | ']' :: rest => some (.arr (v :: seen).reverse, rest)
      | _ => none

/-- The members of an object from one key on to the closing brace. -/
def members (fuel depth : Nat) (seen : List (String × Json)) (cs : List Char) :
    Option (Json × List Char) :=
  match fuel with
  | 0 => none
  | fuel + 1 =>
    match skipBlanks cs with
    | '"' :: rest =>
      match string [] rest with
      | none => none
      | some (key, rest) =>
        match skipBlanks rest with
        | ':' :: rest =>
          match value fuel depth rest with
          | none => none
          | some (v, rest) =>
            match skipBlanks rest with
            | ',' :: rest => members fuel depth ((key, v) :: seen) rest
            | '\x7d' :: rest => some (.obj ((key, v) :: seen).reverse, rest)
            | _ => none
        | _ => none
    | _ => none

end

end Parser

/-- Every level of nesting takes two calls and at least one character. -/
def parse? (text : String) : Option Json :=
  let cs := text.toList
  match Parser.value (2 * cs.length + 2) maxDepth cs with
  | some (v, rest) => if (Parser.skipBlanks rest).isEmpty then some v else none
  | none => none

def parseBytes? (bytes : ByteArray) : Option Json := String.fromUTF8? bytes >>= parse?

end Montage.Json
