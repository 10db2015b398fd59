import Montage.Decimal.Numeral
import Montage.Hex
import Montage.Json.Basic

/-!
Writing JSON text, on one line or indented by two blanks a level. Floats are written with the
fewest digits that read back at their width; what is no number is written as `null`.
-/

namespace Montage.Json

/-- Doubles are written out from 1e-5 up to below 1e16. -/
def doubleNumeral : Numeral := ⟨some (-5, 15), ".0", "+"⟩

/-- Singles are written out from 1e-6 up to below 1e13. -/
def singleNumeral : Numeral := ⟨some (-6, 12), ".0", "+"⟩

def numberText (n : Numeral) (f : BinaryFormat) : Reading → String
  | .finite b => n.text f (.finite b)
  | _ => "null"

/-- How a character is written inside quotes. -/
def escape (c : Char) : List Char :=
  match c with
  | '"' => ['\\', '"']
  | '\\' => ['\\', '\\']
  | '\n' => ['\\', 'n']
  | '\r' => ['\\', 'r']
  | '\t' => ['\\', 't']
  | '\x08' => ['\\', 'b']
  | '\x0c' => ['\\', 'f']
  | c =>
    if c.toNat < 0x20 then '\\' :: 'u' :: Hex.digits 4 c.toNat else [c]

def quote (s : String) : String :=
  String.ofList ('"' :: (s.toList.flatMap escape ++ ['"']))

def leaf : Json → String
  | .null => "null"
  | .bool true => "true"
  | .bool false => "false"
  | .int n => if n < 0 then "-" ++ Numeral.digits n.natAbs else Numeral.digits n.natAbs
  | .double x => numberText doubleNumeral .double x.reading
  | .single x => numberText singleNumeral .single x.reading
  | .str s => quote s
  | .arr _ | .obj _ => ""

mutual

/-- The text on one line. -/
def compact : Json → String
  | .arr items => "[" ++ compactItems items ++ "]"
  | .obj members => "\x7b" ++ compactMembers members ++ "\x7d"
  | v => leaf v

def compactItems : List Json → String
  | [] => ""
  | [v] => compact v
  | v :: rest => compact v ++ "," ++ compactItems rest

def compactMembers : List (String × Json) → String
  | [] => ""
  | [(k, v)] => quote k ++ ":" ++ compact v
  | (k, v) :: rest => quote k ++ ":" ++ compact v ++ "," ++ compactMembers rest

end

/-- A line break and the blanks in front of a line of some level. -/
def lineBreak (level : Nat) : String := String.ofList ('\n' :: List.replicate (2 * level) ' ')

mutual

/-- The text with each item and each member on a line of its own. -/
def pretty (level : Nat) : Json → String
  | .arr [] => "[]"
  | .obj [] => "\x7b\x7d"
  | .arr items => "[" ++ prettyItems (level + 1) items ++ lineBreak level ++ "]"
  | .obj members => "\x7b" ++ prettyMembers (level + 1) members ++ lineBreak level ++ "\x7d"
  | v => leaf v

def prettyItems (level : Nat) : List Json → String
  | [] => ""
  | [v] => lineBreak level ++ pretty level v
  | v :: rest => lineBreak level ++ pretty level v ++ "," ++ prettyItems level rest

def prettyMembers (level : Nat) : List (String × Json) → String
  | [] => ""
  | [(k, v)] => lineBreak level ++ quote k ++ ": " ++ pretty level v
  | (k, v) :: rest =>
    lineBreak level ++ quote k ++ ": " ++ pretty level v ++ "," ++ prettyMembers level rest

end

end Montage.Json
