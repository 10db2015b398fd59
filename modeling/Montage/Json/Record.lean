import Montage.Decimal.Binary
import Montage.Json.Codec

/-!
Reading typed values out of JSON. Each reader gives the value or nothing.

A record may be written as an object or as the array of its fields in their order. An object may
hold members of other names; a field that occurs twice is refused. An array may stop early only
before fields that have a default, and may not go on past the last field.
-/

namespace Montage.Json

def bool? : Json → Option Bool
  | .bool b => some b
  | _ => none

def string? : Json → Option String
  | .str s => some s
  | _ => none

def items? : Json → Option (List Json)
  | .arr items => some items
  | _ => none

/-- An integer from `lo` to `hi`. Floats are no integers, whole or not. -/
def intIn? (lo hi : Int) : Json → Option Int
  | .int n => if lo ≤ n ∧ n ≤ hi then some n else none
  | _ => none

def word64? (v : Json) : Option UInt64 :=
  (intIn? 0 18446744073709551615 v).map fun n => UInt64.ofNat n.toNat

def word32? (v : Json) : Option UInt32 :=
  (intIn? 0 4294967295 v).map fun n => UInt32.ofNat n.toNat

def int32? : Json → Option Int := intIn? (-2147483648) 2147483647

def int64? : Json → Option Int := intIn? (-9223372036854775808) 9223372036854775807

/-- Any number, as the nearest double. -/
def double? : Json → Option Float
  | .int n => some (Float.nearestInt n)
  | .double x => some x
  | .single x => some (Float.ofSingle x)
  | _ => none

/-- Any number, as the nearest single. -/
def single? : Json → Option Float32
  | .int n => some (Float32.nearestInt n)
  | .double x => some (Float32.ofDouble x)
  | .single x => some x
  | _ => none

/-- `null` or a value. -/
def orNull? {α : Type} (read : Json → Option α) : Json → Option (Option α)
  | .null => some none
  | v => (read v).map some

def list? {α : Type} (read : Json → Option α) (v : Json) : Option (List α) :=
  v.items?.bind (List.mapM read)

/-- The name of a choice without data: the name itself, or an object of that one key and `null`. -/
def choice? : Json → Option String
  | .str s => some s
  | .obj [(name, .null)] => some name
  | _ => none

/-- The fields of a record that were given. -/
structure Record where
  fields : List (String × Json)
  /-- The record was an array, in which a field left out is not the same as `null`. -/
  positional : Bool

namespace Record

/-- The members of one of the names, provided none of these occurs twice. -/
def ofMembers? (names : List String) (members : List (String × Json)) : Option Record :=
  let known := members.filter fun m => names.contains m.1
  if (known.map (·.1)).Nodup then some ⟨known, false⟩ else none

def ofItems? (names : List String) (items : List Json) : Option Record :=
  if items.length ≤ names.length then some ⟨names.zip items, true⟩ else none

def ofJson? (names : List String) : Json → Option Record
  | .obj members => ofMembers? names members
  | .arr items => ofItems? names items
  | _ => none

def find? (r : Record) (name : String) : Option Json := (r.fields.find? (·.1 == name)).map (·.2)

section
variable {α : Type}

def required (r : Record) (name : String) (read : Json → Option α) : Option α :=
  r.find? name >>= read

/-- A field that is left out of an object or `null` is absent. -/
def optional (r : Record) (name : String) (read : Json → Option α) : Option (Option α) :=
  match r.find? name with
  | none => if r.positional then none else some none
  | some v => orNull? read v

def withDefault (r : Record) (name : String) (default : α) (read : Json → Option α) : Option α :=
  match r.find? name with
  | none => some default
  | some v => read v

end

end Record

/-- An absent value is written as `null`. -/
def ofOption {α : Type} (write : α → Json) : Option α → Json
  | none => .null
  | some a => write a

def ofFrame (n : UInt64) : Json := .int n.toNat

def ofWord (n : UInt32) : Json := .int n.toNat

end Montage.Json
