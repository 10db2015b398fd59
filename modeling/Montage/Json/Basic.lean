/-!
JSON values. An object keeps its members in order, repeated keys included; which of them counts is
for the reader of the object to say. A number knows whether it is an integer, and a float knows
its width, which decides how many digits it is written with.
-/

namespace Montage

inductive Json where
  | null
  | bool (b : Bool)
  | int (n : Int)
  | double (x : Float)
  | single (x : Float32)
  | str (s : String)
  | arr (items : List Json)
  | obj (members : List (String × Json))

/-- Where a value is read from: straight from text, or from a tree that was built before. In a tree
the data of a choice is an object; in text it may be the array of its fields. -/
inductive Json.Origin where
  | text
  | tree
  deriving DecidableEq

namespace Json

instance : Inhabited Json := ⟨.null⟩

/-- The member of a key; of several the last one. -/
def member? (key : String) : Json → Option Json
  | .obj members => (members.reverse.find? (·.1 == key)).map (·.2)
  | _ => none

/-- Puts a member in place of all of its key, or at the end. -/
def put (members : List (String × Json)) (key : String) (v : Json) : List (String × Json) :=
  if members.any (·.1 == key) then members.map fun m => if m.1 == key then (key, v) else m
  else members ++ [(key, v)]

/-- Leaves out each member that a later one of the same key follows. -/
def dropEarlier : List (String × Json) → List (String × Json)
  | [] => []
  | m :: rest => if rest.any (·.1 == m.1) then dropEarlier rest else m :: dropEarlier rest

mutual

/-- The value with the last member of each key only, at every depth. -/
def lastWins : Json → Json
  | .arr items => .arr (lastWinsItems items)
  | .obj members => .obj (dropEarlier (lastWinsMembers members))
  | v => v

def lastWinsItems : List Json → List Json
  | [] => []
  | v :: rest => lastWins v :: lastWinsItems rest

def lastWinsMembers : List (String × Json) → List (String × Json)
  | [] => []
  | (k, v) :: rest => (k, lastWins v) :: lastWinsMembers rest

end

end Json

end Montage
