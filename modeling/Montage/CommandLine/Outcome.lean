import Montage.Preview.Config

/-!
How a command ends: the lines it writes and its exit code.
-/

namespace Montage.CommandLine

structure Outcome where
  code : UInt32
  out : List String := []
  err : List String := []

inductive Failure where
  /-- What could not be done, and why: each cause explains the one before. -/
  | told (what : String) (causes : List String)
  | fault (f : Fault)

/-- The line breaks of a text, with blanks after each. -/
def indentBreaks (blanks : String) (text : String) : String :=
  ("\n" ++ blanks).intercalate (text.splitOn "\n")

/-- A single cause is set in; of several each has its number in front. -/
def causeLines : List String → List String
  | [] => []
  | [cause] => ["    " ++ indentBreaks "    " cause]
  | causes => causes.mapIdx fun n cause => s!"    {n}: " ++ indentBreaks "       " cause

namespace Failure

/-- An error of the file system is told twice: with its family, and as it is. -/
def ofError (what : String) : Error → Failure
  | .fault f => .fault f
  | .file reason => .told what [(Error.file reason).message, reason]
  | e => .told what [e.message]

def ofPreviewError (what : String) : PreviewError → Failure
  | .core e => ofError what e
  | e => .told what [e.message]

def outcome : Failure → Outcome
  | .told what causes =>
    let explained := if causes.isEmpty then [] else "" :: "Caused by:" :: causeLines causes
    { code := 1, err := ("Error: " ++ what) :: explained }
  | .fault _ => { code := 101 }

end Failure

end Montage.CommandLine
