import Montage.CommandLine.Disk
import Montage.CommandLine.Inspection
import Montage.CommandLine.Outcome
import Montage.Timeline.Submission

/-!
Commands at work on a disk.
-/

namespace Montage.CommandLine

variable {m : Type → Type} [Monad m]

/-- A step of a command, which a failure ends. -/
abbrev Attempt (m : Type → Type) := ExceptT Failure m

def attempt {α : Type} (what : String) (step : m (Except DiskError α)) : Attempt m α := do
  match ← step with
  | .ok a => return a
  | .error e => throw (.told what [e.message])

def readTimeline (disk : Disk m) (path : String) : Attempt m Document := do
  let what := s!"load timeline '{path}'"
  match ← disk.read path with
  | .error e => throw (.ofError what (.file e.message))
  | .ok bytes =>
    match TimelineFile.parseBytes bytes with
    | .error e => throw (.ofError what e)
    | .ok file => return file.document

def readConfig (disk : Disk m) : Option String → Attempt m PreviewConfig
  | none => return {}
  | some path => do
    let what := s!"load config '{path}'"
    match ← disk.read path with
    | .error e => throw (.ofError what (.file e.message))
    | .ok bytes =>
      match PreviewConfig.parseBytes bytes with
      | .error e => throw (.ofPreviewError what e)
      | .ok config => return config

def inspect (disk : Disk m) (o : InspectOptions) : Attempt m Outcome := do
  let d ← readTimeline disk o.timeline
  match Inspection.lines d.snapshot o with
  | .error f => throw (.fault f)
  | .ok lines => return { code := 0, out := lines }

def writeSubmission (disk : Disk m) (s : Submission) (path : String) : Attempt m Outcome := do
  let directory := parentPath path
  if !directory.isEmpty then
    attempt s!"create output dir '{directory}'" (disk.makeDirectories directory)
  attempt s!"write submission '{path}'" (disk.write path s.text)
  return { code := 0, err := [s!"wrote {s.clips.length} clip(s) to {path}"] }

def exportSubmission (disk : Disk m) (o : ExportOptions) : Attempt m Outcome := do
  let d ← readTimeline disk o.timeline
  match Submission.ofSnapshot d.snapshot d.assetTable with
  | .error e => throw (.ofError "build render submission" e)
  | .ok s =>
    match o.out with
    | none => return { code := 0, out := [s.text] }
    | some path => writeSubmission disk s path

def play (disk : Disk m) (a : PlayArguments) : Attempt m Outcome := do
  if !decide (0.0 < a.options.seconds) then throw (.told "--seconds must be positive" [])
  if !decide (0.0 < a.options.refreshHz) then throw (.told "--refresh-hz must be positive" [])
  let d ← readTimeline disk a.timeline
  let config ← readConfig disk a.config
  match Player.play d config a.options with
  | .error (.core (.fault f)) => throw (.fault f)
  | .error e => throw (.told e.message [])
  | .ok player => return { code := 0, out := [player.stats.text] }

def Command.run (disk : Disk m) (program : String) : Command → Attempt m Outcome
  | .inspect o => CommandLine.inspect disk o
  | .exportSubmission o => CommandLine.exportSubmission disk o
  | .play a => CommandLine.play disk a
  | .help t => return { code := 0, out := Usage.help program t }
  | .version => return { code := 0, out := [Usage.versionText program] }

/-- Runs the command that arguments stand for. The program was started under the name `program`. -/
def run (disk : Disk m) (program : String) (args : List String) : m Outcome :=
  match Command.parse? args with
  | none => return { code := 2 }
  | some command => do
    match ← (command.run disk program).run with
    | .ok outcome => return outcome
    | .error failure => return failure.outcome

end Montage.CommandLine
