import Montage.CommandLine.Value
import Montage.Output.Style
import Montage.Preview.Player

/-!
The commands and options that there are, and the help that tells of them. The program goes by the
name under which it was started.
-/

namespace Montage.CommandLine

/-- An option with a value. -/
structure OptionInfo where
  name : String
  /-- Whether a text can be its value. -/
  accepts : String → Bool
  required : Bool := false
  about : String := ""
  default : Option String := none

namespace OptionInfo

/-- The name of the value: the name of the option in capitals. -/
def placeholder (o : OptionInfo) : String :=
  o.name.map fun c => if c = '-' then '_' else c.toUpper

def pattern (o : OptionInfo) : String := s!"--{o.name} <{o.placeholder}>"

def remark (o : OptionInfo) : String :=
  match o.default with
  | none => o.about
  | some text => (if o.about.isEmpty then "" else o.about ++ " ") ++ s!"[default: {text}]"

def path (name about : String) (required : Bool) : OptionInfo :=
  { name, about, required, accepts := fun text => (path? text).isSome }

def frame (name about : String) (default : Option Frame) : OptionInfo :=
  { name, about, required := default.isNone, default := default.map fun f => s!"{f}"
    accepts := fun text => (word64? text).isSome }

def pixels (name : String) (default : UInt32) : OptionInfo :=
  { name, default := some s!"{default}", accepts := fun text => (word32? text).isSome }

def number (name about : String) (default : Float) : OptionInfo :=
  { name, about, default := some default.plainText, accepts := fun text => (double? text).isSome }

end OptionInfo

/-- What help may be asked on. -/
inductive Topic where
  | program
  | play
  | inspect
  | exportSubmission

namespace Topic

def name : Topic → String
  | program => "help"
  | play => "play"
  | inspect => "inspect"
  | exportSubmission => "export"

def about : Topic → String
  | program => "Print this message or the help of the given subcommand(s)"
  | play => "Play a timeline in real time and report what the preview did"
  | inspect => "Print the active clips and their styles at one frame"
  | exportSubmission => "Write the render submission for a timeline as JSON"

def timeline : OptionInfo := .path "timeline" "Timeline file" true

def options : Topic → List OptionInfo
  | program => []
  | play =>
    let standard : PlayOptions := {}
    [timeline, .path "config" "Preview configuration JSON" false,
      .number "seconds" "Wall-clock seconds to play for" standard.seconds,
      .number "rate" "Playback rate" standard.rate,
      .frame "start" "Frame to start from" (some standard.start),
      .number "refresh-hz" "Host display refresh rate in Hz" standard.refreshHz]
  | inspect =>
    [timeline, .frame "frame" "Frame to inspect" none,
      .frame "horizon" "Preload horizon in frames" (some 60),
      .pixels "width" Viewport.standard.width, .pixels "height" Viewport.standard.height]
  | exportSubmission => [timeline, .path "out" "Output path; stdout when omitted" false]

def commands : List Topic := [play, inspect, exportSubmission]

def ofName? (name : String) : Option Topic := commands.find? (·.name == name)

end Topic

namespace Usage

def version : String := "0.1.0"

/-- Entries under each other, with what is said of them in a column of its own. -/
def column (entries : List (String × String)) : List String :=
  let width := (entries.map (·.1.length)).foldl max 0
  entries.map fun (entry, remark) =>
    "  " ++ entry.pushn ' ' (width - entry.length) ++ "  " ++ remark

section
variable (program : String)

def versionText : String := s!"{program} {version}"

def usageLine : Topic → String
  | .program => s!"Usage: {program} <COMMAND>"
  | t => " ".intercalate (s!"Usage: {program} {t.name} [OPTIONS]"
      :: (t.options.filter (·.required)).map (·.pattern))

def programHelp : List String :=
  usageLine program .program :: "" :: "Commands:"
    :: column ((Topic.commands ++ [Topic.program]).map fun t => (t.name, t.about))
    ++ ["", "Options:"]
    ++ column [("-h, --help", "Print help"), ("-V, --version", "Print version")]

def commandHelp (t : Topic) : List String :=
  t.about :: "" :: usageLine program t :: "" :: "Options:"
    :: column (t.options.map (fun o => ("    " ++ o.pattern, o.remark))
      ++ [("-h, --help", "Print help")])

def help : Topic → List String
  | .program => programHelp program
  | t => commandHelp program t

end

end Usage

end Montage.CommandLine
