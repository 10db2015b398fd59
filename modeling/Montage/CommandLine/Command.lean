import Montage.CommandLine.Usage

/-!
Commands as they are written. An option is written as `--name value` or as `--name=value`, at most
once; a value that would look like an option has to be written in the second way.

Arguments are read from the front, and whoever asks for help gets it, unless there was something
wrong before.
-/

namespace Montage.CommandLine

structure InspectOptions where
  timeline : String
  frame : Frame
  horizon : Frame := 60
  viewport : Viewport := .standard

structure ExportOptions where
  timeline : String
  out : Option String := none

structure PlayArguments where
  timeline : String
  config : Option String := none
  options : PlayOptions := {}

inductive Command where
  | inspect (o : InspectOptions)
  | exportSubmission (o : ExportOptions)
  | play (a : PlayArguments)
  | help (t : Topic)
  | version

/-- Values of options by name, as they were given. -/
structure Given where
  values : List (String × String)

/-- Whether a text in place of a value is an option itself. -/
def looksLikeOption (text : String) : Bool := text.startsWith "-" && text != "-"

/-- The name of an option, and its value if that is part of the text. -/
def splitOption? (text : String) : Option (String × Option String) :=
  match text.toList with
  | '-' :: '-' :: rest =>
    let name := rest.takeWhile (· != '=')
    let value := match rest.drop name.length with
      | _ :: value => some (String.ofList value)
      | [] => none
    if name.isEmpty then none else some (String.ofList name, value)
  | _ => none

/-- Short options may be written together behind one dash; the first one decides. -/
def isShort (letter : Char) (text : String) : Bool := text.toList.take 2 == ['-', letter]

def asksForHelp (text : String) : Bool := text == "--help" || isShort 'h' text

def asksForVersion (text : String) : Bool := text == "--version" || isShort 'V' text

/-- What comes of reading the arguments of a command. -/
inductive Given.Reading where
  | given (g : Given)
  | help

namespace Given

/-- Notes an option that the command takes, unless it has been given before. -/
def note? (options : List OptionInfo) (given : Given) (name value : String) : Option Given :=
  if options.any (fun o => o.name == name && o.accepts value) && given.values.all (·.1 != name) then
    some ⟨given.values ++ [(name, value)]⟩
  else none

def read? (options : List OptionInfo) (given : Given) : List String → Option Reading
  | [] => some (.given given)
  | ["--"] => some (.given given)
  | arg :: rest =>
    if asksForHelp arg then some .help
    else
      match splitOption? arg with
      | none => none
      | some (name, some value) =>
        (note? options given name value).bind fun g => read? options g rest
      | some (name, none) =>
        match rest with
        | [] => none
        | value :: rest =>
          if looksLikeOption value then none
          else (note? options given name value).bind fun g => read? options g rest

section
variable {α : Type} (given : Given)

def find? (name : String) : Option String := (given.values.find? (·.1 == name)).map (·.2)

def required (name : String) (read : String → Option α) : Option α := given.find? name >>= read

def optional (name : String) (read : String → Option α) : Option (Option α) :=
  match given.find? name with
  | none => some none
  | some text => (read text).map some

def withDefault (name : String) (default : α) (read : String → Option α) : Option α :=
  match given.find? name with
  | none => some default
  | some text => read text

end

end Given

namespace Command

def inspect? (g : Given) : Option Command := do
  let standard := Viewport.standard
  return .inspect {
    timeline := ← g.required "timeline" path?
    frame := ← g.required "frame" word64?
    horizon := ← g.withDefault "horizon" 60 word64?
    viewport := {
      width := ← g.withDefault "width" standard.width word32?
      height := ← g.withDefault "height" standard.height word32? } }

def export? (g : Given) : Option Command := do
  return .exportSubmission {
    timeline := ← g.required "timeline" path?
    out := ← g.optional "out" path? }

def play? (g : Given) : Option Command := do
  let standard : PlayOptions := {}
  return .play {
    timeline := ← g.required "timeline" path?
    config := ← g.optional "config" path?
    options := {
      seconds := ← g.withDefault "seconds" standard.seconds double?
      rate := ← g.withDefault "rate" standard.rate double?
      start := ← g.withDefault "start" standard.start word64?
      refreshHz := ← g.withDefault "refresh-hz" standard.refreshHz double? } }

def ofGiven? (g : Given) : Topic → Option Command
  | .program => some (.help .program)
  | .play => play? g
  | .inspect => inspect? g
  | .exportSubmission => export? g

/-- The command of a name with its arguments. -/
def read? (t : Topic) (args : List String) : Option Command :=
  match Given.read? t.options ⟨[]⟩ args with
  | none => none
  | some .help => some (.help t)
  | some (.given g) => ofGiven? g t

/-- The command that arguments stand for, if they are in order. -/
def parse? : List String → Option Command
  | [] => none
  | ["help"] => some (.help .program)
  | ["help", name] => (Topic.ofName? name).map .help
  | name :: args =>
    if asksForHelp name then some (.help .program)
    else if asksForVersion name then some .version
    else (Topic.ofName? name).bind fun t => read? t args

end Command

end Montage.CommandLine
