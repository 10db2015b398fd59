import Montage.Json.Record
import Montage.Scalar

/-!
Transitions at the head and the tail of a clip. A transition scales the opacity of its clip over a
window of frames, apart from anything the keyframes do.
-/

namespace Montage

inductive Direction where
  | left
  | right
  | up
  | down
  deriving DecidableEq

inductive TransitionKind where
  | fade
  | dissolve
  | dipToBlack
  | wipe (direction : Direction)
  | push (direction : Direction)
  deriving DecidableEq

/-- How opacity follows progress: all the way, or in one step halfway. -/
inductive TransitionFamily where
  | fade
  | wipe
  deriving DecidableEq

structure Transition where
  kind : TransitionKind
  /-- Length in frames. -/
  duration : Frame
  deriving DecidableEq

/-- The frames from `start` on, `duration` of them as far as there are so many. -/
structure ClipWindow where
  start : Frame
  duration : Frame
  deriving DecidableEq

namespace ClipWindow

/-- The first frame after the window. -/
def stop (w : ClipWindow) : Frame := w.start.addSat w.duration

def contains (w : ClipWindow) (frame : Frame) : Bool := w.start ≤ frame && frame < w.stop

end ClipWindow

def TransitionKind.family : TransitionKind → TransitionFamily
  | fade | dissolve | dipToBlack => .fade
  | wipe _ | push _ => .wipe

/-- The frames a transition has, from `first` up to `stop`. -/
structure TransitionWindow where
  first : Frame
  stop : Frame
  duration : Frame

namespace TransitionWindow

def contains (w : TransitionWindow) (frame : Frame) : Bool :=
  w.duration != 0 && w.first ≤ frame && frame < w.stop

/-- The part of the duration that has passed at a frame of the window. -/
def progress {α : Type} [Scalar α] (w : TransitionWindow) (frame : Frame) : α :=
  Scalar.ofFrame (frame - w.first) / Scalar.ofFrame w.duration

end TransitionWindow

namespace Transition

def headWindow (t : Transition) (w : ClipWindow) : TransitionWindow :=
  ⟨w.start, w.start.addSat t.duration, t.duration⟩

def tailWindow (t : Transition) (w : ClipWindow) : TransitionWindow :=
  ⟨w.stop.subSat t.duration, w.stop, t.duration⟩

section
variable {α : Type} [Scalar α]

/-- The factor for a clip that is seen to the part `visibility`. -/
def shape (t : Transition) (visibility : α) : α :=
  match t.kind.family with
  | .fade => visibility
  | .wipe => if (0.5 : α) ≤ visibility then 1.0 else 0.0

/-- Brings in the transition at the head of a clip. -/
def fadeIn (w : ClipWindow) (frame : Frame) (m : α) : Option Transition → α
  | none => m
  | some t =>
    let span := t.headWindow w
    if span.contains frame then m * t.shape (span.progress frame) else m

/-- Brings in the transition at the tail of a clip. -/
def fadeOut (w : ClipWindow) (frame : Frame) (m : α) : Option Transition → α
  | none => m
  | some t =>
    let span := t.tailWindow w
    if span.contains frame then m * t.shape (1.0 - span.progress frame) else m

/-- The factor of the opacity at a frame. Where both windows hold the frame the factors are
multiplied; where none does it is 1. -/
def multiplier (w : ClipWindow) (head tail : Option Transition) (frame : Frame) : α :=
  fadeOut w frame (fadeIn w frame 1.0 head) tail

end

/-- Whether a frame lies in the window of either transition. -/
def isRunning (w : ClipWindow) (head tail : Option Transition) (frame : Frame) : Bool :=
  head.any (fun t => (t.headWindow w).contains frame)
    || tail.any (fun t => (t.tailWindow w).contains frame)

end Transition

namespace Direction

def name : Direction → String
  | left => "left"
  | right => "right"
  | up => "up"
  | down => "down"

def ofName? : String → Option Direction
  | "left" => some left
  | "right" => some right
  | "up" => some up
  | "down" => some down
  | _ => none

def toJson (d : Direction) : Json := .str d.name

def ofJson? (v : Json) : Option Direction := v.choice?.bind ofName?

instance : Json.Codec Direction := ⟨toJson, ofJson?⟩

end Direction

namespace TransitionKind

/-- A kind with a direction is an object of one key. -/
def directed (name : String) (d : Direction) : Json :=
  .obj [(name, .obj [("direction", d.toJson)])]

def toJson : TransitionKind → Json
  | fade => .str "fade"
  | dissolve => .str "dissolve"
  | dipToBlack => .str "dipToBlack"
  | wipe d => directed "wipe" d
  | push d => directed "push" d

def direction? (o : Json.Origin) (v : Json) : Option Direction := do
  let r ← Json.Record.ofJson? ["direction"] v
  if r.positional && o == .tree then none
  r.required "direction" Direction.ofJson?

def ofJson? (o : Json.Origin) (v : Json) : Option TransitionKind :=
  match v with
  | .obj [("wipe", data)] => (direction? o data).map wipe
  | .obj [("push", data)] => (direction? o data).map push
  | _ =>
    match v.choice? with
    | some "fade" => some fade
    | some "dissolve" => some dissolve
    | some "dipToBlack" => some dipToBlack
    | _ => none

instance : Json.Codec TransitionKind := ⟨toJson, ofJson? .text⟩

end TransitionKind

def Transition.toJson (t : Transition) : Json :=
  .obj [("kind", t.kind.toJson), ("duration", .ofFrame t.duration)]

def Transition.ofJson? (o : Json.Origin) (v : Json) : Option Transition := do
  let r ← Json.Record.ofJson? ["kind", "duration"] v
  return {
    kind := ← r.required "kind" (TransitionKind.ofJson? o)
    duration := ← r.required "duration" Json.word64? }

instance : Json.Codec Transition := ⟨Transition.toJson, Transition.ofJson? .text⟩

def ClipWindow.toJson (w : ClipWindow) : Json :=
  .obj [("start", .ofFrame w.start), ("duration", .ofFrame w.duration)]

def ClipWindow.ofJson? (v : Json) : Option ClipWindow := do
  let r ← Json.Record.ofJson? ["start", "duration"] v
  return {
    start := ← r.required "start" Json.word64?
    duration := ← r.required "duration" Json.word64? }

instance : Json.Codec ClipWindow := ⟨ClipWindow.toJson, ClipWindow.ofJson?⟩

end Montage
