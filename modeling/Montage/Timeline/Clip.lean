import Montage.Timeline.Id
import Montage.Visual.Keyframe
import Montage.Visual.Transition

/-!
Clips: pieces of assets placed on a track of the timeline.
-/

namespace Montage

structure Clip where
  id : ClipId
  track : TrackId
  asset : AssetId
  /-- The first frame on the timeline. -/
  start : Frame
  /-- Length on the timeline. -/
  duration : Frame
  /-- The source frame that the first frame shows. -/
  inPoint : Frame
  /-- The source frame the clip may play up to. -/
  outPoint : Frame
  transform : Transform Float32 := .identity
  /-- In order of their frames. -/
  keyframes : List (Keyframe Float32) := []
  transitionIn : Option Transition := none
  transitionOut : Option Transition := none
  /-- Place in the stack of the track; by default the order of the track. -/
  layer : Option Int := none

namespace Clip

/-- A clip that plays an asset from its start. -/
def place (id : ClipId) (track : TrackId) (asset : AssetId) (start duration : Frame) : Clip :=
  { id, track, asset, start, duration, inPoint := 0, outPoint := duration }

def setKeyframes (c : Clip) (keys : List (Keyframe Float32)) : Clip :=
  { c with keyframes := keys.mergeSort fun a b => a.frame ≤ b.frame }

def window (c : Clip) : ClipWindow := ⟨c.start, c.duration⟩

/-- The first frame after the clip. -/
def stop (c : Clip) : Frame := c.window.stop

def isActiveAt (c : Clip) (frame : Frame) : Bool := c.window.contains frame

/-- The source frame at a frame of the timeline, whether or not the trim allows it. -/
def sourceFrame (c : Clip) (frame : Frame) : Frame := c.inPoint.addSat (frame.subSat c.start)

def layerOn (c : Clip) (trackOrder : Int) : Int := c.layer.getD trackOrder

/-- What the keyframes give, without the transitions. -/
def transformAt (c : Clip) (frame : Frame) : Transform Float32 :=
  Keyframe.resolve c.transform c.keyframes frame

def opacityFactorAt (c : Clip) (frame : Frame) : Float32 :=
  Transition.multiplier c.window c.transitionIn c.transitionOut frame

/-- What is seen: the keyframes, then the transitions. -/
def visualAt (c : Clip) (frame : Frame) : Transform Float32 :=
  (c.transformAt frame).fade (c.opacityFactorAt frame)

/-- Whether keyframes or transitions may be changing the clip. -/
def isAnimatingAt (c : Clip) (frame : Frame) : Bool :=
  Keyframe.isAnimating c.keyframes frame
    || Transition.isRunning c.window c.transitionIn c.transitionOut frame

def toJson (c : Clip) : Json :=
  .obj [("id", c.id.toJson), ("track_id", c.track.toJson), ("asset_id", c.asset.toJson),
    ("start_frame", .ofFrame c.start), ("duration", .ofFrame c.duration),
    ("in_point", .ofFrame c.inPoint), ("out_point", .ofFrame c.outPoint),
    ("transform", c.transform.toJson), ("keyframes", .arr (c.keyframes.map Keyframe.toJson)),
    ("transition_in", Json.ofOption Transition.toJson c.transitionIn),
    ("transition_out", Json.ofOption Transition.toJson c.transitionOut),
    ("layer", Json.ofOption .int c.layer)]

def ofJson? (o : Json.Origin) (v : Json) : Option Clip := do
  let r ← Json.Record.ofJson? ["id", "track_id", "asset_id", "start_frame", "duration", "in_point",
    "out_point", "transform", "keyframes", "transition_in", "transition_out", "layer"] v
  return {
    id := ← r.required "id" ClipId.ofJson?
    track := ← r.required "track_id" TrackId.ofJson?
    asset := ← r.required "asset_id" AssetId.ofJson?
    start := ← r.required "start_frame" Json.word64?
    duration := ← r.required "duration" Json.word64?
    inPoint := ← r.required "in_point" Json.word64?
    outPoint := ← r.required "out_point" Json.word64?
    transform := ← r.withDefault "transform" .identity Transform.ofJson?
    keyframes := ← r.withDefault "keyframes" [] (Json.list? Keyframe.ofJson?)
    transitionIn := ← r.withDefault "transition_in" none (Json.orNull? (Transition.ofJson? o))
    transitionOut := ← r.withDefault "transition_out" none (Json.orNull? (Transition.ofJson? o))
    layer := ← r.withDefault "layer" none (Json.orNull? Json.int32?) }

instance : Json.Codec Clip := ⟨toJson, ofJson? .text⟩

end Clip

end Montage
