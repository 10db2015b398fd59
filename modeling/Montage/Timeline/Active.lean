import Montage.Timeline.Snapshot

/-!
The clips that play at a frame: which they are, what each shows of its source, and how they stack.

A clip whose data does not fit together is left out and named with the reason, so that the others
still play.
-/

namespace Montage

structure ActiveClip where
  clip : Clip
  track : Track
  /-- The frame of the source that is shown. -/
  sourceFrame : Frame

/-- Why a clip is left out of a frame it has a place in. -/
inductive Violation.Kind where
  | pastOutPoint (sourceFrame outPoint : Frame)
  | invertedTrim (inPoint outPoint : Frame)
  | unknownTrack (track : TrackId)
  deriving DecidableEq

structure Violation where
  clip : ClipId
  frame : Frame
  kind : Violation.Kind
  deriving DecidableEq

structure ActiveSet where
  frame : Frame
  /-- Bottom first. -/
  clips : List ActiveClip
  violations : List Violation

/-- How a clip stands to a frame. -/
inductive Standing where
  | outside
  | hidden
  | violates (kind : Violation.Kind)
  | active (track : Track) (sourceFrame : Frame)

namespace Clip

/-- The first obstacle counts: the window, the track, its being hidden, the trim, its end. Of
several tracks with one id the last one counts. -/
def standing (tracks : List Track) (frame : Frame) (c : Clip) : Standing :=
  if c.isActiveAt frame then
    match tracks.reverse.find? (·.id = c.track) with
    | none => .violates (.unknownTrack c.track)
    | some track =>
      if track.hidden then .hidden
      else if c.outPoint < c.inPoint then .violates (.invertedTrim c.inPoint c.outPoint)
      else
        let source := c.sourceFrame frame
        if c.outPoint < source then .violates (.pastOutPoint source c.outPoint)
        else .active track source
  else .outside

end Clip

namespace ActiveClip

def layer (a : ActiveClip) : Int := a.clip.layerOn a.track.order

/-- The order of stacking: by the order of the track, by layer, by clip. -/
def compare (a b : ActiveClip) : Ordering :=
  (Ord.compare a.track.order b.track.order).then
    ((Ord.compare a.layer b.layer).then (Ord.compare a.clip.id.rank b.clip.id.rank))

end ActiveClip

namespace ActiveSet

def resolve (tracks : List Track) (clips : List Clip) (frame : Frame) : ActiveSet where
  frame := frame
  clips := (clips.filterMap fun c => match c.standing tracks frame with
    | .active track source => some ⟨c, track, source⟩
    | _ => none).mergeSort fun a b => (a.compare b).isLE
  violations := clips.filterMap fun c => match c.standing tracks frame with
    | .violates kind => some ⟨c.id, frame, kind⟩
    | _ => none

def ids (s : ActiveSet) : List ClipId := s.clips.map (·.clip.id)

def containsAsset (s : ActiveSet) (asset : AssetId) : Bool := s.clips.any (·.clip.asset = asset)

end ActiveSet

def Snapshot.activeAt (s : Snapshot) (frame : Frame) : ActiveSet :=
  .resolve s.tracks s.clips.values frame

namespace Violation

def text (v : Violation) : String :=
  let clip := v.clip.text
  match v.kind with
  | .pastOutPoint source outPoint =>
    s!"clip {clip} at frame {v.frame}: local frame {source} exceeds out-point {outPoint}"
  | .invertedTrim inPoint outPoint =>
    s!"clip {clip}: in-point {inPoint} is after out-point {outPoint}"
  | .unknownTrack track => s!"clip {clip}: unknown track " ++ track.text

end Violation

end Montage
