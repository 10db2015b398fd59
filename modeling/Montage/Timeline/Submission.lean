import Montage.Timeline.Document

/-!
What a render service is given: every visible clip with absolute times, checked beforehand.

Clips on hidden tracks are left out. One clip that cannot be rendered refuses the whole timeline.
-/

namespace Montage

structure SubmittedClip where
  clip : ClipId
  track : TrackId
  trackOrder : Int
  layer : Int
  asset : AssetId
  kind : AssetKind
  url : String
  start : Float
  stop : Float
  trimStart : Float
  trimStop : Float
  muted : Bool
  transform : Transform Float32
  transitionIn : Option Transition
  transitionOut : Option Transition

structure Submission where
  rate : FrameRate
  /-- Length in seconds. -/
  duration : Float
  /-- Bottom first. -/
  clips : List SubmittedClip

namespace Clip

/-- The clip plays something, and its trim holds all it plays. -/
def checkTrim (c : Clip) : Except Error Unit := do
  if c.duration = 0 then throw (.emptyClip c.id)
  if c.outPoint ≤ c.inPoint then throw (.emptyTrim c.id c.inPoint c.outPoint)
  if c.outPoint < c.inPoint.addSat (c.duration - 1) then
    throw (.longerThanTrim c.id c.duration (c.outPoint - c.inPoint))

/-- The trim ends within the frames that the source has. -/
def checkSource (c : Clip) (asset : AssetId) (seconds : Float) (rate : FrameRate) :
    Except Error Unit := do
  if !(seconds.isFinite && decide (0.0 ≤ seconds)) then throw (.invalidDuration asset seconds)
  let available := Scalar.floor (seconds * rate.fps + 1e-6)
  if available < Scalar.ofFrame c.outPoint then
    throw (.pastSource c.id c.outPoint asset available)

/-- The form of a clip on a visible track in which it is submitted. -/
def submit (c : Clip) (track : Track) (rate : FrameRate) (assets : AssetTable) :
    Except Error SubmittedClip := do
  c.checkTrim
  match assets.find? c.asset with
  | none => throw (.missingAsset c.asset c.id)
  | some asset =>
    if let some seconds := asset.duration then c.checkSource asset.id seconds rate
    let secondsAt (f : Frame) : Except Error Float := Fault.lift (rate.secondsOf f)
    return {
      clip := c.id
      track := track.id
      trackOrder := track.order
      layer := c.layerOn track.order
      asset := c.asset
      kind := asset.kind
      url := asset.url
      start := ← secondsAt c.start
      stop := ← secondsAt c.stop
      trimStart := ← secondsAt c.inPoint
      trimStop := ← secondsAt c.outPoint
      muted := track.muted
      transform := c.transform
      transitionIn := c.transitionIn
      transitionOut := c.transitionOut }

end Clip

namespace SubmittedClip

/-- The order of stacking: by the order of the track, by layer, by start, by clip. -/
def compare (a b : SubmittedClip) : Ordering :=
  (Ord.compare a.trackOrder b.trackOrder).then ((Ord.compare a.layer b.layer).then
    ((Ord.compare a.start.rank b.start.rank).then (Ord.compare a.clip.rank b.clip.rank)))

/-- A transition that is absent is not written at all. -/
def transitionMember (name : String) : Option Transition → List (String × Json)
  | none => []
  | some t => [(name, t.toJson)]

def toJson (c : SubmittedClip) : Json :=
  .obj ([("clip_id", c.clip.toJson), ("track_id", c.track.toJson),
    ("track_order", .int c.trackOrder), ("layer", .int c.layer), ("asset_id", c.asset.toJson),
    ("kind", c.kind.toJson), ("url", .str c.url), ("start", .double c.start),
    ("end", .double c.stop), ("trim_start", .double c.trimStart), ("trim_end", .double c.trimStop),
    ("muted", .bool c.muted), ("transform", c.transform.toJson)]
    ++ transitionMember "transition_in" c.transitionIn
    ++ transitionMember "transition_out" c.transitionOut)

def ofJson? (o : Json.Origin) (v : Json) : Option SubmittedClip := do
  let r ← Json.Record.ofJson? ["clip_id", "track_id", "track_order", "layer", "asset_id", "kind",
    "url", "start", "end", "trim_start", "trim_end", "muted", "transform", "transition_in",
    "transition_out"] v
  return {
    clip := ← r.required "clip_id" ClipId.ofJson?
    track := ← r.required "track_id" TrackId.ofJson?
    trackOrder := ← r.required "track_order" Json.int32?
    layer := ← r.required "layer" Json.int32?
    asset := ← r.required "asset_id" AssetId.ofJson?
    kind := ← r.required "kind" AssetKind.ofJson?
    url := ← r.required "url" Json.string?
    start := ← r.required "start" Json.double?
    stop := ← r.required "end" Json.double?
    trimStart := ← r.required "trim_start" Json.double?
    trimStop := ← r.required "trim_end" Json.double?
    muted := ← r.required "muted" Json.bool?
    transform := ← r.required "transform" Transform.ofJson?
    transitionIn := ← r.optional "transition_in" (Transition.ofJson? o)
    transitionOut := ← r.optional "transition_out" (Transition.ofJson? o) }

instance : Json.Codec SubmittedClip := ⟨toJson, ofJson? .text⟩

end SubmittedClip

namespace Submission

/-- The submitted form of a clip, or nothing for a clip on a hidden track. -/
def entry (s : Snapshot) (assets : AssetTable) (c : Clip) : Except Error (Option SubmittedClip) :=
  match s.track? c.track with
  | none => .error (.unknownTrack c.id c.track)
  | some track =>
    if track.hidden then .ok none else return some (← c.submit track s.rate assets)

/-- The submission of some clips of a timeline, in whatever order they come. -/
def ofClips (s : Snapshot) (assets : AssetTable) (clips : List Clip) :
    Except Error (List SubmittedClip) := do
  let entries ← clips.mapM (entry s assets)
  return (entries.filterMap id).mergeSort fun a b => (a.compare b).isLE

def ofSnapshot (s : Snapshot) (assets : AssetTable) : Except Error Submission := do
  if !s.rate.isValid then throw (.unusableRate s.rate)
  let clips ← ofClips s assets s.clips.values
  return { rate := s.rate, duration := ← Fault.lift s.seconds, clips }

def toJson (s : Submission) : Json :=
  .obj [("fps", s.rate.toJson), ("duration", .double s.duration),
    ("clips", .arr (s.clips.map SubmittedClip.toJson))]

def ofJson? (o : Json.Origin) (v : Json) : Option Submission := do
  let r ← Json.Record.ofJson? ["fps", "duration", "clips"] v
  return {
    rate := ← r.required "fps" FrameRate.ofJson?
    duration := ← r.required "duration" Json.double?
    clips := ← r.required "clips" (Json.list? (SubmittedClip.ofJson? o)) }

instance : Json.Codec Submission := ⟨toJson, ofJson? .text⟩

def text (s : Submission) : String := s.toJson.pretty 0

end Submission

end Montage
