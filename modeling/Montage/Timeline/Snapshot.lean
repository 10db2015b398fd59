import Montage.Time.Codec
import Montage.Timeline.Clip
import Montage.Timeline.ClipMap
import Montage.Timeline.Track

/-!
A timeline as it stands at one revision.
-/

namespace Montage

structure Snapshot where
  tracks : List Track
  clips : ClipMap Clip
  rate : FrameRate
  /-- Length in frames. -/
  duration : Frame
  /-- Another number for every change of the timeline. -/
  revision : UInt64 := 0

namespace Snapshot

/-- The end of the last clip. -/
def endOf (clips : List Clip) : Frame := clips.foldl (fun n c => if n ≤ c.stop then c.stop else n) 0

/-- A timeline that ends with its last clip. Of several clips with one id the last counts. -/
def ofClips (rate : FrameRate) (tracks : List Track) (clips : List Clip) : Snapshot :=
  let clips := ClipMap.ofList (clips.map fun c => (c.id, c))
  { tracks, clips, rate, duration := endOf clips.values }

/-- The first track of an id. -/
def track? (s : Snapshot) (id : TrackId) : Option Track := s.tracks.find? (·.id = id)

def clip? (s : Snapshot) (id : ClipId) : Option Clip := s.clips.find? id

def seconds (s : Snapshot) : Except Fault Float := s.rate.secondsOf s.duration

def toJson (s : Snapshot) : Json :=
  .obj [("tracks", .arr (s.tracks.map Track.toJson)),
    ("clips", .obj (s.clips.entries.map fun e => (e.1.text, e.2.toJson))), ("fps", s.rate.toJson),
    ("duration", .ofFrame s.duration), ("revision", .ofFrame s.revision)]

/-- Clips are the members of an object, with their ids as keys. Of keys that stand for one id the
last one counts, which in a tree is the last one in the order of their texts. -/
def clipsOfJson? (o : Json.Origin) : Json → Option (ClipMap Clip)
  | .obj members => do
    let members := if o = .tree then members.mergeSort fun a b => a.1 ≤ b.1 else members
    let entries ← members.mapM fun m => do return (← ClipId.ofText? m.1, ← Clip.ofJson? o m.2)
    return ClipMap.ofList entries
  | _ => none

def ofJson? (o : Json.Origin) (v : Json) : Option Snapshot := do
  let r ← Json.Record.ofJson? ["tracks", "clips", "fps", "duration", "revision"] v
  return {
    tracks := ← r.required "tracks" (Json.list? Track.ofJson?)
    clips := ← r.required "clips" (clipsOfJson? o)
    rate := ← r.required "fps" FrameRate.ofJson?
    duration := ← r.required "duration" Json.word64?
    revision := ← r.withDefault "revision" 0 Json.word64? }

instance : Json.Codec Snapshot := ⟨toJson, ofJson? .text⟩

end Snapshot

end Montage
