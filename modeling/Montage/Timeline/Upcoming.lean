import Montage.Timeline.Snapshot

/-!
The assets that are about to be needed.
-/

namespace Montage.Snapshot

/-- Whether some track of the id is hidden. -/
def isHidden (s : Snapshot) (id : TrackId) : Bool := s.tracks.any fun t => t.hidden && t.id = id

/-- Assets in use at a frame, apart from hidden tracks. -/
def assetsInUse (s : Snapshot) (frame : Frame) : List AssetId :=
  (s.clips.values.filter fun c => c.isActiveAt frame && !s.isHidden c.track).map (·.asset)

/-- Clips that start in the `horizon` frames after a frame, in the order they start. -/
def startingAfter (s : Snapshot) (frame horizon : Frame) : List Clip :=
  (s.clips.values.filter fun c =>
    frame < c.start && c.start ≤ frame.addSat horizon && !s.isHidden c.track).mergeSort fun a b =>
      ((Ord.compare a.start.toNat b.start.toNat).then (Ord.compare a.id.rank b.id.rank)).isLE

/-- The assets of clips that start soon, each once, in the order they start, without those already
in use. -/
def upcoming (s : Snapshot) (frame horizon : Frame) : List AssetId :=
  let inUse := s.assetsInUse frame
  ((s.startingAfter frame horizon).map (·.asset)).eraseDups.filter fun a => !inUse.contains a

end Montage.Snapshot
