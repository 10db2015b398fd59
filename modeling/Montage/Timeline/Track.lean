import Montage.Timeline.Id

/-!
Tracks: the lanes that clips are placed on. A lane of a higher order is drawn above one of a lower
order.
-/

namespace Montage

structure Track where
  id : TrackId
  name : String
  order : Int
  /-- Clips are seen but not heard. -/
  muted : Bool := false
  /-- Clips are neither seen nor heard. -/
  hidden : Bool := false
  /-- No edits; of no meaning for a preview. -/
  locked : Bool := false
  /-- Height of the lane in an editor. -/
  height : Float32 := 60.0

namespace Track

def toJson (t : Track) : Json :=
  .obj [("id", t.id.toJson), ("name", .str t.name), ("order", .int t.order),
    ("muted", .bool t.muted), ("hidden", .bool t.hidden), ("locked", .bool t.locked),
    ("height", .single t.height)]

def ofJson? (v : Json) : Option Track := do
  let r ← Json.Record.ofJson? ["id", "name", "order", "muted", "hidden", "locked", "height"] v
  return {
    id := ← r.required "id" TrackId.ofJson?
    name := ← r.required "name" Json.string?
    order := ← r.required "order" Json.int32?
    muted := ← r.withDefault "muted" false Json.bool?
    hidden := ← r.withDefault "hidden" false Json.bool?
    locked := ← r.withDefault "locked" false Json.bool?
    height := ← r.withDefault "height" 60.0 Json.single? }

instance : Json.Codec Track := ⟨toJson, ofJson?⟩

end Track

end Montage
