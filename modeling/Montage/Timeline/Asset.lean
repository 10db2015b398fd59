import Montage.Timeline.Id

/-!
Media assets and tables to look them up in.
-/

namespace Montage

inductive AssetKind where
  | video
  | audio
  | image
  deriving DecidableEq

namespace AssetKind

def name : AssetKind → String
  | video => "video"
  | audio => "audio"
  | image => "image"

def ofName? : String → Option AssetKind
  | "video" => some video
  | "audio" => some audio
  | "image" => some image
  | _ => none

def toJson (k : AssetKind) : Json := .str k.name

def ofJson? (v : Json) : Option AssetKind := v.choice?.bind ofName?

instance : Json.Codec AssetKind := ⟨toJson, ofJson?⟩

end AssetKind

structure MediaAsset where
  id : AssetId
  kind : AssetKind
  url : String
  /-- Length in seconds, where it is known. -/
  duration : Option Float := none
  width : Option UInt32 := none
  height : Option UInt32 := none
  /-- Whether a video has sound. -/
  hasAudio : Bool := true

namespace MediaAsset

def video (id : AssetId) (url : String) (duration : Float) : MediaAsset :=
  { id, kind := .video, url, duration := some duration, width := some 1920, height := some 1080 }

def audio (id : AssetId) (url : String) (duration : Float) : MediaAsset :=
  { id, kind := .audio, url, duration := some duration }

def image (id : AssetId) (url : String) : MediaAsset :=
  { id, kind := .image, url, hasAudio := false }

/-- Whether the asset plays on a media element. -/
def needsElement (a : MediaAsset) : Bool := a.kind == .video || a.kind == .audio

def isVisual (a : MediaAsset) : Bool := a.kind == .video || a.kind == .image

def carriesAudio (a : MediaAsset) : Bool :=
  match a.kind with
  | .audio => true
  | .video => a.hasAudio
  | .image => false

def toJson (a : MediaAsset) : Json :=
  .obj [("id", a.id.toJson), ("kind", a.kind.toJson), ("url", .str a.url),
    ("duration_secs", Json.ofOption .double a.duration),
    ("width", Json.ofOption Json.ofWord a.width), ("height", Json.ofOption Json.ofWord a.height),
    ("has_audio", .bool a.hasAudio)]

def ofJson? (v : Json) : Option MediaAsset := do
  let r ← Json.Record.ofJson?
    ["id", "kind", "url", "duration_secs", "width", "height", "has_audio"] v
  return {
    id := ← r.required "id" AssetId.ofJson?
    kind := ← r.required "kind" AssetKind.ofJson?
    url := ← r.required "url" Json.string?
    duration := ← r.withDefault "duration_secs" none (Json.orNull? Json.double?)
    width := ← r.withDefault "width" none (Json.orNull? Json.word32?)
    height := ← r.withDefault "height" none (Json.orNull? Json.word32?)
    hasAudio := ← r.withDefault "has_audio" true Json.bool? }

instance : Json.Codec MediaAsset := ⟨toJson, ofJson?⟩

end MediaAsset

/-- Assets by id; of several with one id the first in the table counts. -/
structure AssetTable where
  entries : List MediaAsset

namespace AssetTable

def find? (t : AssetTable) (id : AssetId) : Option MediaAsset := t.entries.find? (·.id = id)

/-- The table in which the last asset of each id counts. -/
def ofLast (assets : List MediaAsset) : AssetTable := ⟨assets.reverse⟩

/-- The ids in the table, each once. -/
def ids (t : AssetTable) : List AssetId := (t.entries.map (·.id)).eraseDups

theorem id_of_find? {t : AssetTable} {id : AssetId} {a : MediaAsset} (h : t.find? id = some a) :
    a.id = id := by
  simpa using List.find?_some h

end AssetTable

end Montage
