import Montage.Error
import Montage.Json.Parser
import Montage.Json.Printer
import Montage.Timeline.Asset
import Montage.Timeline.Snapshot

/-!
Timelines as they are kept in files. A file holds a version and a document. The layout before
version 1 had neither: it is brought up to date by filling in what is missing.
-/

namespace Montage

structure Document where
  rate : FrameRate := .fps30
  tracks : List Track := []
  clips : List Clip := []
  assets : List MediaAsset := []
  /-- Length in frames; by default the end of the last clip. -/
  duration : Option Frame := none

namespace Document

def validate (d : Document) : Except Error Unit :=
  if d.rate.isValid then .ok () else .error (.rateTerms d.rate)

def snapshot (d : Document) : Snapshot :=
  let s := Snapshot.ofClips d.rate d.tracks d.clips
  { s with duration := d.duration.getD s.duration }

def assetTable (d : Document) : AssetTable := .ofLast d.assets

def toJson (d : Document) : Json :=
  .obj [("fps", d.rate.toJson), ("tracks", .arr (d.tracks.map Track.toJson)),
    ("clips", .arr (d.clips.map Clip.toJson)), ("assets", .arr (d.assets.map MediaAsset.toJson)),
    ("duration", Json.ofOption .ofFrame d.duration)]

def ofJson? (o : Json.Origin) (v : Json) : Option Document := do
  let r ← Json.Record.ofJson? ["fps", "tracks", "clips", "assets", "duration"] v
  return {
    rate := ← r.withDefault "fps" .fps30 FrameRate.ofJson?
    tracks := ← r.required "tracks" (Json.list? Track.ofJson?)
    clips := ← r.required "clips" (Json.list? (Clip.ofJson? o))
    assets := ← r.withDefault "assets" [] (Json.list? MediaAsset.ofJson?)
    duration := ← r.withDefault "duration" none (Json.orNull? Json.word64?) }

instance : Json.Codec Document := ⟨toJson, ofJson? .text⟩

end Document

/-- The rational rate meant by a decimal one such as 25, 29.97 or 23.976: a whole number, a whole
number times 1000/1001, or thousandths. -/
def FrameRate.ofDecimal {α : Type} [Scalar α] (fps : α) (refused : Error) :
    Except Error FrameRate := do
  let word (x : α) : UInt32 := UInt32.ofNat (Scalar.wholeIn 0 4294967295 x).toNat
  if !(decide ((0.0 : α) < fps) && decide (fps < Scalar.ofInt 4294967295 / 1001.0)) then
    throw refused
  let whole := Scalar.round fps
  if Scalar.abs (fps - whole) < 1e-3 then return ⟨word whole, 1⟩
  let ntsc := Scalar.round (fps * 1.001)
  if Scalar.abs (ntsc / 1.001 - fps) < 5e-3 then
    if 4294967295 < (word ntsc).toNat * 1000 then throw (.fault .overflow)
    return ⟨word ntsc * 1000, 1001⟩
  return ⟨word (Scalar.round (fps * 1000.0)), 1000⟩

structure TimelineFile where
  version : UInt32
  document : Document

namespace TimelineFile

def currentVersion : UInt32 := 1

def ofDocument (d : Document) : TimelineFile := ⟨currentVersion, d⟩

def toJson (f : TimelineFile) : Json :=
  .obj [("version", .ofWord f.version), ("timeline", f.document.toJson)]

def ofJson? (o : Json.Origin) (v : Json) : Option TimelineFile := do
  let r ← Json.Record.ofJson? ["version", "timeline"] v
  return {
    version := ← r.required "version" Json.word32?
    document := ← r.required "timeline" (Document.ofJson? o) }

instance : Json.Codec TimelineFile := ⟨toJson, ofJson? .text⟩

/-- The text of a file. -/
def text (f : TimelineFile) : String := f.toJson.pretty 0

/-- The version a file names, its lowest 32 bits. A file that names none has version 0. -/
def versionOf (v : Json) : UInt32 :=
  match (v.member? "version").bind Json.word64? with
  | some n => UInt32.ofNat n.toNat
  | none => 0

/-- Gives a clip without an out-point the trim that plays its source from the in-point on. -/
def fillTrim : Json → Json
  | .obj members =>
    let clip := Json.obj members
    if (clip.member? "out_point").isSome then clip
    else
      let word (key : String) : Frame := ((clip.member? key).bind Json.word64?).getD 0
      let inPoint := word "in_point"
      .obj (Json.put (Json.put members "in_point" (.ofFrame inPoint)) "out_point"
        (.ofFrame (inPoint.addSat (word "duration"))))
  | v => v

/-- A decimal rate becomes a rational one. -/
def fillRate (members : List (String × Json)) : Except Error (List (String × Json)) :=
  match ((Json.obj members).member? "fps").bind Json.double? with
  | none => .ok members
  | some fps =>
    return Json.put members "fps" (← FrameRate.ofDecimal fps (.rateOutOfRange fps)).toJson

def fillClips (members : List (String × Json)) : List (String × Json) :=
  match (Json.obj members).member? "clips" with
  | some (.arr clips) => Json.put members "clips" (.arr (clips.map fillTrim))
  | _ => members

/-- The layout of version 1 for a file of version 0, which may or may not wrap its document. -/
def upgrade (v : Json) : Except Error Json :=
  match (v.member? "timeline").getD v with
  | .obj members => do
    let members ← fillRate members
    return .obj [("version", .int 1), ("timeline", .obj (fillClips members))]
  | _ => .error .notAnObject

/-- Reads a tree that is already free of repeated keys. -/
def ofValue (v : Json) : Except Error TimelineFile := do
  let version := versionOf v
  if currentVersion < version then throw (.newerVersion version currentVersion)
  let v ← if version = 0 then upgrade v else pure v
  match ofJson? .tree v with
  | none => throw .notTimeline
  | some file =>
    file.document.validate
    return file

def parse (text : String) : Except Error TimelineFile :=
  match Json.parse? text with
  | none => .error .notJson
  | some v => ofValue v.lastWins

def parseBytes (bytes : ByteArray) : Except Error TimelineFile :=
  match String.fromUTF8? bytes with
  | none => .error .notJson
  | some text => parse text

end TimelineFile

end Montage
