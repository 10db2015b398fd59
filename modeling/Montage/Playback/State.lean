import Montage.Json.Record
import Montage.Scalar

/-!
States and settings of playback.
-/

namespace Montage

inductive TransportState where
  | stopped
  | paused
  | playing
  deriving DecidableEq

namespace TransportState

def name : TransportState → String
  | stopped => "stopped"
  | paused => "paused"
  | playing => "playing"

def ofName? : String → Option TransportState
  | "stopped" => some stopped
  | "paused" => some paused
  | "playing" => some playing
  | _ => none

def toJson (s : TransportState) : Json := .str s.name

def ofJson? (v : Json) : Option TransportState := v.choice?.bind ofName?

instance : Json.Codec TransportState := ⟨toJson, ofJson?⟩

end TransportState

inductive TransportEvent where
  | frame (frame : Frame)
  | state (state : TransportState)
  deriving DecidableEq

/-- The settings that a viewer sees. -/
structure PlaybackState where
  isPlaying : Bool := false
  rate : Float := 1.0
  volume : Float32 := 1.0
  muted : Bool := false
  deriving BEq

namespace PlaybackState

def toJson (p : PlaybackState) : Json :=
  .obj [("is_playing", .bool p.isPlaying), ("rate", .double p.rate), ("volume", .single p.volume),
    ("muted", .bool p.muted)]

def ofJson? (v : Json) : Option PlaybackState := do
  let r ← Json.Record.ofJson? ["is_playing", "rate", "volume", "muted"] v
  return {
    isPlaying := ← r.required "is_playing" Json.bool?
    rate := ← r.required "rate" Json.double?
    volume := ← r.required "volume" Json.single?
    muted := ← r.required "muted" Json.bool? }

instance : Json.Codec PlaybackState := ⟨toJson, ofJson?⟩

end PlaybackState

structure TransportConfig (τ : Type) where
  /-- The most frames a callback may advance. -/
  maxFramesPerTick : UInt32
  minRate : τ
  maxRate : τ
  deriving BEq

namespace TransportConfig

def standard {τ : Type} [Scalar τ] : TransportConfig τ := ⟨2, 0.25, 2.0⟩

def toJson (c : TransportConfig Float) : Json :=
  .obj [("max_frames_per_tick", .ofWord c.maxFramesPerTick), ("min_rate", .double c.minRate),
    ("max_rate", .double c.maxRate)]

def ofJson? (v : Json) : Option (TransportConfig Float) := do
  let r ← Json.Record.ofJson? ["max_frames_per_tick", "min_rate", "max_rate"] v
  let base : TransportConfig Float := standard
  return {
    maxFramesPerTick := ← r.withDefault "max_frames_per_tick" base.maxFramesPerTick Json.word32?
    minRate := ← r.withDefault "min_rate" base.minRate Json.double?
    maxRate := ← r.withDefault "max_rate" base.maxRate Json.double? }

instance : Json.Codec (TransportConfig Float) := ⟨toJson, ofJson?⟩

end TransportConfig

end Montage
