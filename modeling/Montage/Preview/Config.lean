import Montage.Error
import Montage.Json.Parser
import Montage.Media.Config
import Montage.Output.Style
import Montage.Playback.State

/-!
Settings of a preview, and the reasons for which a preview is refused.
-/

namespace Montage

structure CompositorConfig where
  viewport : Viewport := .standard
  /-- How far ahead of the playhead assets are loaded. -/
  preloadHorizon : Frame := 60
  /-- Whether changes wait for the next frame of the display. -/
  batchWrites : Bool := true
  deriving BEq

namespace CompositorConfig

def toJson (c : CompositorConfig) : Json :=
  .obj [("viewport", c.viewport.toJson), ("preload_horizon_frames", .ofFrame c.preloadHorizon),
    ("batch_writes", .bool c.batchWrites)]

def ofJson? (v : Json) : Option CompositorConfig := do
  let r ← Json.Record.ofJson? ["viewport", "preload_horizon_frames", "batch_writes"] v
  let base : CompositorConfig := {}
  return {
    viewport := ← r.withDefault "viewport" base.viewport Viewport.ofJson?
    preloadHorizon := ← r.withDefault "preload_horizon_frames" base.preloadHorizon Json.word64?
    batchWrites := ← r.withDefault "batch_writes" base.batchWrites Json.bool? }

instance : Json.Codec CompositorConfig := ⟨toJson, ofJson?⟩

end CompositorConfig

structure PreviewConfig where
  pool : PoolConfig := {}
  transport : TransportConfig Float := .standard
  compositor : CompositorConfig := {}
  deriving BEq

inductive ConfigError where
  | noElements
  | noFrames
  | rates (least greatest : Float)

def ConfigError.message : ConfigError → String
  | noElements => "pool.pool_size must be at least 1"
  | noFrames => "transport.max_frames_per_tick must be at least 1"
  | rates least greatest => s!"invalid rate range {least.plainText}..{greatest.plainText}"

inductive PreviewError where
  | disposed
  | config (e : ConfigError)
  /-- The text of a configuration is not one. -/
  | notConfig
  | core (e : Error)

def PreviewError.message : PreviewError → String
  | disposed => "Preview has been disposed"
  | config e => "Invalid configuration: " ++ e.message
  | notConfig => Error.Kind.serialization.label ++ "not a preview configuration"
  | core e => e.message

namespace PreviewConfig

def toJson (c : PreviewConfig) : Json :=
  .obj [("pool", c.pool.toJson), ("transport", c.transport.toJson),
    ("compositor", c.compositor.toJson)]

def ofJson? (v : Json) : Option PreviewConfig := do
  let r ← Json.Record.ofJson? ["pool", "transport", "compositor"] v
  let base : PreviewConfig := {}
  return {
    pool := ← r.withDefault "pool" base.pool PoolConfig.ofJson?
    transport := ← r.withDefault "transport" base.transport TransportConfig.ofJson?
    compositor := ← r.withDefault "compositor" base.compositor CompositorConfig.ofJson? }

instance : Json.Codec PreviewConfig := ⟨toJson, ofJson?⟩

def validate (c : PreviewConfig) : Except ConfigError Unit := do
  if c.pool.poolSize = 0 then throw .noElements
  if c.transport.maxFramesPerTick = 0 then throw .noFrames
  let t := c.transport
  if !(decide (0.0 < t.minRate) && decide (t.minRate ≤ t.maxRate)) then
    throw (.rates t.minRate t.maxRate)

/-- Reads a configuration. A member that is repeated is refused. -/
def parse (text : String) : Except PreviewError PreviewConfig :=
  match Json.parse? text >>= ofJson? with
  | none => .error .notConfig
  | some c =>
    match c.validate with
    | .ok () => .ok c
    | .error e => .error (.config e)

def parseBytes (bytes : ByteArray) : Except PreviewError PreviewConfig :=
  match String.fromUTF8? bytes with
  | none => .error .notConfig
  | some text => parse text

end PreviewConfig

end Montage
