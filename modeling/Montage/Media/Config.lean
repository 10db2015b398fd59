import Montage.Json.Record

/-!
Sizes and tolerances of a pool of media elements.
-/

namespace Montage

structure PoolConfig where
  /-- Number of elements; a pool has at least one. -/
  poolSize : UInt64 := 3
  /-- Loads started by one call to preload, at most. -/
  preloadCount : UInt64 := 2
  /-- How long a seek is waited for. -/
  seekTimeoutMs : UInt64 := 1000
  /-- Seconds that an element may be off while paused. -/
  pausedTolerance : Float := 0.01
  /-- Seconds that an element may be off while playing. -/
  playingTolerance : Float := 0.1
  deriving BEq

namespace PoolConfig

def tolerance (c : PoolConfig) (playing : Bool) : Float :=
  if playing then c.playingTolerance else c.pausedTolerance

def toJson (c : PoolConfig) : Json :=
  .obj [("pool_size", .ofFrame c.poolSize), ("preload_count", .ofFrame c.preloadCount),
    ("seek_timeout_ms", .ofFrame c.seekTimeoutMs),
    ("paused_tolerance_secs", .double c.pausedTolerance),
    ("playing_tolerance_secs", .double c.playingTolerance)]

def ofJson? (v : Json) : Option PoolConfig := do
  let r ← Json.Record.ofJson? ["pool_size", "preload_count", "seek_timeout_ms",
    "paused_tolerance_secs", "playing_tolerance_secs"] v
  let base : PoolConfig := {}
  return {
    poolSize := ← r.withDefault "pool_size" base.poolSize Json.word64?
    preloadCount := ← r.withDefault "preload_count" base.preloadCount Json.word64?
    seekTimeoutMs := ← r.withDefault "seek_timeout_ms" base.seekTimeoutMs Json.word64?
    pausedTolerance := ← r.withDefault "paused_tolerance_secs" base.pausedTolerance Json.double?
    playingTolerance :=
      ← r.withDefault "playing_tolerance_secs" base.playingTolerance Json.double? }

instance : Json.Codec PoolConfig := ⟨toJson, ofJson?⟩

end PoolConfig

end Montage
