import Montage.CommandLine.Command

/-!
The report on one frame of a timeline: the active clips from the bottom up with their styles, the
clips left out, and the assets that are needed soon.
-/

namespace Montage.CommandLine

namespace Inspection

def headline (s : Snapshot) (frame : Frame) (seconds : Float) (active : ActiveSet) : String :=
  s!"frame {frame} ({seconds.fixedText 3}s) of {s.duration}: "
    ++ s!"{active.clips.length} active clip(s)"

def clipLine (frame : Frame) (viewport : Viewport) (zIndex : Nat) (a : ActiveClip) : String :=
  let style := LayerStyle.project (a.clip.visualAt frame) viewport zIndex
    (a.clip.isAnimatingAt frame)
  s!"  [{zIndex}] {a.clip.id.text} on '" ++ a.track.name ++ "' asset=" ++ a.clip.asset.name
    ++ s!" local={a.sourceFrame} opacity={style.opacity.fixedText 3} " ++ style.css
    ++ if style.willChange then " (animating)" else ""

def upcomingLines (horizon : Frame) : List AssetId → List String
  | [] => []
  | assets => [s!"upcoming within {horizon} frames: " ++ ", ".intercalate (assets.map (·.name))]

def lines (s : Snapshot) (o : InspectOptions) : Except Fault (List String) := do
  let seconds ← s.rate.secondsOf o.frame
  let active := s.activeAt o.frame
  return headline s o.frame seconds active
    :: active.clips.mapIdx (clipLine o.frame o.viewport)
    ++ active.violations.map (fun v => "  excluded: " ++ v.text)
    ++ upcomingLines o.horizon (s.upcoming o.frame o.horizon)

end Inspection

end Montage.CommandLine
