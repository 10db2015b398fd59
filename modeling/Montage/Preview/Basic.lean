import Montage.Preview.Scene
import Montage.Playback.Transport

/-!
A preview: a transport and a compositor that share one playhead and one display.

A refresh evaluates the frame under the playhead, unless an evaluation for the same inputs has been
applied before. Inputs are the playhead, the revision of the timeline and the state of playback.
Another timeline, other assets and another size of the output call for a new evaluation as well.
-/

namespace Montage

/-- What an evaluation is made for. -/
structure PreviewInputs where
  frame : Frame
  revision : UInt64
  playback : PlaybackState
  deriving BEq

structure Preview where
  transport : Transport Float
  compositor : Compositor
  snapshot : Snapshot
  assets : AssetTable
  /-- The inputs of the last evaluation that was applied, while it is up to date. -/
  applied : Option PreviewInputs := none

namespace Preview

def new (config : PreviewConfig) (backend : Backend) (snapshot : Snapshot) (assets : AssetTable) :
    Preview where
  transport := .new config.transport {} snapshot.rate snapshot.duration
  compositor := { config := config.compositor, pool := .new config.pool backend }
  snapshot := snapshot
  assets := assets

def playhead (p : Preview) : Frame := p.transport.playhead

def pool (p : Preview) : Pool := p.compositor.pool

def rig (p : Preview) : Rig := ⟨p.compositor, p.transport.host⟩

def setRig (p : Preview) (r : Rig) : Preview :=
  { p with compositor := r.compositor, transport := { p.transport with host := r.host } }

def modifyTransport (p : Preview) (f : Transport Float → Transport Float) : Preview :=
  { p with transport := f p.transport }

def modifyPool (p : Preview) (f : Pool → Pool) : Preview :=
  { p with compositor := p.compositor.modifyPool f }

def inputs (p : Preview) : PreviewInputs :=
  ⟨p.playhead, p.snapshot.revision, p.transport.playback⟩

/-- Whether the inputs are those of the last evaluation that was applied. -/
def isCurrent (p : Preview) : Bool := p.applied == some p.inputs

/-- Takes on another timeline. One with a rate of no use is refused, and the present one stays. -/
def setTimeline (p : Preview) (snapshot : Snapshot) : Except PreviewError Preview :=
  if snapshot.rate.isValid then
    .ok { p with
      transport := p.transport.setTimeline snapshot.rate snapshot.duration
      snapshot
      applied := none }
  else .error (.core (.rateTerms snapshot.rate))

def setAssets (p : Preview) (assets : AssetTable) : Preview := { p with assets, applied := none }

def setViewport (p : Preview) (v : Viewport) : Preview :=
  { p with compositor := p.compositor.setViewport v, applied := none }

/-- Remembers the inputs of an evaluation that was applied. An evaluation that gave way to a moved
playhead leaves what was remembered before. -/
def remember (p : Preview) (inputs : PreviewInputs) : Except PreviewError Evaluation → Preview
  | .ok (.applied report) => { p with applied := some { inputs with frame := report.frame } }
  | _ => p

def dispose (p : Preview) : Preview :=
  let p := p.modifyTransport Transport.dispose
  { p.setRig p.rig.dispose with applied := none }

end Preview

end Montage
