import Montage.Media.Request
import Montage.Output.Target
import Montage.Playback.FrameRequests
import Montage.Preview.Config

/-!
The compositor: it stages layers and writes them to the output when the display is ready.
-/

namespace Montage

structure Compositor where
  config : CompositorConfig
  pool : Pool
  target : Target := {}
  tree : LayerTree := {}
  /-- The request for the callback that writes what is staged. -/
  pendingFlush : Option RequestId := none
  disposed : Bool := false

/-- A compositor at its host. -/
structure Rig where
  compositor : Compositor
  host : Host

namespace Compositor

/-- An empty batch is not passed on. -/
def write (c : Compositor) (b : Batch) : Compositor :=
  if b.isEmpty then c else { c with target := c.target.apply b }

/-- Writes what is staged, and tells whether anything was. -/
def flush (c : Compositor) : Bool × Compositor :=
  match c.tree.commit with
  | (none, _) => (false, c)
  | (some b, tree) => (true, { c with tree }.write b)

/-- Takes a callback of the display; one that was not asked for is ignored. -/
def callback (c : Compositor) (id : RequestId) : Bool × Compositor :=
  if c.pendingFlush = some id then { c with pendingFlush := none }.flush else (false, c)

def setViewport (c : Compositor) (v : Viewport) : Compositor :=
  { c with config := { c.config with viewport := v } }

def modifyPool (c : Compositor) (f : Pool → Pool) : Compositor := { c with pool := f c.pool }

end Compositor

namespace Rig

def pool (r : Rig) : Pool := r.compositor.pool

def modifyPool (r : Rig) (f : Pool → Pool) : Rig :=
  { r with compositor := r.compositor.modifyPool f }

/-- Asks for a callback, unless one is on its way. -/
def requestFlush (r : Rig) : Rig :=
  match r.compositor.pendingFlush with
  | some _ => r
  | none =>
    let (id, host) := r.host.request
    { compositor := { r.compositor with pendingFlush := some id }, host }

/-- Stages layers; they are written at once or with the next frame of the display. -/
def stage (r : Rig) (frame : Frame) (layers : List Layer) : Rig :=
  let tree := r.compositor.tree.stage frame layers
  let r := { r with compositor := { r.compositor with tree } }
  if r.compositor.config.batchWrites then r.requestFlush
  else { r with compositor := r.compositor.flush.2 }

/-- One frame of the display: all that is pending is called back. -/
def tick (r : Rig) : List Bool × Rig :=
  let (ids, host) := r.host.take
  let (flags, c) := ids.foldl (fun (flags, c) id =>
    let (wrote, c) := c.callback id
    (flags ++ [wrote], c)) ([], r.compositor)
  (flags, ⟨c, host⟩)

/-- Lets go of the pending callback and of all media, and empties the output. -/
def dispose (r : Rig) : Rig :=
  if r.compositor.disposed then r
  else
    let host := match r.compositor.pendingFlush with
      | none => r.host
      | some id => r.host.cancel id
    let c := { r.compositor with pendingFlush := none, pool := r.compositor.pool.dispose }
    let (b, tree) := c.tree.clear
    { compositor := { { c with tree }.write b with disposed := true }, host }

end Rig

end Montage
