import Montage.Preview.Basic

/-!
A preview on the clock: refreshes and callbacks of the display, with the time they take.
-/

namespace Montage

structure Session where
  preview : Preview
  /-- Cues that are not over. -/
  cues : List CueTask := []

/-- Whether an error is a fault, which ends all work in progress. -/
def PreviewError.isFault : PreviewError → Bool
  | .core (.fault _) => true
  | _ => false

namespace Session

abbrev Refreshed := Except PreviewError (Option Evaluation)

def isFault : Refreshed → Bool
  | .error e => e.isFault
  | .ok _ => false

def now (s : Session) : Nat := s.preview.pool.now

def requests (s : Session) : FrameRequests := s.preview.transport.host.requests

def scene (s : Session) : Scene := { rig := s.preview.rig, cues := s.cues }

/-- The session after the scene has gone on. -/
def ofScene (s : Session) (scene : Scene) : Session :=
  { preview := s.preview.setRig scene.rig, cues := scene.cues }

def modify (s : Session) (f : Preview → Preview) : Session := { s with preview := f s.preview }

/-- Gives cues. -/
def give (s : Session) (cues : List Cue) : Session :=
  let (rig, tasks) := CueTask.startAll s.preview.rig cues
  { preview := s.preview.setRig rig, cues := s.cues ++ tasks }

def finishCues (s : Session) : Session := s.ofScene s.scene.finishCues

def settle (s : Session) : Session := s.ofScene s.scene.settle

def sleep (ms : Nat) (s : Session) : Session := s.ofScene (s.scene.sleep ms)

def sleepUntil (due : Nat) (s : Session) : Session := s.ofScene (s.scene.sleepUntil due)

/-- Evaluates the frame under the playhead, if that is called for. -/
def refresh (s : Session) : Session × Refreshed :=
  let inputs := s.preview.inputs
  if s.preview.isCurrent then (s, .ok none)
  else
    let p := s.preview
    let scene := s.scene.evaluate p.snapshot p.assets inputs.playback
    match scene.result? with
    | none => (s.ofScene scene, .ok none)
    | some result => ((s.ofScene scene).modify fun p => p.remember inputs result, result.map some)

/-- Takes a callback of the display: it moves the playhead or writes what is staged, and the
preview is refreshed. -/
def callback (s : Session) (id : RequestId) (timestamp : Float) : Session × Refreshed :=
  let (transport, advanced) := s.preview.transport.callback id timestamp
  let s := s.modify fun p => { p with transport }
  match advanced with
  | .error f => (s, .error (.core (.fault f)))
  | .ok _ =>
    (s.modify fun p => { p with compositor := (p.compositor.callback id).2 }).refresh

/-- Takes callbacks one after the other. A fault ends that. -/
def deliver (timestamp : Float) : List RequestId → Session → Session × List Refreshed
  | [], s => (s, [])
  | id :: rest, s =>
    let (s, r) := s.callback id timestamp
    if isFault r then (s, [r])
    else
      let (s, rs) := deliver timestamp rest s
      (s, r :: rs)

/-- One frame of the display: all that is pending is called back. -/
def tick (s : Session) (timestamp : Float) : Session × List Refreshed :=
  let (ids, host) := s.preview.transport.host.take
  (s.modify fun p => p.modifyTransport fun t => { t with host }).deliver timestamp ids

/-- Frames of the display while anything is pending, `rounds` of them at most: they are `step`
milliseconds apart on the clock of the host, and after each the session sleeps. Tells the playhead
and the outcomes of each, and goes on after a fault no more. -/
def run (step : Float) (sleepMs : Nat) : Nat → Float → Session →
    Session × Float × List (Frame × List Refreshed)
  | 0, timestamp, s => (s, timestamp, [])
  | rounds + 1, timestamp, s =>
    if s.requests.pending.isEmpty then (s, timestamp, [])
    else
      let (s, outcomes) := s.tick timestamp
      let round := (s.preview.playhead, outcomes)
      if outcomes.any isFault then (s, timestamp, [round])
      else
        let (s, timestamp, others) := run step sleepMs rounds (timestamp + step) (s.sleep sleepMs)
        (s, timestamp, round :: others)

end Session

end Montage
