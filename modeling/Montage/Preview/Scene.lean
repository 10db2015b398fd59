import Montage.Preview.Pass

/-!
Evaluations on the clock, and what is done to a preview from outside in the meantime.

A cue is done after a delay: it moves the playhead, or takes away what the pool holds. While an
evaluation waits for media, cues and loads in advance go on, each when its time has come.
-/

namespace Montage

inductive PoolCue where
  | reset
  | dispose

/-- Done from outside, `delay` milliseconds after it was given. -/
structure Cue where
  delay : Nat
  playhead : Option Frame := none
  pool : Option PoolCue := none
  release : Option AssetId := none

inductive Cue.Stage where
  | unstarted
  | waiting (due : Nat)
  | done

/-- A cue as a task. -/
structure CueTask where
  task : TaskId
  cue : Cue
  stage : Cue.Stage := .unstarted

namespace Rig

def agenda (r : Rig) : Agenda := r.pool.agenda

def setAgenda (r : Rig) (agenda : Agenda) : Rig := r.modifyPool fun pool => { pool with agenda }

def now (r : Rig) : Nat := r.pool.now

def movePlayhead (r : Rig) (frame : Frame) : Rig :=
  { r with host := { r.host with playhead := frame } }

end Rig

namespace Cue

def act (c : Cue) (r : Rig) : Rig :=
  let r := match c.playhead with
    | some frame => r.movePlayhead frame
    | none => r
  let r := match c.pool with
    | some .reset => r.modifyPool Pool.reset
    | some .dispose => r.modifyPool Pool.dispose
    | none => r
  match c.release with
  | some asset => r.modifyPool fun pool => (pool.release asset).2
  | none => r

def pollWaiting (c : Cue) (r : Rig) (due : Nat) : Rig × Stage :=
  if due ≤ r.now then (c.act r, .done) else (r, .waiting due)

def poll (task : TaskId) (c : Cue) (r : Rig) : Stage → Rig × Stage
  | .unstarted =>
    let due := r.now + c.delay
    c.pollWaiting (r.setAgenda (r.agenda.sleepUntil task due)) due
  | .waiting due => c.pollWaiting r due
  | .done => (r, .done)

end Cue

namespace CueTask

def isDone (t : CueTask) : Bool :=
  match t.stage with
  | .done => true
  | _ => false

def start (r : Rig) (cue : Cue) : Rig × CueTask :=
  let (task, agenda) := r.agenda.start
  (r.setAgenda agenda, { task, cue })

/-- Starts cues, one after the other. -/
def startAll (r : Rig) : List Cue → Rig × List CueTask
  | [] => (r, [])
  | cue :: rest =>
    let (r, first) := start r cue
    let (r, others) := startAll r rest
    (r, first :: others)

/-- Carries on the cue of a task, if it has one. -/
def resume (r : Rig) (task : TaskId) : List CueTask → Rig × List CueTask
  | [] => (r, [])
  | t :: rest =>
    if t.task = task then
      let (r, stage) := t.cue.poll task r t.stage
      (r, { t with stage } :: rest)
    else
      let (r, others) := resume r task rest
      (r, t :: others)

end CueTask

/-- A compositor at its host, with the evaluation that is waited for and the cues given. -/
structure Scene where
  rig : Rig
  step : Option Pass.Step := none
  cues : List CueTask := []

namespace Scene

def ofRig (r : Rig) (cues : List Cue) : Scene :=
  let (rig, cues) := CueTask.startAll r cues
  { rig, cues }

/-- The main task carries on the evaluation, the others a request, a load or a cue. -/
def resume (task : TaskId) (s : Scene) : Scene :=
  if task = TaskId.main then
    match s.step with
    | none => s
    | some step =>
      let (rig, step) := Pass.resume s.rig step
      { s with rig, step := some step }
  else
    let (rig, cues) := CueTask.resume (s.rig.modifyPool fun pool => pool.resume task) task s.cues
    { s with rig, cues }

/-- Clips that the evaluation has yet to come to. -/
def clipsLeft (s : Scene) : Nat :=
  match s.step with
  | some (.waits _ _ _ rest) => rest.length
  | _ => 0

def machine : Machine Scene where
  agenda s := s.rig.agenda
  setAgenda s agenda := { s with rig := s.rig.setAgenda agenda }
  resume := resume
  bound s := Pool.stepsEach * (s.rig.pool.work.length + s.clipsLeft + s.cues.length + 1)
    + s.rig.agenda.size

def result? (s : Scene) : Option (Except PreviewError Evaluation) :=
  match s.step with
  | some (.ended result) => some result
  | _ => none

/-- Evaluates the frame under the playhead, and waits until that is over. -/
def evaluate (s : Scene) (snapshot : Snapshot) (assets : AssetTable) (playback : PlaybackState) :
    Scene :=
  let (rig, step) := s.rig.evaluate snapshot assets playback
  machine.runUntil (fun s => s.result?.isSome) { s with rig, step := some step }

/-- Waits until all cues have been done. -/
def finishCues (s : Scene) : Scene :=
  { machine.runUntil (fun s => s.cues.all CueTask.isDone) s with cues := [] }

def settle (s : Scene) : Scene := machine.settle s

def sleep (ms : Nat) (s : Scene) : Scene := machine.sleep ms s

def sleepUntil (due : Nat) (s : Scene) : Scene := machine.sleepUntil due s

end Scene

end Montage
