import Montage.Media.Pool

/-!
The steps of a request to the pool, and of a load in advance.

A request picks a slot: the one its asset is bound to, or else the one used longest ago among
those that are free and not pinned. When somebody works on the slot the request waits for that, and
then picks anew, a few times at most. A slot just bound is loaded. At last the element is brought to
the right time, unless it is close to it already.

`poll` carries work on as far as it goes without time passing.
-/

namespace Montage

/-- The slot that a request picks. -/
inductive Pick where
  /-- The asset was bound to the slot before. -/
  | kept (slot generation : Nat)
  /-- The slot was just bound to the asset, and its lock is held. -/
  | taken (slot generation : Nat)
  /-- All slots are being worked on; this one may be had first. -/
  | awaited (slot : Nat)

namespace Pool

/-- The slots that may be bound anew, the one used longest ago first. -/
def byAge (p : Pool) (pinned : List Nat) : List Nat :=
  ((List.range p.size).filter fun i => !pinned.contains i).mergeSort fun i j =>
    (p.slot i).lastUsed ≤ (p.slot j).lastUsed

def pick (p : Pool) (task : TaskId) (asset : AssetId) (pinned : List Nat) :
    Pool × Except MediaError Pick :=
  if p.disposed then (p, .error .disposed)
  else
    let p := p.countUse
    match p.slotOf? asset with
    | some i =>
      let p := p.modifySlot i fun s => { s with lastUsed := p.clock }
      (p, .ok (.kept i (p.slot i).generation))
    | none =>
      let candidates := p.byAge pinned
      match candidates.find? p.isFree, candidates with
      | some i, _ =>
        let p := (p.lock i task).bind i asset
        (p, .ok (.taken i (p.slot i).generation))
      | none, i :: _ => (p, .ok (.awaited i))
      | none, [] => (p, .error (.poolExhausted asset))

/-! Loads -/

def beginLoad (p : Pool) (i : Nat) (url : String) : Pool :=
  { p.modifyElement i fun e => e.beginLoad url with
    backend := { p.backend with loads := p.backend.loads + 1 } }

/-- Whether a slot is no longer as it was at `generation`. -/
def isLost (p : Pool) (i generation : Nat) : Bool :=
  p.disposed || (p.slot i).generation != generation

/-- The end of a load. A load that failed leaves the slot unbound. -/
def finishLoad (p : Pool) (i generation : Nat) (asset : AssetId) (url : String) :
    Pool × Except MediaError Unit :=
  if p.isLost i generation then (p, .error (.abandoned asset))
  else
    match (p.element i).loadResult p.backend url with
    | .ok () => (p.modifySlot i Slot.finishLoad, .ok ())
    | .error e => (p.unbind i, .error e)

end Pool

namespace Request

/-- How often a request may pick a slot. -/
def maxPicks : Nat := 4

variable (task : TaskId) (r : Request)

/-- Lets go of the slot and ends. -/
def finish (p : Pool) (i : Nat) (result : Except MediaError Handle) : Pool × Stage :=
  ({ p with agenda := p.agenda.stopTimers task }.unlock i, .done result)

/-- The end of a seek, whether it was over in time or not. -/
def finishSeek (p : Pool) (i generation : Nat) (stale : Bool) : Pool × Stage :=
  finish task p i
    (if p.isLost i generation then .error (.abandoned r.asset.id)
     else .ok ⟨r.asset.id, i, stale⟩)

def seekTarget : Float := Scalar.positivePart r.target

/-- Looks whether the seek is over, and then whether it has taken too long. -/
def pollSeek (p : Pool) (i generation : Nat) (due : Option Nat) (deadline : Nat) : Pool × Stage :=
  let ended := due.any (· ≤ p.now)
  if ended && !p.backend.hanging then
    let p := p.modifyElement i fun e => e.finishSeek p.now r.seekTarget
    finishSeek task r p i generation false
  else if deadline ≤ p.now then finishSeek task r p i generation true
  else (p, .seeking i generation (if ended then none else due) deadline)

/-- Brings a loaded element to the time that is asked for. The lock of the slot is held. -/
def moveToTarget (p : Pool) (i generation : Nat) : Pool × Stage :=
  let drift := Scalar.abs ((p.element i).time p.now - r.seekTarget)
  if drift ≤ p.config.tolerance r.playing then finish task p i (.ok ⟨r.asset.id, i, false⟩)
  else
    let due := p.now + p.backend.seekMs
    let deadline := p.now + p.config.seekTimeoutMs.toNat
    let p := { p with
      backend := { p.backend with seeks := p.backend.seeks + 1 }
      agenda := (p.agenda.sleepUntil task due).sleepUntil task deadline }
    pollSeek task r p i generation (some due) deadline

/-- Looks whether the load is over. -/
def pollLoad (p : Pool) (i generation due : Nat) : Pool × Stage :=
  if due ≤ p.now then
    match p.finishLoad i generation r.asset.id r.asset.url with
    | (p, .ok ()) => moveToTarget task r p i generation
    | (p, .error e) => finish task p i (.error e)
  else (p, .loading i generation due)

/-- Picks a slot and goes on from there, at most `picks` times. -/
def run : Nat → Pool → Pool × Stage
  | 0, p => (p, .done (.error (.abandoned r.asset.id)))
  | picks + 1, p =>
    match p.pick task r.asset.id r.pinned with
    | (p, .error e) => (p, .done (.error e))
    | (p, .ok (.taken i generation)) =>
      let due := p.now + p.backend.loadMs
      let p := p.beginLoad i r.asset.url
      pollLoad task r { p with agenda := p.agenda.sleepUntil task due } i generation due
    | (p, .ok (.kept i generation)) =>
      if p.isFree i then
        let p := p.lock i task
        if (p.slot i).serves r.asset.id generation then moveToTarget task r p i generation
        else run picks (p.unlock i)
      else (p.enqueue i task, .queued i (some generation) picks)
    | (p, .ok (.awaited i)) =>
      if p.isFree i then run picks p else (p.enqueue i task, .queued i none picks)

/-- Goes on once the lock of a slot has been handed over. A request whose slot is not as it was
picks anew. -/
def pollQueued (p : Pool) (i : Nat) (generation : Option Nat) (picks : Nat) : Pool × Stage :=
  if p.holds i task then
    match generation with
    | some g =>
      if (p.slot i).serves r.asset.id g then moveToTarget task r p i g
      else run task r picks (p.unlock i)
    | none => run task r picks (p.unlock i)
  else (p, .queued i generation picks)

def poll (p : Pool) : Stage → Pool × Stage
  | .unstarted =>
    if r.asset.url.isEmpty then (p, .done (.error (.missingSource r.asset.id)))
    else run task r maxPicks p
  | .queued i generation picks => pollQueued task r p i generation picks
  | .loading i generation due => pollLoad task r p i generation due
  | .seeking i generation due deadline => pollSeek task r p i generation due deadline
  | .done result => (p, .done result)

end Request

namespace Warmup

/-- A load in advance ends with its lock given back, whatever came of it. -/
def pollLoad (w : Warmup) (p : Pool) (due : Nat) : Pool × Stage :=
  if due ≤ p.now then
    ((p.finishLoad w.slot w.generation w.asset w.url).1.unlock w.slot, .done)
  else (p, .loading due)

def poll (task : TaskId) (w : Warmup) (p : Pool) : Stage → Pool × Stage
  | .unstarted =>
    let due := p.now + p.backend.loadMs
    let p := p.beginLoad w.slot w.url
    w.pollLoad { p with agenda := p.agenda.sleepUntil task due } due
  | .loading due => w.pollLoad p due
  | .done => (p, .done)

end Warmup

def Work.poll (task : TaskId) (p : Pool) : Work → Pool × Work
  | .request r stage =>
    let (p, stage) := r.poll task p stage
    (p, .request r stage)
  | .warmup w stage =>
    let (p, stage) := w.poll task p stage
    (p, .warmup w stage)

namespace Pool

def work? (p : Pool) (task : TaskId) : Option Work := (p.work.find? (·.1 == task)).map (·.2)

def setWork (p : Pool) (task : TaskId) (w : Work) : Pool :=
  { p with work := p.work.map fun e => if e.1 == task then (task, w) else e }

/-- Carries on the work of a task. -/
def resume (p : Pool) (task : TaskId) : Pool :=
  match p.work? task with
  | none => p
  | some w =>
    let (p, w) := w.poll task p
    p.setWork task w

/-- Takes on a request under a task, without running it. -/
def take (p : Pool) (task : TaskId) (r : Request) : Pool :=
  { p with work := p.work ++ [(task, .request r .unstarted)] }

/-- Takes on a request as a task of its own. -/
def spawn (p : Pool) (r : Request) : TaskId × Pool :=
  let (task, agenda) := p.agenda.start
  (task, { p with agenda }.take task r)

/-- What has come of a request, once it is over. -/
def result? (p : Pool) (task : TaskId) : Option (Except MediaError Handle) :=
  match p.work? task with
  | some (.request _ (.done result)) => some result
  | _ => none

def forget (p : Pool) (task : TaskId) : Pool :=
  { p with work := p.work.filter (·.1 != task) }

/-- Steps that one piece of work may take: a request waits for a few locks, a load and a seek. -/
def stepsEach : Nat := 32

def machine : Machine Pool where
  agenda p := p.agenda
  setAgenda p agenda := { p with agenda }
  resume task p := p.resume task
  bound p := stepsEach * (p.work.length + 1) + p.agenda.size

def isOver (task : TaskId) (p : Pool) : Bool := (p.result? task).isSome

/-- Hands out what has come of a request. -/
def collect (p : Pool) (task : TaskId) : Pool × Option (Except MediaError Handle) :=
  (p.forget task, p.result? task)

/-- Makes a request and waits until it is over. -/
def acquire (p : Pool) (r : Request) : Pool × Option (Except MediaError Handle) :=
  (machine.runUntil (isOver TaskId.main) ((p.take TaskId.main r).resume TaskId.main)).collect
    TaskId.main

/-- Waits until the request of another task is over. All that is ready then still runs before the
main task goes on. -/
def join (p : Pool) (task : TaskId) : Pool × Option (Except MediaError Handle) :=
  (if isOver task p then p else machine.settle (machine.runUntil (isOver task) p)).collect task

end Pool

end Montage
