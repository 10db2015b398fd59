import Montage.Media.Element
import Montage.Schedule.Agenda

/-!
Elements on their own, without a pool: loads and seeks that run side by side.
-/

namespace Montage

/-- Work on one element. -/
inductive ElementWork where
  | load (element : Nat) (url : String)
  /-- A seek that is given up after `limit` milliseconds. -/
  | seek (element : Nat) (seconds : Float) (limit : Nat)

inductive ElementWork.Result where
  | loaded (result : Except MediaError Unit)
  | sought (inTime : Bool)

inductive ElementWork.Stage where
  | unstarted
  /-- Waits up to `due`, or for ever, and gives up at the deadline. -/
  | waiting (due : Option Nat) (deadline : Option Nat)
  | done (result : ElementWork.Result)

structure Bench where
  elements : List Element
  backend : Backend
  agenda : Agenda := {}
  work : List (TaskId × ElementWork × ElementWork.Stage) := []

namespace Bench

def new (count : Nat) (backend : Backend) : Bench :=
  { elements := List.replicate count {}, backend }

def now (b : Bench) : Nat := b.agenda.now

def element (b : Bench) (i : Nat) : Element := b.elements[i]?.getD {}

def modifyElement (b : Bench) (i : Nat) (f : Element → Element) : Bench :=
  { b with elements := b.elements.modify i f }

end Bench

namespace ElementWork

/-- Starts the load or the seek, and the timers it needs. -/
def begin (task : TaskId) (b : Bench) : ElementWork → Bench × Stage
  | load i url =>
    let due := b.now + b.backend.loadMs
    let b := b.modifyElement i fun e => e.beginLoad url
    ({ b with
        backend := { b.backend with loads := b.backend.loads + 1 }
        agenda := b.agenda.sleepUntil task due }, .waiting (some due) none)
  | seek _ _ limit =>
    let due := b.now + b.backend.seekMs
    let deadline := b.now + limit
    ({ b with
        backend := { b.backend with seeks := b.backend.seeks + 1 }
        agenda := (b.agenda.sleepUntil task due).sleepUntil task deadline },
      .waiting (some due) (some deadline))

/-- Looks whether the work is over, and then whether it has taken too long. -/
def pollWaiting (task : TaskId) (b : Bench) (due deadline : Option Nat) :
    ElementWork → Bench × Stage
  | load i url =>
    if due.any (· ≤ b.now) then (b, .done (.loaded ((b.element i).loadResult b.backend url)))
    else (b, .waiting due deadline)
  | seek i seconds _ =>
    let ended := due.any (· ≤ b.now)
    let stopped := { b with agenda := b.agenda.stopTimers task }
    if ended && !b.backend.hanging then
      (stopped.modifyElement i fun e => e.finishSeek b.now seconds, .done (.sought true))
    else if deadline.any (· ≤ b.now) then (stopped, .done (.sought false))
    else (b, .waiting (if ended then none else due) deadline)

def poll (task : TaskId) (w : ElementWork) (b : Bench) : Stage → Bench × Stage
  | .unstarted =>
    match w.begin task b with
    | (b, .waiting due deadline) => w.pollWaiting task b due deadline
    | other => other
  | .waiting due deadline => w.pollWaiting task b due deadline
  | .done result => (b, .done result)

end ElementWork

namespace Bench

def resume (b : Bench) (task : TaskId) : Bench :=
  match b.work.find? (·.1 == task) with
  | none => b
  | some (_, w, stage) =>
    let (b, stage) := w.poll task b stage
    { b with work := b.work.map fun e => if e.1 == task then (task, w, stage) else e }

def take (b : Bench) (task : TaskId) (w : ElementWork) : Bench :=
  { b with work := b.work ++ [(task, w, .unstarted)] }

def spawn (b : Bench) (w : ElementWork) : TaskId × Bench :=
  let (task, agenda) := b.agenda.start
  (task, { b with agenda }.take task w)

def result? (b : Bench) (task : TaskId) : Option ElementWork.Result :=
  match b.work.find? (·.1 == task) with
  | some (_, _, .done result) => some result
  | _ => none

def forget (b : Bench) (task : TaskId) : Bench :=
  { b with work := b.work.filter (·.1 != task) }

def machine : Machine Bench where
  agenda b := b.agenda
  setAgenda b agenda := { b with agenda }
  resume task b := b.resume task
  bound b := 8 * (b.work.length + 1) + b.agenda.size

def isOver (task : TaskId) (b : Bench) : Bool := (b.result? task).isSome

/-- Hands out what has come of some work. -/
def collect (b : Bench) (task : TaskId) : Bench × Option ElementWork.Result :=
  (b.forget task, b.result? task)

/-- Does some work and waits until it is over. -/
def perform (b : Bench) (w : ElementWork) : Bench × Option ElementWork.Result :=
  (machine.runUntil (isOver TaskId.main) ((b.take TaskId.main w).resume TaskId.main)).collect
    TaskId.main

/-- Waits until the work of another task is over. All that is ready then still runs before the
main task goes on. -/
def join (b : Bench) (task : TaskId) : Bench × Option ElementWork.Result :=
  (if isOver task b then b else machine.settle (machine.runUntil (isOver task) b)).collect task

end Bench

end Montage
