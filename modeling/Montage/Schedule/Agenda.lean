/-!
Work that waits, and when it may go on.

Time is counted in whole milliseconds and moves only when nothing can run. A task that is ready
runs until it has to wait again. When a new instant begins the main task goes first, if it is ready;
then the others go, in the order in which they became ready, until none is left; and then it is the
main task's turn again.
-/

namespace Montage

/-- Names a task. The main one has number 0. -/
abbrev TaskId := Nat

def TaskId.main : TaskId := 0

structure Timer where
  due : Nat
  task : TaskId

structure Agenda where
  now : Nat := 0
  /-- In the order in which they were started. -/
  timers : List Timer := []
  ready : List TaskId := []
  /-- Whether no task has run at this instant yet. -/
  fresh : Bool := false
  /-- The number of the last task that was started. -/
  started : TaskId := TaskId.main

namespace Agenda

/-- Starts a task; it runs when its turn comes. -/
def start (a : Agenda) : TaskId × Agenda :=
  (a.started + 1, { a with started := a.started + 1, ready := a.ready ++ [a.started + 1] })

/-- Makes a task ready that may be so already. -/
def wake (a : Agenda) (task : TaskId) : Agenda :=
  if a.ready.contains task then a else { a with ready := a.ready ++ [task] }

/-- Starts a timer; a time that has come needs none. -/
def sleepUntil (a : Agenda) (task : TaskId) (due : Nat) : Agenda :=
  if a.now < due then { a with timers := a.timers ++ [⟨due, task⟩] } else a

/-- Takes a task out of those that are ready. -/
def unready (a : Agenda) (task : TaskId) : Agenda := { a with ready := a.ready.filter (· != task) }

/-- Stops all timers of a task. -/
def stopTimers (a : Agenda) (task : TaskId) : Agenda :=
  { a with timers := a.timers.filter (·.task != task) }

/-- The task whose turn it is. -/
def next? (a : Agenda) : Option (TaskId × Agenda) :=
  let give (task : TaskId) := some (task, { a.unready task with fresh := false })
  let mainReady := a.ready.contains TaskId.main
  if a.fresh && mainReady then give TaskId.main
  else
    match a.ready.find? (· != TaskId.main) with
    | some task => give task
    | none => if mainReady then give TaskId.main else none

/-- The time of the next timer. -/
def nextDue? (a : Agenda) : Option Nat := (a.timers.map (·.due)).min?

/-- Goes on to the next timer; the tasks of all timers due then are ready. -/
def advance? (a : Agenda) : Option Agenda :=
  match a.nextDue? with
  | none => none
  | some due =>
    let later := { a with
      now := max a.now due
      fresh := true
      timers := a.timers.filter (due < ·.due) }
    some ((a.timers.filter (·.due ≤ due)).foldl (fun a t => a.wake t.task) later)

/-- How many timers and ready tasks there are. -/
def size (a : Agenda) : Nat := a.timers.length + a.ready.length

end Agenda

/-- A world in which tasks run, each of them up to its next wait. -/
structure Machine (σ : Type) where
  agenda : σ → Agenda
  setAgenda : σ → Agenda → σ
  resume : TaskId → σ → σ
  /-- The work at hand takes no more steps than this. -/
  bound : σ → Nat

namespace Machine

variable {σ : Type}

/-- Runs the task whose turn it is, if any is ready. -/
def runNext? (m : Machine σ) (s : σ) : Option σ :=
  (m.agenda s).next?.map fun (task, a) => m.resume task (m.setAgenda s a)

/-- Runs a task, or lets time pass. Nothing is left to do when there is no timer either. -/
def step? (m : Machine σ) (s : σ) : Option σ :=
  match m.runNext? s with
  | some s => some s
  | none => (m.agenda s).advance?.map (m.setAgenda s)

/-- Takes steps until `stop` holds, `fuel` of them at most. -/
def runFor (m : Machine σ) (stop : σ → Bool) : Nat → σ → σ
  | 0, s => s
  | fuel + 1, s =>
    if stop s then s
    else
      match m.step? s with
      | none => s
      | some s => runFor m stop fuel s

/-- Takes steps until `stop` holds or nothing is left to do. -/
def runUntil (m : Machine σ) (stop : σ → Bool) (s : σ) : σ := m.runFor stop (m.bound s) s

def settleFor (m : Machine σ) : Nat → σ → σ
  | 0, s => s
  | fuel + 1, s =>
    match m.runNext? s with
    | none => s
    | some s => settleFor m fuel s

/-- Runs all that is ready, without letting time pass. -/
def settle (m : Machine σ) (s : σ) : σ := m.settleFor (m.bound s) s

/-- Lets the main task sleep until some time. -/
def sleepUntil (m : Machine σ) (due : Nat) (s : σ) : σ :=
  let s := m.runUntil (fun s => due ≤ (m.agenda s).now)
    (m.setAgenda s ((m.agenda s).sleepUntil TaskId.main due))
  m.setAgenda s ((m.agenda s).unready TaskId.main)

/-- Lets the main task sleep for some milliseconds. -/
def sleep (m : Machine σ) (ms : Nat) (s : σ) : σ := m.sleepUntil ((m.agenda s).now + ms) s

end Machine

end Montage
