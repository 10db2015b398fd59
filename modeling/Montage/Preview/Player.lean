import Montage.Preview.Session
import Montage.Timeline.Document

/-!
Plays a timeline for some time and sums up what the preview did.

A ticker stands in for the display. Its ticks are due at whole periods after the start; a tick that
is served late by more than a few milliseconds makes the ticker leave out those that have passed.
Spans are counted in nanoseconds, and waking up takes place on whole milliseconds.
-/

namespace Montage

structure PlayOptions where
  /-- How long to play for. -/
  seconds : Float := 5.0
  rate : Float := 1.0
  /-- The frame to start from. -/
  start : Frame := 0
  /-- Frames of the display in a second. -/
  refreshHz : Float := 60.0

structure PlaySummary where
  framesAdvanced : Nat := 0
  finalFrame : Frame := 0
  evaluations : Nat := 0
  superseded : Nat := 0
  clipFailures : Nat := 0
  staleFrames : Nat := 0
  maxLayers : Nat := 0
  preloads : Nat := 0
  loads : Nat := 0
  seeks : Nat := 0

namespace PlaySummary

def record (s : PlaySummary) : Evaluation → PlaySummary
  | .applied report => { s with
      evaluations := s.evaluations + 1
      clipFailures := s.clipFailures + report.failures.length
      staleFrames := s.staleFrames + report.stale.length
      maxLayers := max s.maxLayers report.layers
      preloads := s.preloads + report.preloads }
  | .superseded .. => { s with superseded := s.superseded + 1 }

/-- Adds the outcome of a refresh; its error ends the run. -/
def add (s : PlaySummary) : Session.Refreshed → Except PreviewError PlaySummary
  | .error e => .error e
  | .ok none => .ok s
  | .ok (some evaluation) => .ok (s.record evaluation)

def text (s : PlaySummary) : String :=
  s!"frames advanced: {s.framesAdvanced}\n"
    ++ s!"final frame:     {s.finalFrame}\n"
    ++ s!"evaluations:     {s.evaluations} ({s.superseded} superseded)\n"
    ++ s!"max layers:      {s.maxLayers}\n"
    ++ s!"clip failures:   {s.clipFailures} ({s.staleFrames} stale frames)\n"
    ++ s!"media:           {s.loads} loads, {s.seeks} seeks, {s.preloads} preloads"

end PlaySummary

/-- A span of seconds in nanoseconds, a tie going to the even one. -/
def nanosOfSeconds (x : Float) : Except Fault Nat :=
  match x.reading with
  | .finite b =>
    if x < 0.0 ∨ 18446744073709551616.0 ≤ x then .error .unrepresentableSpan
    else .ok (b.toInt .halfEven 1000000000).toNat
  | _ => .error .unrepresentableSpan

/-- A clock that ticks at whole periods. Times are in nanoseconds. -/
structure Ticker where
  period : Nat
  due : Nat

namespace Ticker

/-- A tick served later than this many nanoseconds leaves out ticks. -/
def tolerance : Nat := 5000000

/-- The first tick is due at once. -/
def start (now : Nat) (refreshHz : Float) : Except Fault Ticker := do
  let period ← nanosOfSeconds (1.0 / refreshHz)
  if period = 0 then throw .zeroInterval
  return { period, due := now }

/-- The first whole millisecond at which the next tick has come. -/
def wakeMs (t : Ticker) : Nat := (t.due + 999999) / 1000000

/-- The next tick after one that is served at `now`. -/
def next (t : Ticker) (now : Nat) : Ticker :=
  { t with due :=
      if now ≤ t.due + tolerance then t.due + t.period
      else now + t.period - (now - t.due) % t.period }

end Ticker

/-- A timeline being played. -/
structure Player where
  session : Session
  stats : PlaySummary := {}

namespace Player

def nowNanos (p : Player) : Nat := p.session.now * 1000000

/-- Whether there is anything left to play or to write. -/
def isBusy (p : Player) : Bool :=
  p.session.preview.transport.isPlaying || !p.session.requests.pending.isEmpty

def serveAll (timestamp : Float) (ids : List RequestId) (p : Player) : Except PreviewError Player :=
  ids.foldlM (fun p id => do
    let (session, refreshed) := p.session.callback id timestamp
    return { session, stats := ← p.stats.add refreshed }) p

/-- Waits for a tick and serves it. -/
def serveTick (started : Nat) (t : Ticker) (p : Player) :
    Except PreviewError (Ticker × Player) := do
  let session := p.session.sleepUntil t.wakeMs
  let timestamp := secondsOfMs (session.now - started) * 1000.0
  let (ids, host) := session.preview.transport.host.take
  let session := session.modify fun preview => preview.modifyTransport fun tr => { tr with host }
  let ticker := t.next (session.now * 1000000)
  return (ticker, ← serveAll timestamp ids { p with session })

/-- Serves ticks until the time is over or nothing is left to do. Each tick is due later than the
one before by at least a period, so `fuel` ticks reach the deadline. -/
def loop (started deadline : Nat) : Nat → Ticker → Player → Except PreviewError Player
  | 0, _, p => .ok p
  | fuel + 1, t, p =>
    if p.nowNanos < deadline && p.isBusy then do
      let (t, p) ← p.serveTick started t
      loop started deadline fuel t p
    else .ok p

/-- The name under which the player listens to the transport. -/
def listener : ListenerId := 0

def countFrames (told : List (ListenerId × TransportEvent)) : Nat :=
  told.countP fun e => match e.2 with
    | .frame _ => true
    | .state _ => false

/-- Sets the speed, goes to the first frame to be played, evaluates it and starts to play. -/
def begin (options : PlayOptions) (p : Preview) : Except PreviewError Player := do
  match p.transport.setRate options.rate with
  | .error f => throw (.core (.fault f))
  | .ok transport =>
    let transport := (transport.seek options.start).subscribe listener
    let (session, refreshed) := Session.refresh { preview := { p with transport } }
    let stats ← PlaySummary.add {} refreshed
    return { session := session.modify fun p => p.modifyTransport Transport.play, stats }

def fault {α : Type} : Except Fault α → Except PreviewError α
  | .ok a => .ok a
  | .error f => .error (.core (.fault f))

/-- The end of a span that starts now. A clock has no more than 63 bits for its seconds. -/
def deadlineAfter (p : Player) (seconds : Float) : Except Fault Nat := do
  let span ← nanosOfSeconds seconds
  if 9223372036854775808 * 1000000000 ≤ span then throw .unrepresentableSpan
  return p.nowNanos + span

def finish (p : Player) : Player where
  session := p.session.modify Preview.dispose
  stats := { p.stats with
    framesAdvanced := countFrames p.session.preview.transport.told
    finalFrame := p.session.preview.playhead
    loads := p.session.preview.pool.backend.loads
    seeks := p.session.preview.pool.backend.seeks }

/-- Plays a timeline from the start of the clock. -/
def play (d : Document) (config : PreviewConfig) (options : PlayOptions) :
    Except PreviewError Player := do
  let p ← begin options (.new config {} d.snapshot d.assetTable)
  let deadline ← fault (p.deadlineAfter options.seconds)
  let ticker ← fault (Ticker.start p.nowNanos options.refreshHz)
  let ticks := (deadline - p.nowNanos) / ticker.period + 2
  return (← loop p.session.now deadline ticks ticker p).finish

end Player

end Montage
