import Montage.Playback.FrameRequests
import Montage.Playback.State
import Montage.Time.Rate

/-!
The transport: play, pause, stop and seek, and the way of the playhead while playing.

Time since the last callback of the display is saved up, and each whole frame that it pays for
moves the playhead on by one. A callback moves it by a limited number of frames only, so that a
long stall does not make the picture jump; the time left over stays saved up.

Whoever listens is told of frames and of changes of state, in the order in which they happen.
-/

namespace Montage

/-- Names one listener: a callback or a subscription. -/
abbrev ListenerId := Nat

structure Transport (τ : Type) where
  config : TransportConfig τ
  host : Host
  frameRate : FrameRate
  duration : Frame
  state : TransportState
  /-- Speed, 1 being normal. -/
  rate : τ
  volume : Float32
  muted : Bool
  /-- Milliseconds that no frame has been shown for yet. -/
  saved : τ
  lastTimestamp : Option τ
  /-- The request for the next callback. -/
  pending : Option RequestId
  onFrame : List ListenerId
  onState : List ListenerId
  subscribers : List ListenerId
  /-- What listeners have been told, oldest first. -/
  told : List (ListenerId × TransportEvent)

namespace Transport

variable {τ : Type}

/-- Time short of a frame by no more than this many milliseconds still pays for it. -/
def slack [Scalar τ] : τ := 1e-6

/-- A rate that is of no use for timing gives way to 30 frames per second. -/
def new [Scalar τ] (config : TransportConfig τ) (host : Host) (frameRate : FrameRate)
    (duration : Frame) : Transport τ where
  config := config
  host := host
  frameRate := if frameRate.isValid then frameRate else .fps30
  duration := duration
  state := .stopped
  rate := 1.0
  volume := 1.0
  muted := false
  saved := 0.0
  lastTimestamp := none
  pending := none
  onFrame := []
  onState := []
  subscribers := []
  told := []

def playhead (t : Transport τ) : Frame := t.host.playhead

/-! Telling listeners -/

/-- Callbacks hear of an event before subscribers do. -/
def tell (t : Transport τ) (callbacks : List ListenerId) (e : TransportEvent) : Transport τ :=
  { t with told := t.told ++ (callbacks ++ t.subscribers).map fun id => (id, e) }

def moveTo (t : Transport τ) (frame : Frame) : Transport τ :=
  { t with host := { t.host with playhead := frame } }.tell t.onFrame (.frame frame)

/-- Nothing happens when the state is the same as before. -/
def enter (t : Transport τ) (state : TransportState) : Transport τ :=
  if t.state = state then t else { t with state }.tell t.onState (.state state)

def listenFrames (t : Transport τ) (id : ListenerId) : Transport τ :=
  { t with onFrame := t.onFrame ++ [id] }

def listenState (t : Transport τ) (id : ListenerId) : Transport τ :=
  { t with onState := t.onState ++ [id] }

/-- A subscriber hears of all events. -/
def subscribe (t : Transport τ) (id : ListenerId) : Transport τ :=
  { t with subscribers := t.subscribers ++ [id] }

def unsubscribe (t : Transport τ) (id : ListenerId) : Transport τ :=
  { t with subscribers := t.subscribers.filter (· != id) }

/-- What has been told since the last call. -/
def takeTold (t : Transport τ) : List (ListenerId × TransportEvent) × Transport τ :=
  (t.told, { t with told := [] })

/-! Requests for callbacks -/

def requestTick (t : Transport τ) : Transport τ :=
  let (id, host) := t.host.request
  { t with host, pending := some id }

def cancelTick (t : Transport τ) : Transport τ :=
  match t.pending with
  | none => t
  | some id => { t with host := t.host.cancel id, pending := none }

variable [Scalar τ]

/-! Controls -/

/-- From the end of the timeline playback starts anew; an empty timeline does not play. -/
def play (t : Transport τ) : Transport τ :=
  if t.state = .playing ∨ t.duration = 0 then t
  else
    let t := if t.duration ≤ t.playhead then t.moveTo 0 else t
    { t with saved := 0.0, lastTimestamp := none }.requestTick.enter .playing

omit [Scalar τ] in
def pause (t : Transport τ) : Transport τ :=
  if t.state = .playing then t.cancelTick.enter .paused else t

/-- Goes back to the first frame. -/
def stop (t : Transport τ) : Transport τ :=
  let t := t.cancelTick
  let t := if t.playhead = 0 then t else t.moveTo 0
  { t with saved := 0.0 }.enter .stopped

def toggle (t : Transport τ) : Transport τ := if t.state = .playing then t.pause else t.play

/-- Moves the playhead, at most to the end of the timeline. -/
def seek (t : Transport τ) (frame : Frame) : Transport τ :=
  { t with saved := 0.0 }.moveTo (if t.duration ≤ frame then t.duration else frame)

/-- Sets the speed within the bounds. What is not finite is ignored. -/
def setRate (t : Transport τ) (rate : τ) : Except Fault (Transport τ) :=
  if !Scalar.isFinite rate then .ok t
  else if t.config.minRate ≤ t.config.maxRate then
    .ok { t with rate := Scalar.clamp rate t.config.minRate t.config.maxRate }
  else .error .emptyRange

omit [Scalar τ] in
/-- Sets the volume from 0 to 1. What is not finite is ignored. -/
def setVolume (t : Transport τ) (volume : Float32) : Transport τ :=
  if volume.isFinite then { t with volume := Scalar.clamp volume 0.0 1.0 } else t

omit [Scalar τ] in
def setMuted (t : Transport τ) (muted : Bool) : Transport τ := { t with muted }

omit [Scalar τ] in
/-- Takes on another timeline. A rate of no use is ignored; a playhead past the new end goes
there. -/
def setTimeline (t : Transport τ) (frameRate : FrameRate) (duration : Frame) : Transport τ :=
  let t := { t with
    frameRate := if frameRate.isValid then frameRate else t.frameRate
    duration }
  if duration < t.playhead then t.moveTo duration else t

omit [Scalar τ] in
/-- Lets go of the pending request and of all who listen. -/
def dispose (t : Transport τ) : Transport τ :=
  { t.cancelTick with
    state := if t.state = .playing then .paused else t.state
    onFrame := []
    onState := []
    subscribers := [] }

/-! Callbacks of the display -/

/-- Milliseconds of wall-clock time that a frame lasts at the present speed. -/
def msPerFrame (t : Transport τ) : τ := t.frameRate.intervalMs / t.rate

/-- Goes on by one frame after another while the time saved up pays for it, `budget` frames at
most, and counts them on from `advanced`. -/
def spend (ms : τ) : Nat → Nat → Transport τ → Transport τ × Except Fault Nat
  | 0, advanced, t => (t, .ok advanced)
  | budget + 1, advanced, t =>
    if ms ≤ t.saved + slack then
      let t := { t with saved := t.saved - ms }
      if t.playhead = Frame.last then (t, .error .overflow)
      else
        let next := t.playhead + 1
        let frame := if t.duration ≤ next then t.duration else next
        let t := t.moveTo frame
        if t.duration ≤ frame then (t, .ok (advanced + 1)) else spend ms budget (advanced + 1) t
    else (t, .ok advanced)

/-- Saves up the time since the last callback. Time that runs backwards counts as none. -/
def save (t : Transport τ) (timestamp : τ) : Transport τ :=
  let passed := match t.lastTimestamp with
    | some previous => Scalar.positivePart (timestamp - previous)
    | none => 0.0
  { t with pending := none, lastTimestamp := some timestamp, saved := t.saved + passed }

/-- Pauses at the end of the timeline, and asks for the next callback anywhere else. -/
def settle (t : Transport τ) : Transport τ :=
  if t.duration ≤ t.playhead then { t with saved := 0.0 }.enter .paused else t.requestTick

/-- Takes a callback of the display and tells how many frames it has advanced. A callback other
than the one asked for is ignored. -/
def callback (t : Transport τ) (id : RequestId) (timestamp : τ) :
    Transport τ × Except Fault Nat :=
  if t.state = .playing ∧ t.pending = some id then
    let t := t.save timestamp
    match spend t.msPerFrame t.config.maxFramesPerTick.toNat 0 t with
    | (t, .ok advanced) => (t.settle, .ok advanced)
    | (t, .error f) => (t, .error f)
  else (t, .ok 0)

/-- Takes callbacks one after the other and tells how many frames each has advanced. A fault ends
that. -/
def deliver (timestamp : τ) : List RequestId → Transport τ → Transport τ × Except Fault (List Nat)
  | [], t => (t, .ok [])
  | id :: rest, t =>
    match t.callback id timestamp with
    | (t, .error f) => (t, .error f)
    | (t, .ok n) =>
      let (t, ns) := deliver timestamp rest t
      (t, ns.map (n :: ·))

/-- One frame of the display: all that is pending is called back. -/
def tick (t : Transport τ) (timestamp : τ) : Transport τ × Except Fault (List Nat) :=
  let (ids, host) := t.host.take
  { t with host }.deliver timestamp ids

/-- Frames of the display, `step` milliseconds apart, and how many frames each has advanced. -/
def ticks (step : τ) : Nat → τ → Transport τ → Transport τ × Except Fault (List Nat)
  | 0, _, t => (t, .ok [])
  | n + 1, timestamp, t =>
    match t.tick timestamp with
    | (t, .error f) => (t, .error f)
    | (t, .ok advanced) =>
      let (t, sums) := ticks step n (timestamp + step) t
      (t, sums.map (advanced.sum :: ·))

/-! Settings -/

omit [Scalar τ] in
def isPlaying (t : Transport τ) : Bool := t.state == .playing

def playback (t : Transport Float) : PlaybackState :=
  { isPlaying := t.isPlaying, rate := t.rate, volume := t.volume, muted := t.muted }

/-- The playhead in seconds. -/
def position (t : Transport Float) : Except Fault Float := t.frameRate.secondsOf t.playhead

/-- The duration in seconds. -/
def length (t : Transport Float) : Except Fault Float := t.frameRate.secondsOf t.duration

end Transport

end Montage
