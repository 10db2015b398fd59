import Montage.Media.Error
import Montage.Scalar

/-!
Media elements: decoders with a source, a clock and a volume, and the backend that they share. The
backend lays down how long loads and seeks take, which sources fail, and whether seeks hang.

All operations are given the present time in milliseconds.
-/

namespace Montage

structure Backend where
  loadMs : Nat := 20
  seekMs : Nat := 5
  failing : List String := []
  hanging : Bool := false
  /-- Loads started so far. -/
  loads : Nat := 0
  /-- Seeks started so far. -/
  seeks : Nat := 0

structure Element where
  source : Option String := none
  /-- Seconds on the clock when it last started or stopped. -/
  position : Float := 0.0
  /-- When the clock last started; none while it stands. -/
  runningSince : Option Nat := none
  rate : Float := 1.0
  volume : Float32 := 1.0
  muted : Bool := false

/-- A span of milliseconds in seconds: whole seconds and nanoseconds apart. -/
def secondsOfMs (ms : Nat) : Float :=
  Float.nearestInt (ms / 1000) + Float.nearestInt (ms % 1000 * 1000000) / 1000000000.0

namespace Element

def isPaused (e : Element) : Bool := e.runningSince.isNone

/-- The clock, in seconds. -/
def time (e : Element) (now : Nat) : Float :=
  match e.runningSince with
  | none => e.position
  | some since => e.position + secondsOfMs (now - since) * e.rate

/-- Moves the clock; it goes on running if it did. -/
def setPosition (e : Element) (now : Nat) (seconds : Float) : Element :=
  { e with position := seconds, runningSince := e.runningSince.map fun _ => now }

/-- Sets the source, before it is known whether it can be loaded. -/
def beginLoad (e : Element) (url : String) : Element :=
  { e with source := some url, position := 0.0, runningSince := none }

/-- What becomes of a load when its time is over. -/
def loadResult (e : Element) (b : Backend) (url : String) : Except MediaError Unit :=
  if url.isEmpty || b.failing.contains url then
    .error (.loadFailed url "unsupported or unreachable source")
  else if e.source = some url then .ok ()
  else .error (.loadFailed url "load aborted")

def unload (e : Element) : Element :=
  { e with source := none, position := 0.0, runningSince := none }

def pause (e : Element) (now : Nat) : Element :=
  { e with position := e.time now, runningSince := none }

def play (e : Element) (now : Nat) : Except MediaError Element :=
  match e.source, e.runningSince with
  | none, _ => .error (.playbackRejected "no source bound")
  | some _, none => .ok { e with runningSince := some now }
  | some _, some _ => .ok e

/-- The end of a seek. There is no time before the start. -/
def finishSeek (e : Element) (now : Nat) (seconds : Float) : Element :=
  e.setPosition now (Scalar.positivePart seconds)

def setRate (e : Element) (now : Nat) (rate : Float) : Element :=
  { e.setPosition now (e.time now) with rate }

def setVolume (e : Element) (volume : Float32) : Element :=
  { e with volume := Scalar.clamp volume 0.0 1.0 }

def setMuted (e : Element) (muted : Bool) : Element := { e with muted }

/-- Speeds no further apart than this are the same. -/
def rateSlack : Float := 1e-3

/-- Volumes no further apart than this are the same. -/
def volumeSlack : Float32 := Float32.ofQuotient false 1 8388608

/-- Brings speed and play state in line with the transport. -/
def follow (e : Element) (now : Nat) (playing : Bool) (rate : Float) :
    Element × Except MediaError Unit :=
  let e := if rateSlack < Scalar.abs (e.rate - rate) then e.setRate now rate else e
  match playing, e.isPaused with
  | true, true =>
    match e.play now with
    | .ok e => (e, .ok ())
    | .error err => (e, .error err)
  | false, false => (e.pause now, .ok ())
  | _, _ => (e, .ok ())

def setGain (e : Element) (volume : Float32) (muted : Bool) : Element :=
  let e := if volumeSlack < Scalar.abs (e.volume - volume) then e.setVolume volume else e
  if e.muted = muted then e else e.setMuted muted

end Element

end Montage
