import Montage.Media.Config
import Montage.Media.Slot
import Montage.Timeline.Asset

/-!
The media pool: a fixed number of elements for any number of assets.

An asset that is needed is bound to a slot. When no slot is left, the one whose last use is longest
ago is bound anew. Loads and seeks take time, and in the meantime a slot may be taken away; the
generation of the slot tells whoever comes back whether that has happened.

Work on a slot is done under the slot's lock. Whoever binds a slot holds its lock until the load is
over, so a second request for the asset waits for the load.

A pool carries the work it has taken on. Work is a value that says what it waits for; `Request`
holds the steps it goes through.
-/

namespace Montage

/-- An element that is loaded and in position for whoever asked. -/
structure Handle where
  asset : AssetId
  slot : Nat
  /-- The seek was not over in time; an earlier picture may still be shown. -/
  stale : Bool
  deriving DecidableEq

/-- A request for an element that shows an asset at a time. -/
structure Request where
  asset : MediaAsset
  /-- Position in the source, in seconds. -/
  target : Float
  playing : Bool
  /-- Slots that may not be bound anew. -/
  pinned : List Nat

/-- How far a request has come, and what it waits for. `picks` counts the slots it may still
pick. -/
inductive Request.Stage where
  | unstarted
  /-- Waits for the lock of a slot; with a generation to use the slot as it is bound. -/
  | queued (slot : Nat) (generation : Option Nat) (picks : Nat)
  /-- Holds the lock and waits for the load. -/
  | loading (slot generation due : Nat)
  /-- Holds the lock and waits for the seek, for `deadline` at the latest. A seek that hangs is
  never due. -/
  | seeking (slot generation : Nat) (due : Option Nat) (deadline : Nat)
  | done (result : Except MediaError Handle)

/-- A load in advance into a slot that is already bound and locked. -/
structure Warmup where
  asset : AssetId
  url : String
  slot : Nat
  generation : Nat

inductive Warmup.Stage where
  | unstarted
  | loading (due : Nat)
  | done

inductive Work where
  | request (r : Request) (stage : Request.Stage)
  | warmup (w : Warmup) (stage : Warmup.Stage)

structure Pool where
  config : PoolConfig
  slots : List Slot
  /-- Counts uses of slots. -/
  clock : Nat
  disposed : Bool
  /-- Whether anybody carries on work in the background. -/
  attended : Bool
  backend : Backend
  agenda : Agenda
  work : List (TaskId × Work)

namespace Pool

def new (config : PoolConfig) (backend : Backend) : Pool where
  config := config
  slots := List.replicate (max config.poolSize.toNat 1) {}
  clock := 0
  disposed := false
  attended := true
  backend := backend
  agenda := {}
  work := []

def size (p : Pool) : Nat := p.slots.length

def now (p : Pool) : Nat := p.agenda.now

def modifySlot (p : Pool) (i : Nat) (f : Slot → Slot) : Pool :=
  { p with slots := p.slots.modify i f }

/-- Changes the element of a slot. -/
def modifyElement (p : Pool) (i : Nat) (f : Element → Element) : Pool :=
  p.modifySlot i fun s => { s with element := f s.element }

def slot (p : Pool) (i : Nat) : Slot := p.slots[i]?.getD {}

def element (p : Pool) (i : Nat) : Element := (p.slot i).element

/-- The slot bound to an asset. -/
def slotOf? (p : Pool) (asset : AssetId) : Option Nat :=
  p.slots.findIdx? fun s => s.asset == some asset

def countUse (p : Pool) : Pool := { p with clock := p.clock + 1 }

/-! Locks -/

def isFree (p : Pool) (i : Nat) : Bool := (p.slot i).lock.isFree

def holds (p : Pool) (i : Nat) (task : TaskId) : Bool := (p.slot i).lock.holder == some task

def lock (p : Pool) (i : Nat) (task : TaskId) : Pool :=
  p.modifySlot i fun s => { s with lock := s.lock.take task }

def enqueue (p : Pool) (i : Nat) (task : TaskId) : Pool :=
  p.modifySlot i fun s => { s with lock := s.lock.enqueue task }

/-- Lets go of a lock; whoever gets it is ready. -/
def unlock (p : Pool) (i : Nat) : Pool :=
  let next := (p.slot i).lock.release
  let p := p.modifySlot i fun s => { s with lock := next }
  match next.holder with
  | none => p
  | some task => { p with agenda := p.agenda.wake task }

/-! Binding -/

def bind (p : Pool) (i : Nat) (asset : AssetId) : Pool :=
  p.modifySlot i fun s => s.bind p.now asset p.clock

def unbind (p : Pool) (i : Nat) : Pool := p.modifySlot i fun s => s.unbind p.now

/-- Takes an asset out of the pool, and tells whether it was there. -/
def release (p : Pool) (asset : AssetId) : Bool × Pool :=
  match p.slotOf? asset with
  | some i => (true, p.unbind i)
  | none => (false, p)

/-- Takes all assets out of the pool. Work under way comes back to a later generation. -/
def reset (p : Pool) : Pool :=
  { p with slots := p.slots.map fun s => s.unbind p.now, clock := 0 }

/-- A pool that is disposed of takes on no more work. -/
def dispose (p : Pool) : Pool := { p.reset with disposed := true }

/-- Pauses the elements of all assets but the given ones. -/
def pauseExcept (p : Pool) (active : List AssetId) : Pool :=
  { p with slots := p.slots.map fun s =>
      match s.asset with
      | none => s
      | some asset =>
        if active.contains asset || s.element.isPaused then s
        else { s with element := s.element.pause p.now } }

/-- Slots that are bound, loading and prepared. -/
def countBound (p : Pool) : Nat := p.slots.countP (·.asset.isSome)

def countLoading (p : Pool) : Nat := p.slots.countP (·.loading)

def countPrepared (p : Pool) : Nat := p.slots.countP (·.prepared)

/-! Loading in advance -/

/-- A slot that was not used since it was last bound and that nobody works on. -/
def idleSlot? (p : Pool) : Option Nat :=
  p.slots.findIdx? fun s => s.asset.isNone && s.lastUsed == 0 && s.lock.isFree

/-- Whether loading an asset in advance makes sense. -/
def wantsWarmup (p : Pool) (id : AssetId) (asset : MediaAsset) : Bool :=
  (p.slotOf? id).isNone && asset.needsElement && !asset.url.isEmpty

/-- Binds a slot and starts the task that loads it. -/
def startWarmup (p : Pool) (i : Nat) (id : AssetId) (url : String) : Pool :=
  let p := p.countUse.bind i id
  let (task, agenda) := p.agenda.start
  let p := { p with agenda }.lock i task
  let w : Warmup := ⟨id, url, i, (p.slot i).generation⟩
  { p with work := p.work ++ [(task, .warmup w .unstarted)] }

/-- Goes through the assets, at most `budget` of which are loaded, and counts them on from
`started`. The first that finds no slot ends it. -/
def warmUp (lookup : AssetId → Option MediaAsset) : Nat → List AssetId → Nat → Pool → Nat × Pool
  | _, [], started, p => (started, p)
  | 0, _, started, p => (started, p)
  | budget + 1, id :: rest, started, p =>
    match lookup id with
    | none => warmUp lookup (budget + 1) rest started p
    | some asset =>
      if p.wantsWarmup id asset then
        match p.idleSlot? with
        | none => (started, p)
        | some i => warmUp lookup budget rest (started + 1) (p.startWarmup i id asset.url)
      else warmUp lookup (budget + 1) rest started p

/-- Loads upcoming assets into slots that nothing is bound to, and tells how many loads were
started. -/
def preloadFrom (p : Pool) (upcoming : List AssetId) (lookup : AssetId → Option MediaAsset) :
    Nat × Pool :=
  if !p.attended || p.disposed then (0, p)
  else warmUp lookup p.config.preloadCount.toNat upcoming 0 p

def preload (p : Pool) (upcoming : List AssetId) (assets : AssetTable) : Nat × Pool :=
  p.preloadFrom upcoming assets.find?

end Pool

end Montage
