import Montage.Media.Element
import Montage.Schedule.Agenda

/-!
Slots of the media pool: an element, what is known of the asset it is bound to, and a lock for the
work on it. A lock is fair: when it is let go of, the task that has waited longest holds it at once.
-/

namespace Montage

structure Lock where
  holder : Option TaskId := none
  /-- Tasks that want the lock, first come first. -/
  waiting : List TaskId := []

namespace Lock

def isFree (l : Lock) : Bool := l.holder.isNone

def take (l : Lock) (task : TaskId) : Lock := { l with holder := some task }

def enqueue (l : Lock) (task : TaskId) : Lock := { l with waiting := l.waiting ++ [task] }

/-- Hands the lock on. -/
def release (l : Lock) : Lock :=
  match l.waiting with
  | [] => {}
  | task :: rest => ⟨some task, rest⟩

end Lock

structure Slot where
  asset : Option AssetId := none
  loading : Bool := false
  prepared : Bool := false
  /-- The time of the last use by the pool's count of uses; nought for a slot not bound. -/
  lastUsed : Nat := 0
  /-- Grows with every change of what the slot is bound to. -/
  generation : Nat := 0
  element : Element := {}
  lock : Lock := {}

namespace Slot

/-- Whether the slot is still bound as it was at `generation`, with the asset loaded. -/
def serves (s : Slot) (asset : AssetId) (generation : Nat) : Bool :=
  s.generation == generation && s.prepared && !s.loading && s.asset == some asset

def unloadElement (s : Slot) (now : Nat) : Slot :=
  { s with element := (s.element.pause now).unload }

def bind (s : Slot) (now : Nat) (asset : AssetId) (use : Nat) : Slot :=
  { s.unloadElement now with
    asset := some asset
    loading := true
    prepared := false
    lastUsed := use
    generation := s.generation + 1 }

def unbind (s : Slot) (now : Nat) : Slot :=
  { s.unloadElement now with
    asset := none
    loading := false
    prepared := false
    lastUsed := 0
    generation := s.generation + 1 }

def finishLoad (s : Slot) : Slot := { s with loading := false, prepared := true }

end Slot

end Montage
