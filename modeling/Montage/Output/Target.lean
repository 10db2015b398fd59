import Montage.Output.LayerTree

/-!
The output that batches are applied to. It keeps the layers it shows, and what it has been
told.
-/

namespace Montage

structure Target where
  layers : ClipMap Layer := .empty
  /-- The batches applied so far, the last one first. -/
  history : List Batch := []

namespace Target

/-- A change of a layer that is not shown stays without effect. -/
def write (layers : ClipMap Layer) : LayerChange → ClipMap Layer
  | .create l => layers.insert l.clip l
  | .update clip slot style =>
    match layers.find? clip with
    | none => layers
    | some l => layers.insert clip { l with slot, style }
  | .remove clip => layers.erase clip

def apply (t : Target) (b : Batch) : Target where
  layers := b.ops.foldl write t.layers
  history := b :: t.history

/-- How many batches there have been. -/
def batches (t : Target) : Nat := t.history.length

/-- The batches after the first `count`. -/
def batchesAfter (t : Target) (count : Nat) : List Batch :=
  (t.history.take (t.batches - count)).reverse

/-- How many single changes there have been. -/
def writes (t : Target) : Nat := t.history.foldl (fun n b => n + b.ops.length) 0

def lastFrame? (t : Target) : Option Frame := t.history.head?.map (·.frame)

/-- The order in which layers are drawn. -/
def below (a b : Layer) : Ordering :=
  (Ord.compare a.style.zIndex b.style.zIndex).then (Ord.compare a.clip.rank b.clip.rank)

/-- The layers from the bottom up. -/
def stack (t : Target) : List Layer := t.layers.values.mergeSort fun a b => (below a b).isLE

end Target

end Montage
