import Montage.Output.Style
import Montage.Timeline.ClipMap

/-!
Layers wanted on the output, and the changes that bring it there.

Each evaluation stages the layers it wants. When the display is ready for them, what is staged is
compared with what is already shown, and only the differences are written. Several evaluations
between two frames of the display end up in one batch.
-/

namespace Montage

structure Layer where
  clip : ClipId
  asset : AssetId
  /-- The pool slot whose element gives the pixels; none for images. -/
  slot : Option Nat
  style : LayerStyle

inductive LayerChange where
  | create (layer : Layer)
  | update (clip : ClipId) (slot : Option Nat) (style : LayerStyle)
  | remove (clip : ClipId)

/-- Changes for one frame: layers from the bottom up, then what goes away. -/
structure Batch where
  frame : Frame
  ops : List LayerChange

def Batch.isEmpty (b : Batch) : Bool := b.ops.isEmpty

structure LayerTree where
  /-- What the output has been told to show. -/
  applied : ClipMap Layer := .empty
  staged : Option (Frame × List Layer) := none

namespace LayerTree

/-- Replaces whatever was staged before. -/
def stage (t : LayerTree) (frame : Frame) (layers : List Layer) : LayerTree :=
  { t with staged := some (frame, layers) }

/-- The changes for one layer. A layer of another asset is built anew. -/
def change (applied : ClipMap Layer) (l : Layer) : List LayerChange :=
  match applied.find? l.clip with
  | none => [.create l]
  | some old =>
    if old.asset = l.asset then
      if old.style != l.style || old.slot != l.slot then [.update l.clip l.slot l.style] else []
    else [.remove l.clip, .create l]

/-- Layers by clip. -/
def shown (layers : List Layer) : ClipMap Layer := .ofList (layers.map fun l => (l.clip, l))

/-- The changes from what is shown to what is staged, if anything is staged. -/
def commit (t : LayerTree) : Option Batch × LayerTree :=
  match t.staged with
  | none => (none, t)
  | some (frame, layers) =>
    let next := shown layers
    let gone := t.applied.keys.filter fun id => !next.contains id
    let ops := layers.flatMap (change t.applied) ++ gone.map .remove
    (some ⟨frame, ops⟩, { applied := next, staged := none })

/-- Forgets what is staged, and takes away all that is shown. -/
def clear (t : LayerTree) : Batch × LayerTree := (⟨0, t.applied.keys.map .remove⟩, {})

end LayerTree

end Montage
