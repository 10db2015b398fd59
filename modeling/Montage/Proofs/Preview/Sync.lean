import Montage.Proofs.Output.Histories
import Montage.Proofs.Preview.Scenes
import Montage.Proofs.Timeline.ActiveSets

/-!
When what is staged, or shown, is in sync with the media pool.

Layers are in sync while each is on an element of its own. An evaluation that is applied brings
them there, and whatever goes on in the background keeps them there. To write what is staged does
so too, for the output shows after it what was staged before.
-/

namespace Montage

namespace Compositor

/-- What is staged, or else what the output shows, is on elements of its own. -/
def InSync (c : Compositor) : Prop :=
  match c.tree.staged with
  | some (_, layers) => ∀ l ∈ layers, l.IsOwn c.pool
  | none => ∀ l ∈ c.target.layers.values, l.IsOwn c.pool

/-- A compositor between evaluations. -/
structure Settled (c : Compositor) : Prop where
  calm : c.pool.Calm
  shown : c.tree.ShownBy (fun _ _ => True) c.target
  distinct : ∀ frame layers, c.tree.staged = some (frame, layers) → (layers.map (·.clip)).Nodup

variable {c : Compositor}

lemma Settled.of_kept {r : Rig} (h : c.Settled) (hr : r.Kept c)
    (hidle : r.pool.work? .main = none) : r.compositor.Settled := by
  have hcalm : r.pool.Calm := ⟨hr.ordered, hidle, hr.quiet h.calm.quiet⟩
  rw [hr.same]
  exact ⟨hcalm, h.shown, h.distinct⟩

lemma InSync.of_rests {r : Rig} (h : c.InSync) (hr : r.Rests c) : r.compositor.InSync := by
  have hown : ∀ l : Layer, l.IsOwn c.pool → l.IsOwn r.pool :=
    fun l hl i hi => hr.shows i _ (hl i hi)
  rw [hr.kept.same]
  unfold InSync at h ⊢
  dsimp only
  split at h
  · exact fun l hl => hown l (h l hl)
  · exact fun l hl => hown l (h l hl)

lemma Settled.congr {d : Compositor} (h : c.Settled) (hp : d.pool = c.pool) (ht : d.tree = c.tree)
    (hl : d.target.layers = c.target.layers) : d.Settled := by
  refine ⟨hp ▸ h.calm, ?_, ht ▸ h.distinct⟩
  rw [LayerTree.ShownBy, ht, hl]
  exact h.shown

lemma InSync.congr {d : Compositor} (h : c.InSync) (hp : d.pool = c.pool) (ht : d.tree = c.tree)
    (hl : d.target.layers = c.target.layers) : d.InSync := by
  rw [InSync, ht, hp, hl]
  exact h

lemma write_eq (c : Compositor) (b : Batch) :
    c.write b = { c with target := c.target.receive b } := by
  unfold write Target.receive
  split <;> rfl

lemma layers_write (c : Compositor) (b : Batch) :
    (c.write b).target.layers = (c.target.apply b).layers := by
  rw [write_eq]
  exact Outlet.layers_receive _ _

lemma flush_of_staged {frame : Frame} {layers : List Layer}
    (h : c.tree.staged = some (frame, layers)) :
    ∃ b, c.tree.commit = (some b, { applied := LayerTree.shown layers, staged := none }) ∧
      c.flush.2 = ({ c with
        tree := { applied := LayerTree.shown layers, staged := none } } : Compositor).write b := by
  have hcommit : ∃ b, c.tree.commit =
      (some b, { applied := LayerTree.shown layers, staged := none }) := by
    simp only [LayerTree.commit, h]
    exact ⟨_, rfl⟩
  obtain ⟨b, hcommit⟩ := hcommit
  exact ⟨b, hcommit, by simp only [flush, hcommit]⟩

lemma flush_of_none (h : c.tree.staged = none) : c.flush.2 = c := by
  simp only [flush, LayerTree.commit, h]

lemma Settled.flush (h : c.Settled) : c.flush.2.Settled := by
  rcases hstaged : c.tree.staged with _ | ⟨frame, layers⟩
  · rw [flush_of_none hstaged]
    exact h
  · obtain ⟨b, hcommit, hflush⟩ := flush_of_staged hstaged
    rw [hflush]
    refine ⟨?_, ?_, by simp⟩
    · rw [pool_write]
      exact h.calm
    · have hshown := LayerTree.shownBy_commit (fun _ => trivial) (fun _ _ => trivial) h.shown
        hcommit h.distinct
      rw [LayerTree.ShownBy, tree_write, layers_write]
      exact hshown

/-- What is staged is shown: each layer on the output is like one that was staged. -/
lemma InSync.flush (h : c.InSync) (hs : c.Settled) : c.flush.2.InSync := by
  rcases hstaged : c.tree.staged with _ | ⟨frame, layers⟩
  · rw [flush_of_none hstaged]
    exact h
  · obtain ⟨b, -, hflush⟩ := flush_of_staged hstaged
    have hshown := hs.flush.shown
    rw [hflush] at hshown ⊢
    simp only [InSync, hstaged] at h
    simp only [InSync, tree_write, pool_write]
    intro l hl
    obtain ⟨id, hid⟩ := ClipMap.mem_values.mp hl
    have hrel := hshown id
    rw [hid, tree_write] at hrel
    dsimp only at hrel
    rcases hk : (LayerTree.shown layers).find? id with _ | k
    · rw [hk] at hrel
      cases hrel
    · rw [hk] at hrel
      obtain @⟨_, _, -, halike⟩ := hrel
      have hown := h k (LayerTree.mem_of_find?_shown hk)
      intro i hi
      rw [halike.asset]
      exact hown i (halike.slot ▸ hi)

lemma Settled.setStaged {frame : Frame} {layers : List Layer} (h : c.Settled)
    (hn : (layers.map (·.clip)).Nodup) :
    Settled { c with tree := c.tree.stage frame layers } := by
  refine ⟨h.calm, h.shown, fun frame' layers' hstaged => ?_⟩
  cases hstaged
  exact hn

lemma settled_stage {r : Rig} (frame : Frame) {layers : List Layer} (h : r.compositor.Settled)
    (hn : (layers.map (·.clip)).Nodup) (hown : ∀ l ∈ layers, l.IsOwn r.pool) :
    (r.stage frame layers).compositor.Settled ∧ (r.stage frame layers).compositor.InSync := by
  have hset : Settled { r.compositor with tree := r.compositor.tree.stage frame layers } :=
    h.setStaged hn
  have hsync : InSync { r.compositor with tree := r.compositor.tree.stage frame layers } := hown
  unfold Rig.stage
  dsimp only
  split
  · unfold Rig.requestFlush
    split
    · exact ⟨hset, hsync⟩
    · exact ⟨hset.congr rfl rfl rfl, hsync.congr rfl rfl rfl⟩
  · exact ⟨hset.flush, hsync.flush hset⟩

/-- Without its elements, and with nothing on the output. -/
def closed (c : Compositor) : Compositor :=
  { { c with pendingFlush := none, pool := c.pool.dispose, tree := c.tree.clear.2 }.write
      c.tree.clear.1 with disposed := true }

lemma pool_closed (c : Compositor) : c.closed.pool = c.pool.dispose := pool_write _ _

lemma tree_closed (c : Compositor) : c.closed.tree = {} := tree_write _ _

lemma shownBy_closed (h : c.Settled) :
    LayerTree.ShownBy (fun _ _ => True) {} c.closed.target := by
  have hlayers : c.closed.target.layers = (c.target.apply c.tree.clear.1).layers := layers_write _ _
  rw [LayerTree.ShownBy, hlayers]
  exact LayerTree.shownBy_clear h.shown

lemma compositor_dispose (r : Rig) :
    r.dispose.compositor = if r.compositor.disposed then r.compositor else r.compositor.closed := by
  unfold Rig.dispose
  split <;> rfl

lemma pool_callback (c : Compositor) (id : RequestId) : (c.callback id).2.pool = c.pool := by
  unfold callback
  split
  · exact pool_flush _
  · rfl

lemma pool_dispose (r : Rig) :
    r.dispose.pool = if r.compositor.disposed then r.pool else r.pool.dispose := by
  rw [Rig.pool, compositor_dispose]
  split
  · rfl
  · exact pool_closed _

lemma Settled.dispose {r : Rig} (h : r.compositor.Settled) : r.dispose.compositor.Settled := by
  rw [compositor_dispose]
  split
  · exact h
  · refine ⟨?_, ?_, fun frame layers hstaged => ?_⟩
    · rw [pool_closed]
      exact ⟨h.calm.ordered.dispose.2, h.calm.idle, h.calm.quiet⟩
    · rw [tree_closed]
      exact shownBy_closed h
    · rw [tree_closed] at hstaged
      cases hstaged

lemma InSync.dispose {r : Rig} (h : r.compositor.InSync) (hs : r.compositor.Settled) :
    r.dispose.compositor.InSync := by
  rw [compositor_dispose]
  split
  · exact h
  · unfold InSync
    rw [tree_closed]
    intro l hl
    obtain ⟨id, hid⟩ := ClipMap.mem_values.mp hl
    rw [(shownBy_closed hs).find?_eq_none rfl] at hid
    cases hid

end Compositor

end Montage
