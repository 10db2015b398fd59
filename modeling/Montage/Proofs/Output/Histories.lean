import Mathlib.Data.List.Induction
import Montage.Proofs.Output.Agreement
import Montage.Proofs.Output.Styles

/-!
A layer tree and the output that all its batches go to, over any number of calls.

The batches bring the output to where it would be if all layers were drawn anew each time. No change
comes amiss on the way: a layer is created where there is none, it is updated or removed where there
is one, and nothing is written for a layer that is shown already.
-/

namespace Montage

/-- What is asked of a layer tree. -/
inductive LayerTree.Call where
  | stage (frame : Frame) (layers : List Layer)
  | commit
  | clear

/-- An empty batch is not passed on. -/
def Target.receive (g : Target) (b : Batch) : Target := if b.isEmpty then g else g.apply b

/-- A layer tree, and the output that its batches go to. -/
structure Outlet where
  tree : LayerTree := {}
  target : Target := {}

def Outlet.call (o : Outlet) : LayerTree.Call → Outlet
  | .stage frame layers => { o with tree := o.tree.stage frame layers }
  | .commit => ⟨o.tree.commit.2, o.tree.commit.1.elim o.target o.target.receive⟩
  | .clear => ⟨o.tree.clear.2, o.target.receive o.tree.clear.1⟩

def Outlet.run (calls : List LayerTree.Call) : Outlet := calls.foldl call {}

/-- An output on which all layers are drawn anew each time. -/
structure Canvas where
  staged : Option (Frame × List Layer) := none
  shown : List Layer := []

def Canvas.call (v : Canvas) : LayerTree.Call → Canvas
  | .stage frame layers => { v with staged := some (frame, layers) }
  | .commit => ⟨none, v.staged.elim v.shown (·.2)⟩
  | .clear => {}

def Canvas.run (calls : List LayerTree.Call) : Canvas := calls.foldl call {}

/-- The output shows a layer like each one of a list, and no others. -/
structure Target.Holds (g : Target) (layers : List Layer) : Prop where
  clips : ∀ c, c ∈ g.layers.keys ↔ c ∈ layers.map (·.clip)
  alike : ∀ l ∈ layers, ∃ k, g.layers.find? l.clip = some k ∧ l.Alike LayerStyle.Same k

namespace LayerChange

def clip : LayerChange → ClipId
  | create l => l.clip
  | update c _ _ => c
  | remove c => c

/-- A layer is created where there is none, and updated or removed where there is one. -/
def Fits (shown : ClipMap Layer) : LayerChange → Prop
  | create l => shown.find? l.clip = none
  | update c _ _ => (shown.find? c).isSome
  | remove c => (shown.find? c).isSome

end LayerChange

namespace Target

/-- Each change fits what the changes before it have left. -/
def Accepts (shown : ClipMap Layer) : List LayerChange → Prop
  | [] => True
  | o :: ops => o.Fits shown ∧ Accepts (write shown o) ops

variable {shown : ClipMap Layer} {ops : List LayerChange}

lemma accepts_append {more : List LayerChange} :
    Accepts shown (ops ++ more) ↔ Accepts shown ops ∧ Accepts (ops.foldl write shown) more := by
  induction ops generalizing shown with
  | nil => simp [Accepts]
  | cons o ops ih =>
    rw [List.cons_append, Accepts, Accepts, ih, List.foldl_cons, and_assoc]

lemma accepts_remove {gone : List ClipId} (hn : gone.Nodup)
    (h : ∀ c ∈ gone, (shown.find? c).isSome) : Accepts shown (gone.map .remove) := by
  induction gone generalizing shown with
  | nil => trivial
  | cons c gone ih =>
    obtain ⟨hc, hn⟩ := List.nodup_cons.mp hn
    refine ⟨h c List.mem_cons_self, ih hn fun d hd => ?_⟩
    have hne : c ≠ d := fun he => hc (he ▸ hd)
    rw [find?_write, LayerChange.on, if_neg hne]
    exact h d (List.mem_cons_of_mem _ hd)

end Target

namespace LayerTree

variable {applied shown : ClipMap Layer} {layers : List Layer} {l : Layer}

/-- The changes for one layer fit an output that shows its clip if the tree takes it to. -/
lemma accepts_change (h : (shown.find? l.clip).isSome = (applied.find? l.clip).isSome) :
    Target.Accepts shown (change applied l) := by
  unfold change
  split
  · next hnone =>
    rw [hnone, Option.isSome_none, Option.isSome_eq_false_iff, Option.isNone_iff_eq_none] at h
    exact ⟨h, trivial⟩
  · next old hold =>
    rw [hold, Option.isSome_some] at h
    split
    · split
      · exact ⟨h, trivial⟩
      · trivial
    · refine ⟨h, ?_, trivial⟩
      rw [LayerChange.Fits, Target.find?_write, LayerChange.on, if_pos rfl]

lemma accepts_changes (hn : (layers.map (·.clip)).Nodup)
    (h : ∀ l ∈ layers, (shown.find? l.clip).isSome = (applied.find? l.clip).isSome) :
    Target.Accepts shown (layers.flatMap (change applied)) := by
  induction layers generalizing shown with
  | nil => trivial
  | cons l layers ih =>
    rw [List.map_cons, List.nodup_cons] at hn
    rw [List.flatMap_cons, Target.accepts_append]
    refine ⟨accepts_change (h l List.mem_cons_self), ih hn.2 fun k hk => ?_⟩
    have hne : l.clip ≠ k.clip := fun he => hn.1 (he ▸ List.mem_map_of_mem hk)
    rw [Target.find?_foldl_write, foldl_change_of_ne hne]
    exact h k (List.mem_cons_of_mem _ hk)

lemma clip_of_mem_change {o : LayerChange} (h : o ∈ change applied l) : o.clip = l.clip := by
  unfold change at h
  split at h
  · rw [List.mem_singleton.mp h]
    rfl
  · split at h
    · split at h
      · rw [List.mem_singleton.mp h]
        rfl
      · simp at h
    · rcases List.mem_cons.mp h with rfl | h
      · rfl
      · rw [List.mem_singleton.mp h]
        rfl

lemma change_eq_nil {old : Layer} (h : applied.find? l.clip = some old) (ha : old.asset = l.asset)
    (hs : old.slot = l.slot) (hb : (old.style == l.style) = true) : change applied l = [] := by
  simp [change, h, ha, hs, hb, bne]

end LayerTree

namespace Outlet

/-- The output shows what the tree takes it to show, and what is staged is of different clips. -/
structure Sound (o : Outlet) : Prop where
  shown : o.tree.ShownBy LayerStyle.Same o.target
  distinct : ∀ frame layers, o.tree.staged = some (frame, layers) → (layers.map (·.clip)).Nodup

variable {o : Outlet} {v : Canvas}

lemma layers_receive (g : Target) (b : Batch) : (g.receive b).layers = (g.apply b).layers := by
  unfold Target.receive
  split
  · next hempty =>
    have hops : b.ops = [] := List.isEmpty_iff.mp hempty
    rw [Target.apply, hops]
    rfl
  · rfl

lemma commit_of_staged {t : LayerTree} {frame : Frame} {layers : List Layer}
    (h : t.staged = some (frame, layers)) :
    t.commit = (some ⟨frame, layers.flatMap (LayerTree.change t.applied) ++
      (t.applied.keys.filter fun id => !(LayerTree.shown layers).contains id).map .remove⟩,
      { applied := LayerTree.shown layers, staged := none }) := by
  simp only [LayerTree.commit, h]

lemma commit_of_none {t : LayerTree} (h : t.staged = none) : t.commit = (none, t) := by
  simp only [LayerTree.commit, h]

lemma Sound.commit (h : o.Sound) : (o.call .commit).Sound := by
  unfold call
  cases hs : o.tree.staged with
  | none =>
    rw [commit_of_none hs]
    exact h
  | some staged =>
    obtain ⟨frame, layers⟩ := staged
    have hshown := LayerTree.shownBy_commit LayerStyle.Same.refl
      (fun hne hold => hold.of_beq (by simpa [bne] using hne)) h.shown (commit_of_staged hs)
      h.distinct
    rw [commit_of_staged hs]
    refine ⟨?_, by simp⟩
    rw [LayerTree.ShownBy, Option.elim_some, layers_receive]
    exact hshown

lemma Sound.clear (h : o.Sound) : (o.call .clear).Sound := by
  refine ⟨?_, by simp [call, LayerTree.clear]⟩
  rw [LayerTree.ShownBy, call, layers_receive]
  exact LayerTree.shownBy_clear h.shown

/-- The tree has staged what the canvas has, and takes the output to show what the canvas shows. -/
structure Follows (o : Outlet) (v : Canvas) : Prop where
  staged : o.tree.staged = v.staged
  applied : o.tree.applied = LayerTree.shown v.shown
  distinct : (v.shown.map (·.clip)).Nodup

lemma Follows.call (h : o.Follows v) (ho : o.Sound) (c : LayerTree.Call) :
    (o.call c).Follows (v.call c) := by
  cases c with
  | stage frame layers => exact ⟨rfl, h.applied, h.distinct⟩
  | clear => exact ⟨rfl, rfl, .nil⟩
  | commit =>
    unfold Outlet.call Canvas.call
    cases hs : o.tree.staged with
    | none =>
      rw [commit_of_none hs, ← h.staged, hs]
      exact ⟨hs, h.applied, h.distinct⟩
    | some staged =>
      obtain ⟨frame, layers⟩ := staged
      rw [commit_of_staged hs, ← h.staged, hs]
      exact ⟨rfl, rfl, ho.distinct frame layers hs⟩

/-- **Any number of calls.** -/
lemma sound_run {calls : List LayerTree.Call}
    (distinct : ∀ frame layers, .stage frame layers ∈ calls → (layers.map (·.clip)).Nodup) :
    (run calls).Sound ∧ (run calls).Follows (Canvas.run calls) := by
  induction calls using List.reverseRecOn with
  | nil => exact ⟨⟨fun _ => .none, by simp [run]⟩, rfl, rfl, .nil⟩
  | append_singleton calls c ih =>
    obtain ⟨hsound, hfollows⟩ := ih fun frame layers h => distinct frame layers (by simp [h])
    rw [run, Canvas.run, List.foldl_concat, List.foldl_concat]
    refine ⟨?_, hfollows.call hsound c⟩
    cases c with
    | commit => exact hsound.commit
    | clear => exact hsound.clear
    | stage frame layers =>
      refine ⟨hsound.shown, fun frame' layers' hs => ?_⟩
      cases hs
      exact distinct frame layers (by simp)

lemma Sound.isSome_find? (h : o.Sound) (c : ClipId) :
    (o.target.layers.find? c).isSome = (o.tree.applied.find? c).isSome := by
  have hrel := h.shown c
  generalize o.tree.applied.find? c = a at hrel ⊢
  generalize o.target.layers.find? c = b at hrel ⊢
  cases hrel <;> rfl

lemma Sound.holds (h : o.Sound) (hv : o.Follows v) : o.target.Holds v.shown where
  clips c := by
    rw [ClipMap.mem_keys, ← Option.isSome_iff_exists, h.isSome_find?, hv.applied]
    constructor
    · intro hc
      by_contra hnot
      simp [LayerTree.find?_shown_of_notMem hnot] at hc
    · intro hc
      obtain ⟨l, hl, rfl⟩ := List.mem_map.mp hc
      simp [LayerTree.find?_shown_of_mem hv.distinct hl]
  alike l hl := by
    have hrel := h.shown l.clip
    rw [hv.applied, LayerTree.find?_shown_of_mem hv.distinct hl] at hrel
    generalize o.target.layers.find? l.clip = shown at hrel ⊢
    obtain @⟨_, k, -, halike⟩ := hrel
    exact ⟨k, rfl, halike⟩

lemma Sound.accepts_commit (h : o.Sound) {layers : List Layer}
    (hn : (layers.map (·.clip)).Nodup) :
    Target.Accepts o.target.layers (layers.flatMap (LayerTree.change o.tree.applied) ++
      (o.tree.applied.keys.filter fun id => !(LayerTree.shown layers).contains id).map
        .remove) := by
  refine Target.accepts_append.mpr
    ⟨LayerTree.accepts_changes hn fun l _ => h.isSome_find? l.clip,
      Target.accepts_remove (o.tree.applied.nodup_keys.filter _) fun c hc => ?_⟩
  obtain ⟨hkey, hgone⟩ := List.mem_filter.mp hc
  have hnot : c ∉ layers.map (·.clip) := by
    intro hc
    obtain ⟨l, hl, rfl⟩ := List.mem_map.mp hc
    simp [ClipMap.contains, LayerTree.find?_shown_of_mem hn hl] at hgone
  rw [Target.find?_foldl_write, LayerTree.foldl_changes_of_notMem hnot, h.isSome_find?]
  exact Option.isSome_iff_exists.mpr (ClipMap.mem_keys.mp hkey)

/-- No change is of a clip that is shown as it is staged. -/
lemma Sound.clip_ne (h : o.Sound) {layers : List Layer} (hn : (layers.map (·.clip)).Nodup)
    {l k : Layer} (hl : l ∈ layers) (hk : o.target.layers.find? l.clip = some k)
    (ha : k.asset = l.asset) (hs : k.slot = l.slot) (hb : (k.style == l.style) = true)
    {op : LayerChange} (hop : op ∈ layers.flatMap (LayerTree.change o.tree.applied) ++
      (o.tree.applied.keys.filter fun id => !(LayerTree.shown layers).contains id).map .remove) :
    op.clip ≠ l.clip := by
  rcases List.mem_append.mp hop with hop | hop
  · obtain ⟨m, hm, hop⟩ := List.mem_flatMap.mp hop
    rw [LayerTree.clip_of_mem_change hop]
    intro hclip
    obtain rfl : m = l := List.inj_on_of_nodup_map hn hm hl hclip
    have hrel := h.shown m.clip
    rw [hk] at hrel
    cases hold : o.tree.applied.find? m.clip with
    | none =>
      rw [hold] at hrel
      cases hrel
    | some old =>
      rw [hold] at hrel
      obtain @⟨_, _, -, halike⟩ := hrel
      rw [LayerTree.change_eq_nil hold (halike.asset.symm.trans ha) (halike.slot.symm.trans hs)
        (halike.style.beq hb)] at hop
      exact List.not_mem_nil hop
  · obtain ⟨c, hc, rfl⟩ := List.mem_map.mp hop
    rintro rfl
    obtain ⟨-, hgone⟩ := List.mem_filter.mp hc
    simp [ClipMap.contains, LayerTree.find?_shown_of_mem hn hl] at hgone

/-- **Batches do what drawing anew does.** After any calls the output shows what it would show if
all layers were drawn anew each time. Whatever is staged then is committed with a batch in which
each change fits, and which has no change of a layer that is shown already; and so do the changes
fit that take all layers away. -/
theorem shows_what_is_drawn (calls : List LayerTree.Call)
    (distinct : ∀ frame layers, .stage frame layers ∈ calls → (layers.map (·.clip)).Nodup) :
    (run calls).target.Holds (Canvas.run calls).shown ∧
    ((Canvas.run calls).staged = none → (run calls).tree.commit.1 = none) ∧
    (∀ frame layers, (Canvas.run calls).staged = some (frame, layers) →
      ∃ ops, (run calls).tree.commit.1 = some ⟨frame, ops⟩ ∧
        Target.Accepts (run calls).target.layers ops ∧
          ∀ l ∈ layers, ∀ k, (run calls).target.layers.find? l.clip = some k →
            k.asset = l.asset → k.slot = l.slot → (k.style == l.style) = true →
              ∀ op ∈ ops, op.clip ≠ l.clip) ∧
    Target.Accepts (run calls).target.layers (run calls).tree.clear.1.ops := by
  obtain ⟨hsound, hfollows⟩ := sound_run distinct
  refine ⟨hsound.holds hfollows, fun hnone => ?_, fun frame layers hstaged => ?_, ?_⟩
  · rw [commit_of_none (hfollows.staged.trans hnone)]
  · have htree := hfollows.staged.trans hstaged
    have hn := hsound.distinct frame layers htree
    rw [commit_of_staged htree]
    exact ⟨_, rfl, hsound.accepts_commit hn,
      fun l hl k hk ha hs hb op hop => hsound.clip_ne hn hl hk ha hs hb hop⟩
  · refine Target.accepts_remove (run calls).tree.applied.nodup_keys fun c hc => ?_
    rw [hsound.isSome_find?]
    exact Option.isSome_iff_exists.mpr (ClipMap.mem_keys.mp hc)

/-- A picture that fills the output. -/
def still (id : BitVec 128) (zIndex : Int) : Layer :=
  ⟨⟨⟨id⟩⟩, ⟨"still"⟩, none, ⟨⟨0.0, 0.0⟩, ⟨1.0, 1.0⟩, 0.0, 1.0, zIndex, false⟩⟩

/-- Of two pictures that are shown, the upper one gives way to a third. -/
def stills : List LayerTree.Call :=
  [.stage 0 [still 1 0, still 2 1], .commit, .stage 1 [still 1 0, still 3 1]]

lemma nodup_stills (frame : Frame) (layers : List Layer) (h : .stage frame layers ∈ stills) :
    (layers.map (·.clip)).Nodup := by
  simp only [stills, List.mem_cons, LayerTree.Call.stage.injEq, reduceCtorEq, List.not_mem_nil,
    or_false, false_or] at h
  rcases h with ⟨-, rfl⟩ | ⟨-, rfl⟩ <;> decide

/-- The lower picture stays without a change. -/
theorem shows_what_is_drawn_stills :
    (∀ frame layers, .stage frame layers ∈ stills → (layers.map (·.clip)).Nodup) ∧
    (run stills).target.Holds [still 1 0, still 2 1] ∧
    ∃ ops, (run stills).tree.commit.1 = some ⟨1, ops⟩ ∧ ops.length = 2 ∧
      Target.Accepts (run stills).target.layers ops ∧ ∀ op ∈ ops, op.clip ≠ ⟨⟨1⟩⟩ := by
  have hlower : ∃ k, (run stills).target.layers.find? (still 1 0).clip = some k ∧
      k.asset = (still 1 0).asset ∧ k.slot = (still 1 0).slot ∧
        (k.style == (still 1 0).style) = true := ⟨still 1 0, rfl, rfl, rfl, by decide +kernel⟩
  have hlength : (run stills).tree.commit.1.map (·.ops.length) = some 2 := by decide +kernel
  obtain ⟨hshows, -, hbatch, -⟩ := shows_what_is_drawn stills nodup_stills
  obtain ⟨ops, hcommit, haccepts, hunchanged⟩ := hbatch 1 [still 1 0, still 3 1] rfl
  rw [hcommit] at hlength
  obtain ⟨k, hk, ha, hs, hb⟩ := hlower
  exact ⟨nodup_stills, hshows, ops, hcommit, by simpa using hlength, haccepts,
    hunchanged (still 1 0) List.mem_cons_self k hk ha hs hb⟩

end Outlet

end Montage
