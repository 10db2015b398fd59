import Montage.Output.Target
import Montage.Proofs.Timeline.ClipMaps

/-!
The output shows what the layer tree takes it to show.

A batch is looked at one clip at a time: of all its changes only those of the clip matter to what
the output shows for it. When the layers staged are of different clips these are the changes from
what was shown to the layer that was staged, or its removal. Styles are compared as floats are, so
they agree up to whatever relation outlasts such a comparison.
-/

namespace Montage

/-- What becomes of the layer of one clip by a change. -/
def LayerChange.on (c : ClipId) (shown : Option Layer) : LayerChange → Option Layer
  | create l => if l.clip = c then some l else shown
  | update clip slot style =>
    if clip = c then shown.map fun l => { l with slot, style } else shown
  | remove clip => if clip = c then none else shown

namespace Target

lemma find?_write (m : ClipMap Layer) (o : LayerChange) (c : ClipId) :
    (write m o).find? c = o.on c (m.find? c) := by
  cases o with
  | create l => exact m.find?_insert _ _ _
  | remove clip => exact m.find?_erase _ _
  | update clip slot style =>
    dsimp only [write, LayerChange.on]
    split
    · next h =>
      by_cases hc : clip = c
      · subst hc
        simp [h]
      · simp [hc]
    · next l h =>
      by_cases hc : clip = c
      · subst hc
        simp [h]
      · simp [hc]

lemma find?_foldl_write (ops : List LayerChange) (m : ClipMap Layer) (c : ClipId) :
    (ops.foldl write m).find? c = ops.foldl (LayerChange.on c) (m.find? c) := by
  induction ops generalizing m with
  | nil => rfl
  | cons o ops ih => rw [List.foldl_cons, ih, find?_write, List.foldl_cons]

end Target

namespace LayerTree

variable {applied : ClipMap Layer} {layers : List Layer} {l : Layer} {c : ClipId}
  {shown : Option Layer}

lemma foldl_remove (gone : List ClipId) (c : ClipId) (shown : Option Layer) :
    (gone.map LayerChange.remove).foldl (LayerChange.on c) shown =
      if c ∈ gone then none else shown := by
  induction gone generalizing shown with
  | nil => rfl
  | cons d gone ih =>
    rw [List.map_cons, List.foldl_cons, ih, LayerChange.on]
    by_cases hd : d = c
    · simp [hd]
    · simp [hd, Ne.symm hd]

lemma foldl_change_of_ne (h : l.clip ≠ c) :
    (change applied l).foldl (LayerChange.on c) shown = shown := by
  unfold change
  split
  · simp [LayerChange.on, h]
  · split
    · split
      · simp [LayerChange.on, h]
      · rfl
    · simp [LayerChange.on, h]

lemma foldl_changes_of_notMem (h : c ∉ layers.map (·.clip)) :
    (layers.flatMap (change applied)).foldl (LayerChange.on c) shown = shown := by
  induction layers with
  | nil => rfl
  | cons l layers ih =>
    rw [List.map_cons, List.mem_cons, not_or] at h
    rw [List.flatMap_cons, List.foldl_append, foldl_change_of_ne (Ne.symm h.1), ih h.2]

lemma foldl_changes_of_mem (hn : (layers.map (·.clip)).Nodup) (hl : l ∈ layers) :
    (layers.flatMap (change applied)).foldl (LayerChange.on l.clip) shown =
      (change applied l).foldl (LayerChange.on l.clip) shown := by
  induction layers generalizing shown with
  | nil => simp at hl
  | cons k layers ih =>
    rw [List.map_cons, List.nodup_cons] at hn
    rw [List.flatMap_cons, List.foldl_append]
    rcases List.mem_cons.mp hl with rfl | hl
    · exact foldl_changes_of_notMem hn.1
    · have hne : k.clip ≠ l.clip := fun he => hn.1 (he ▸ List.mem_map_of_mem hl)
      rw [foldl_change_of_ne hne, ih hn.2 hl]

lemma find?_shown_of_mem (hn : (layers.map (·.clip)).Nodup) (hl : l ∈ layers) :
    (LayerTree.shown layers).find? l.clip = some l := by
  refine ClipMap.find?_ofList_of_mem ?_ (List.mem_map_of_mem hl)
  rw [List.map_map]
  exact hn

lemma find?_shown_of_notMem (h : c ∉ layers.map (·.clip)) :
    (LayerTree.shown layers).find? c = none := by
  refine ClipMap.find?_ofList_eq_none ?_
  rw [List.map_map]
  exact h

lemma mem_of_find?_shown (h : (LayerTree.shown layers).find? c = some l) : l ∈ layers := by
  rw [LayerTree.shown, ClipMap.find?_ofList] at h
  obtain ⟨e, he, rfl⟩ := Option.map_eq_some_iff.mp h
  obtain ⟨k, hk, rfl⟩ := List.mem_map.mp (List.mem_reverse.mp (List.mem_of_find?_eq_some he))
  exact hk

end LayerTree

/-- Layers that differ at most in style, and there only as `R` allows. -/
structure Layer.Alike (R : LayerStyle → LayerStyle → Prop) (l k : Layer) : Prop where
  clip : k.clip = l.clip
  asset : k.asset = l.asset
  slot : k.slot = l.slot
  style : R l.style k.style

/-- For each clip the output shows the layer that the tree takes it to show, if any. -/
def LayerTree.ShownBy (R : LayerStyle → LayerStyle → Prop) (t : LayerTree) (g : Target) : Prop :=
  ∀ c, Option.Rel (fun l k => l.clip = c ∧ l.Alike R k) (t.applied.find? c) (g.layers.find? c)

namespace LayerTree.ShownBy

variable {R : LayerStyle → LayerStyle → Prop} {t : LayerTree} {g : Target}

lemma find?_eq_none (h : t.ShownBy R g) {c : ClipId} (hc : t.applied.find? c = none) :
    g.layers.find? c = none := by
  have hrel := h c
  rw [hc] at hrel
  generalize g.layers.find? c = shown at hrel ⊢
  cases hrel
  rfl

end LayerTree.ShownBy

namespace LayerTree

variable {R : LayerStyle → LayerStyle → Prop} {t t' : LayerTree} {g : Target} {l : Layer}
  {applied : ClipMap Layer} {shown : Option Layer}

/-- The changes for one layer bring what is shown for its clip to that layer. -/
lemma rel_change (hrefl : ∀ s, R s s)
    (hstep : ∀ {old new s}, (old != new) = false → R old s → R new s)
    (h : Option.Rel (fun old k => old.clip = l.clip ∧ old.Alike R k) (applied.find? l.clip) shown) :
    Option.Rel (fun new k => new.clip = l.clip ∧ new.Alike R k) (some l)
      ((change applied l).foldl (LayerChange.on l.clip) shown) := by
  have hself : l.clip = l.clip ∧ l.Alike R l := ⟨rfl, rfl, rfl, rfl, hrefl _⟩
  unfold change
  split
  · simpa [LayerChange.on] using Option.Rel.some hself
  · next old hold =>
    rw [hold] at h
    obtain @⟨_, k, hclip, halike⟩ := h
    have hkclip : k.clip = l.clip := halike.clip.trans hclip
    split
    · next hasset =>
      have hkasset : k.asset = l.asset := halike.asset.trans hasset
      split
      · have hnew : l.clip = l.clip ∧ l.Alike R { k with slot := l.slot, style := l.style } :=
          ⟨rfl, hkclip, hkasset, rfl, hrefl _⟩
        simpa [LayerChange.on] using Option.Rel.some hnew
      · next hsame =>
        simp only [Bool.or_eq_true, not_or, Bool.not_eq_true] at hsame
        have hslot : old.slot = l.slot := by simpa using hsame.2
        exact .some ⟨rfl, hkclip, hkasset, halike.slot.trans hslot, hstep hsame.1 halike.style⟩
    · simpa [LayerChange.on] using Option.Rel.some hself

/-- **One batch.** A batch brings the output from what was shown to what was staged. -/
theorem shownBy_commit {b : Batch} (hrefl : ∀ s, R s s)
    (hstep : ∀ {old new s}, (old != new) = false → R old s → R new s) (h : t.ShownBy R g)
    (hcommit : t.commit = (some b, t'))
    (hn : ∀ frame layers, t.staged = some (frame, layers) → (layers.map (·.clip)).Nodup) :
    t'.ShownBy R (g.apply b) := by
  unfold commit at hcommit
  split at hcommit
  · simp at hcommit
  · next frame layers hstaged =>
    have hn := hn frame layers hstaged
    simp only [Prod.mk.injEq, Option.some.injEq] at hcommit
    obtain ⟨rfl, rfl⟩ := hcommit
    intro c
    dsimp only [Target.apply]
    rw [Target.find?_foldl_write, List.foldl_append, foldl_remove]
    by_cases hc : c ∈ layers.map (·.clip)
    · obtain ⟨l, hl, rfl⟩ := List.mem_map.mp hc
      have hstays :
          l.clip ∉ t.applied.keys.filter fun id => !(LayerTree.shown layers).contains id := by
        simp [ClipMap.contains, find?_shown_of_mem hn hl]
      rw [find?_shown_of_mem hn hl, if_neg hstays, foldl_changes_of_mem hn hl]
      exact rel_change hrefl hstep (h l.clip)
    · rw [find?_shown_of_notMem hc, foldl_changes_of_notMem hc]
      have hgone : (if c ∈ t.applied.keys.filter fun id =>
          !(LayerTree.shown layers).contains id then none else g.layers.find? c) = none := by
        split
        · rfl
        · next hkept =>
          have hkey : c ∉ t.applied.keys := by
            intro hkey
            exact hkept (by simp [hkey, ClipMap.contains, find?_shown_of_notMem hc])
          refine h.find?_eq_none ?_
          rw [ClipMap.mem_keys, not_exists] at hkey
          exact Option.eq_none_iff_forall_not_mem.mpr hkey
      rw [hgone]
      exact .none

lemma shownBy_clear (h : t.ShownBy R g) : t.clear.2.ShownBy R (g.apply t.clear.1) := by
  intro c
  dsimp only [clear, Target.apply]
  rw [Target.find?_foldl_write, foldl_remove]
  have hgone : (if c ∈ t.applied.keys then none else g.layers.find? c) = none := by
    split
    · rfl
    · next hkey =>
      refine h.find?_eq_none ?_
      rw [ClipMap.mem_keys, not_exists] at hkey
      exact Option.eq_none_iff_forall_not_mem.mpr hkey
  rw [hgone]
  exact .none

end LayerTree

end Montage
