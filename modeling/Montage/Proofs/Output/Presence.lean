import Montage.Proofs.Output.Agreement

/-!
For which clips the output shows anything.

Whatever is staged, also two layers of one clip, the output shows a layer for just those clips for
which the layer tree takes it to show one. So an output that is told to take away all that the tree
has on record is empty.
-/

namespace Montage

namespace ClipMap

variable {α : Type} {m : ClipMap α}

lemma eq_empty_of_find? (h : ∀ id, m.find? id = none) : m = empty := by
  obtain ⟨entries, sorted⟩ := m
  cases entries with
  | nil => rfl
  | cons e es =>
    have hfirst := h e.1
    rw [find?, find?_cons, if_pos rfl] at hfirst
    cases hfirst

end ClipMap

namespace LayerTree

variable {applied : ClipMap Layer} {layers : List Layer} {l : Layer} {c : ClipId}
  {shown : Option Layer} {t : LayerTree} {g : Target}

/-- After the changes for a layer its clip has one, given that nothing is missing on the output. -/
lemma isSome_change (h : (applied.find? l.clip).isSome = true → shown.isSome = true) :
    ((change applied l).foldl (LayerChange.on l.clip) shown).isSome = true := by
  unfold change
  split
  · simp [LayerChange.on]
  · next old hold =>
    have hshown : shown.isSome = true := h (by rw [hold]; rfl)
    split
    · split
      · simpa [LayerChange.on] using hshown
      · exact hshown
    · simp [LayerChange.on]

lemma isSome_changes (h : (applied.find? c).isSome = true → shown.isSome = true) :
    ((layers.flatMap (change applied)).foldl (LayerChange.on c) shown).isSome = true ↔
      shown.isSome = true ∨ c ∈ layers.map (·.clip) := by
  induction layers generalizing shown with
  | nil => simp
  | cons l layers ih =>
    rw [List.flatMap_cons, List.foldl_append, List.map_cons, List.mem_cons]
    by_cases hc : l.clip = c
    · subst hc
      have hsome := isSome_change h
      rw [ih fun _ => hsome]
      simp [hsome]
    · rw [foldl_change_of_ne hc, ih h]
      simp [Ne.symm hc]

lemma isSome_find?_shown :
    ((LayerTree.shown layers).find? c).isSome = true ↔ c ∈ layers.map (·.clip) := by
  constructor
  · intro h
    by_contra hc
    rw [find?_shown_of_notMem hc] at h
    cases h
  · intro h
    obtain ⟨l, hl, rfl⟩ := List.mem_map.mp h
    rw [LayerTree.shown, ClipMap.find?_ofList, Option.isSome_map, List.find?_isSome]
    exact ⟨(l.clip, l), List.mem_reverse.mpr (List.mem_map_of_mem hl), by simp⟩

/-- The output shows a layer for a clip when the tree takes it to show one. -/
def PresentOn (t : LayerTree) (g : Target) : Prop :=
  ∀ c, (g.layers.find? c).isSome = true ↔ (t.applied.find? c).isSome = true

/-- **One batch.** -/
lemma PresentOn.commit (h : t.PresentOn g) {b : Batch} {t' : LayerTree}
    (hcommit : t.commit = (some b, t')) : t'.PresentOn (g.apply b) := by
  unfold LayerTree.commit at hcommit
  split at hcommit
  · simp at hcommit
  · next frame layers _ =>
    simp only [Prod.mk.injEq, Option.some.injEq] at hcommit
    obtain ⟨rfl, rfl⟩ := hcommit
    intro c
    dsimp only [Target.apply]
    rw [Target.find?_foldl_write, List.foldl_append, foldl_remove, isSome_find?_shown]
    by_cases hc : c ∈ layers.map (·.clip)
    · have hstays : c ∉ t.applied.keys.filter fun id => !(LayerTree.shown layers).contains id := by
        rw [List.mem_filter, ClipMap.contains, isSome_find?_shown.mpr hc]
        simp
      rw [if_neg hstays, isSome_changes (h c).mpr]
      simp [hc]
    · split
      · simp [hc]
      · next hkept =>
        have hgone : ¬(t.applied.find? c).isSome = true := by
          intro hsome
          refine hkept (List.mem_filter.mpr ⟨?_, ?_⟩)
          · exact ClipMap.mem_keys.mpr (Option.isSome_iff_exists.mp hsome)
          · simp [ClipMap.contains, find?_shown_of_notMem hc]
        rw [isSome_changes (h c).mpr, h c]
        simp [hc, hgone]

/-- **Nothing is left** when all is taken away that the tree has on record. -/
lemma PresentOn.clear (h : t.PresentOn g) : (g.apply t.clear.1).layers = .empty := by
  refine ClipMap.eq_empty_of_find? fun c => ?_
  dsimp only [LayerTree.clear, Target.apply]
  rw [Target.find?_foldl_write, foldl_remove]
  split
  · rfl
  · next hkey =>
    have hnone : ¬(g.layers.find? c).isSome = true := fun hsome =>
      hkey (ClipMap.mem_keys.mpr (Option.isSome_iff_exists.mp ((h c).mp hsome)))
    simpa using hnone

end LayerTree

end Montage
