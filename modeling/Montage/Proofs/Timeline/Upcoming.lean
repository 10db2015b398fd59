import Montage.Proofs.Timeline.ActiveSets
import Montage.Timeline.Upcoming

/-!
Which assets are about to be needed.

Assets are told of clips that start soon and are not on a hidden track, each once, in the order in
which they first start, unless they are in use. The query looks at windows and at hidden tracks
only. So it goes by the clips that play at the frame, but for two kinds of clips that never play: a
clip on no track starts all the same, and a clip that cannot play for its trim has its asset in use.
-/

namespace Montage

lemma Frame.le_addSat_iff {frame horizon f : Frame} : f ≤ frame.addSat horizon ↔
    f.toNat ≤ frame.toNat + horizon.toNat := by
  have hlt := f.toNat_lt
  rw [UInt64.le_iff_toNat_le, Frame.toNat_addSat]
  omega

namespace Clip

/-- The clip starts in the frames after a frame. As there are no frames beyond the last one, it
makes no difference that the sum of two frames stops there. -/
def StartsSoon (c : Clip) (frame horizon : Frame) : Prop :=
  frame.toNat < c.start.toNat ∧ c.start.toNat ≤ frame.toNat + horizon.toNat

/-- The clip starts before the other one, or with it and has the lesser id. -/
def Precedes (c d : Clip) : Prop :=
  c.start < d.start ∨ c.start = d.start ∧ c.id.rank ≤ d.id.rank

/-- No track of the clip is hidden. -/
def IsUnhidden (c : Clip) (tracks : List Track) : Prop :=
  ∀ t ∈ tracks, t.id = c.track → t.hidden = false

def IsStray (c : Clip) (tracks : List Track) : Prop := ∀ t ∈ tracks, t.id ≠ c.track

instance (c : Clip) (frame horizon : Frame) : Decidable (c.StartsSoon frame horizon) := by
  unfold StartsSoon
  infer_instance

instance (c : Clip) (frame : Frame) : Decidable (c.Spans frame) := by
  unfold Spans
  infer_instance

instance (c : Clip) (tracks : List Track) : Decidable (c.IsUnhidden tracks) := by
  unfold IsUnhidden
  infer_instance

variable {c d : Clip} {tracks : List Track} {frame horizon : Frame}

lemma isUnhidden_iff (distinct : (tracks.map (·.id)).Nodup) :
    c.IsUnhidden tracks ↔ c.IsVisible tracks ∨ c.IsStray tracks := by
  constructor
  · intro h
    by_cases hstray : c.IsStray tracks
    · exact .inr hstray
    · unfold IsStray at hstray
      push Not at hstray
      obtain ⟨t, ht, hid⟩ := hstray
      exact .inl ⟨t, ht, hid, h t ht hid⟩
  · rintro (⟨t, ht, hid, hvisible⟩ | hstray) t' ht' hid'
    · rwa [List.inj_on_of_nodup_map distinct ht' ht (hid'.trans hid.symm)]
    · exact absurd hid' (hstray t' ht')

/-- A clip that has a place in the frame, and is on no hidden track, plays or is reported. -/
lemma spans_and_isUnhidden_iff (c : Clip) (frame : Frame) (distinct : (tracks.map (·.id)).Nodup) :
    c.Spans frame ∧ c.IsUnhidden tracks ↔
      (∃ t, c.PlaysOn tracks frame t) ∨ ∃ k, c.Breaks tracks frame k := by
  constructor
  · rintro ⟨hspans, hunhidden⟩
    rcases standing_cases distinct c frame with
      ⟨-, hout⟩ | ⟨-, t, ht, hid, hhidden⟩ | ⟨k, -, hbreaks⟩ | ⟨t, -, hplays⟩
    · exact absurd hspans hout
    · rw [hunhidden t ht hid] at hhidden
      cases hhidden
    · exact .inr ⟨k, hbreaks⟩
    · exact .inl ⟨t, hplays⟩
  · rw [isUnhidden_iff distinct]
    rintro (⟨t, h⟩ | ⟨k, h⟩)
    · exact ⟨h.spans, .inl ⟨t, h.known, h.own, h.visible⟩⟩
    · cases h with
      | unknownTrack spans unknown => exact ⟨spans, .inr unknown⟩
      | invertedTrim spans known own visible => exact ⟨spans, .inl ⟨_, known, own, visible⟩⟩
      | pastOutPoint spans known own visible => exact ⟨spans, .inl ⟨_, known, own, visible⟩⟩

/-- How clips are ordered by their starts. -/
def starting : Clip → Clip → Ordering :=
  compareLex (compareOn (·.start.toNat)) (compareOn (·.id.rank))

instance : Std.TransCmp starting := by
  unfold starting
  infer_instance

lemma isLE_starting : (starting c d).isLE = true ↔ c.Precedes d := by
  simp only [starting, compareLex, compareOn, Ordering.isLE_then_iff_or, Nat.compare_eq_lt,
    Nat.compare_eq_eq, Nat.isLE_compare, Precedes, UInt64.lt_iff_toNat_lt, ← UInt64.toNat_inj]

lemma id_eq_of_starting_eq (h : c.starting d = .eq) : c.id = d.id := by
  simp only [starting, compareLex_eq_eq, compareOn, Nat.compare_eq_eq] at h
  exact ClipId.rank_injective h.2

end Clip

namespace Snapshot

variable {s : Snapshot} {clips : List Clip} {frame horizon : Frame} {a : AssetId} {c : Clip}

/-- The assets in use, with the clips in some order. -/
def assetsInUseAmong (s : Snapshot) (clips : List Clip) (frame : Frame) : List AssetId :=
  (clips.filter fun c => c.isActiveAt frame && !s.isHidden c.track).map (·.asset)

def startingAmong (s : Snapshot) (clips : List Clip) (frame horizon : Frame) : List Clip :=
  (clips.filter fun c =>
    frame < c.start && c.start ≤ frame.addSat horizon && !s.isHidden c.track).mergeSort
      fun c d => (c.starting d).isLE

/-- The assets that are about to be needed, with the clips in some order. -/
def upcomingAmong (s : Snapshot) (clips : List Clip) (frame horizon : Frame) : List AssetId :=
  ((s.startingAmong clips frame horizon).map (·.asset)).eraseDups.filter fun a =>
    !(s.assetsInUseAmong clips frame).contains a

lemma upcomingAmong_values (s : Snapshot) (frame horizon : Frame) :
    s.upcomingAmong s.clips.values frame horizon = s.upcoming frame horizon := rfl

lemma isHidden_eq_false : s.isHidden c.track = false ↔ c.IsUnhidden s.tracks := by
  simp only [isHidden, List.any_eq_false, Bool.and_eq_true, decide_eq_true_iff, not_and,
    Clip.IsUnhidden]
  refine forall₂_congr fun t _ => ?_
  cases t.hidden <;> simp

lemma mem_assetsInUseAmong : a ∈ s.assetsInUseAmong clips frame ↔
    ∃ c ∈ clips, c.asset = a ∧ c.Spans frame ∧ c.IsUnhidden s.tracks := by
  simp only [assetsInUseAmong, List.mem_map, List.mem_filter, Bool.and_eq_true, Bool.not_eq_true',
    isHidden_eq_false, Clip.isActiveAt_iff_spans]
  exact exists_congr fun c => by tauto

lemma mem_startingAmong : c ∈ s.startingAmong clips frame horizon ↔
    c ∈ clips ∧ c.StartsSoon frame horizon ∧ c.IsUnhidden s.tracks := by
  simp only [startingAmong, List.mem_mergeSort, List.mem_filter, Bool.and_eq_true,
    decide_eq_true_iff, Bool.not_eq_true', isHidden_eq_false, Clip.StartsSoon,
    Frame.le_addSat_iff, UInt64.lt_iff_toNat_lt]

lemma mem_upcomingAmong : a ∈ s.upcomingAmong clips frame horizon ↔
    (∃ c ∈ clips, c.asset = a ∧ c.StartsSoon frame horizon ∧ c.IsUnhidden s.tracks) ∧
      ∀ c ∈ clips, c.asset = a → c.IsUnhidden s.tracks → ¬c.Spans frame := by
  have hstarts : a ∈ (s.startingAmong clips frame horizon).map (·.asset) ↔
      ∃ c ∈ clips, c.asset = a ∧ c.StartsSoon frame horizon ∧ c.IsUnhidden s.tracks := by
    simp only [List.mem_map, mem_startingAmong]
    exact exists_congr fun c => by tauto
  have hunused : a ∉ s.assetsInUseAmong clips frame ↔
      ∀ c ∈ clips, c.asset = a → c.IsUnhidden s.tracks → ¬c.Spans frame := by
    rw [mem_assetsInUseAmong]
    push Not
    exact forall₂_congr fun c _ => by tauto
  rw [upcomingAmong, List.mem_filter, List.mem_eraseDups, hstarts, ← hunused]
  simp

lemma nodup_upcomingAmong (s : Snapshot) (clips : List Clip) (frame horizon : Frame) :
    (s.upcomingAmong clips frame horizon).Nodup := (nodup_eraseDups _).filter _

lemma pairwise_upcomingAmong (s : Snapshot) (clips : List Clip) (frame horizon : Frame) :
    (s.upcomingAmong clips frame horizon).Pairwise fun a b =>
      ∃ c ∈ clips, c.asset = a ∧ c.StartsSoon frame horizon ∧ c.IsUnhidden s.tracks ∧
        ∀ d ∈ clips, d.asset = b → d.StartsSoon frame horizon → d.IsUnhidden s.tracks →
          c.Precedes d := by
  have hsorted : (s.startingAmong clips frame horizon).Pairwise Clip.Precedes :=
    (pairwise_mergeSort_isLE Clip.starting _).imp Clip.isLE_starting.mp
  refine ((pairwise_eraseDups_map (f := (·.asset)) hsorted).filter _).imp ?_
  rintro a b ⟨c, hc, ha, hall⟩
  obtain ⟨hclip, hsoon, hunhidden⟩ := mem_startingAmong.mp hc
  exact ⟨c, hclip, ha, hsoon, hunhidden, fun d hd hb hdsoon hdunhidden =>
    hall d (mem_startingAmong.mpr ⟨hd, hdsoon, hdunhidden⟩) hb⟩

lemma upcomingAmong_of_perm (distinct : s.DistinctClips) (h : clips.Perm s.clips.values) :
    s.upcomingAmong clips frame horizon = s.upcoming frame horizon := by
  have hstarting : s.startingAmong clips frame horizon =
      s.startingAmong s.clips.values frame horizon :=
    mergeSort_eq_of_perm Clip.starting (fun _ _ => Clip.id_eq_of_starting_eq)
      (distinct.sublist (List.filter_sublist.map _)) (h.filter _)
  have hinUse : ∀ a, (s.assetsInUseAmong clips frame).contains a =
      (s.assetsInUseAmong s.clips.values frame).contains a := fun a => by
    rw [Bool.eq_iff_iff, List.contains_iff_mem, List.contains_iff_mem]
    exact ((h.filter _).map _).mem_iff
  rw [← upcomingAmong_values, upcomingAmong, upcomingAmong, hstarting]
  exact List.filter_congr fun a _ => by rw [hinUse]

lemma containsAsset_eq_false (distinct : (s.tracks.map (·.id)).Nodup) :
    (s.activeAt frame).containsAsset a = false ↔
      ∀ c ∈ s.clips.values, c.asset = a → ∀ t, ¬c.PlaysOn s.tracks frame t := by
  simp only [ActiveSet.containsAsset, List.any_eq_false, decide_eq_true_iff]
  constructor
  · intro h c hc ha t hplays
    exact h ⟨c, t, c.sourceFrame frame⟩
      ((ActiveSet.mem_clips_iff distinct).mpr ⟨hc, hplays, c.toNat_sourceFrame frame⟩) ha
  · intro h active hactive ha
    obtain ⟨hc, hplays, -⟩ := (ActiveSet.mem_clips_iff distinct).mp hactive
    exact h _ hc ha _ hplays

/-- **What is about to be needed.** An asset is listed just when a clip of it starts soon that no
hidden track has, and no such clip of it has a place in the frame. No asset is listed twice; they
are in the order in which they first start, in whatever order the clips are kept. Against the clips
that play at the frame this means: a clip that starts soon may also be on no track, and the asset of
a clip that is reported at the frame is not listed. -/
theorem upcoming_exactly (s : Snapshot) (frame horizon : Frame) :
    (∀ a, a ∈ s.upcoming frame horizon ↔
      (∃ c ∈ s.clips.values, c.asset = a ∧ c.StartsSoon frame horizon ∧ c.IsUnhidden s.tracks) ∧
        ∀ c ∈ s.clips.values, c.asset = a → c.IsUnhidden s.tracks → ¬c.Spans frame) ∧
    (s.upcoming frame horizon).Nodup ∧
    ((s.upcoming frame horizon).Pairwise fun a b =>
      ∃ c ∈ s.clips.values, c.asset = a ∧ c.StartsSoon frame horizon ∧ c.IsUnhidden s.tracks ∧
        ∀ d ∈ s.clips.values, d.asset = b → d.StartsSoon frame horizon →
          d.IsUnhidden s.tracks → c.Precedes d) ∧
    (s.DistinctClips → ∀ clips : List Clip, clips.Perm s.clips.values →
      s.upcomingAmong clips frame horizon = s.upcoming frame horizon) ∧
    ((s.tracks.map (·.id)).Nodup → ∀ a, a ∈ s.upcoming frame horizon ↔
      (∃ c ∈ s.clips.values, c.asset = a ∧ c.StartsSoon frame horizon ∧
        (c.IsVisible s.tracks ∨ c.IsStray s.tracks)) ∧
      (s.activeAt frame).containsAsset a = false ∧
      ∀ c ∈ s.clips.values, c.asset = a → ∀ k, ¬c.Breaks s.tracks frame k) := by
  refine ⟨fun a => mem_upcomingAmong, nodup_upcomingAmong _ _ _ _, pairwise_upcomingAmong _ _ _ _,
    fun distinct clips h => upcomingAmong_of_perm distinct h, fun distinct a => ?_⟩
  have hneither : (∀ c ∈ s.clips.values, c.asset = a → c.IsUnhidden s.tracks → ¬c.Spans frame) ↔
      (∀ c ∈ s.clips.values, c.asset = a → ∀ t, ¬c.PlaysOn s.tracks frame t) ∧
        ∀ c ∈ s.clips.values, c.asset = a → ∀ k, ¬c.Breaks s.tracks frame k := by
    have hclip : ∀ c : Clip, (c.IsUnhidden s.tracks → ¬c.Spans frame) ↔
        (∀ t, ¬c.PlaysOn s.tracks frame t) ∧ ∀ k, ¬c.Breaks s.tracks frame k := fun c => by
      have hiff := not_congr (c.spans_and_isUnhidden_iff frame distinct)
      rw [not_or, not_exists, not_exists] at hiff
      rw [← hiff]
      tauto
    simp only [hclip]
    exact ⟨fun h => ⟨fun c hc ha => (h c hc ha).1, fun c hc ha => (h c hc ha).2⟩,
      fun h c hc ha => ⟨h.1 c hc ha, h.2 c hc ha⟩⟩
  rw [← upcomingAmong_values, mem_upcomingAmong, containsAsset_eq_false distinct, hneither]
  simp only [Clip.isUnhidden_iff distinct]

end Snapshot

/-- A clip that has less of its source than it would play. -/
def Clip.spent : Clip :=
  { Clip.place ⟨⟨1⟩⟩ ⟨⟨1⟩⟩ ⟨"first"⟩ 0 60 with outPoint := 20 }

def Clip.fresh : Clip := .place ⟨⟨2⟩⟩ ⟨⟨1⟩⟩ ⟨"first"⟩ 40 10

/-- A clip on no track. -/
def Clip.lost : Clip := .place ⟨⟨3⟩⟩ ⟨⟨9⟩⟩ ⟨"second"⟩ 35 10

def Snapshot.strained : Snapshot :=
  .ofClips .fps30 [{ id := ⟨⟨1⟩⟩, name := "V1", order := 0 }] [.spent, .fresh, .lost]

namespace Snapshot

lemma breaks_spent : Clip.spent.Breaks strained.tracks 30 (.pastOutPoint 30 20) :=
  .pastOutPoint (t := { id := ⟨⟨1⟩⟩, name := "V1", order := 0 }) ⟨by decide, by decide⟩
    List.mem_cons_self rfl rfl (by decide) rfl (by decide)

/-- The asset of the clip on no track is heralded, that of the clip that is reported is not, and it
makes no difference that the clips are kept the other way round. -/
theorem upcoming_exactly_strained :
    strained.DistinctClips ∧ (strained.tracks.map (·.id)).Nodup ∧
      strained.upcomingAmong strained.clips.values.reverse 30 60 = strained.upcoming 30 60 ∧
      ⟨"second"⟩ ∈ strained.upcoming 30 60 ∧ ⟨"first"⟩ ∉ strained.upcoming 30 60 := by
  obtain ⟨hmem, -, -, horder, hplays⟩ := upcoming_exactly strained 30 60
  have hclips : strained.DistinctClips := distinctClips_ofClips _ _ _
  have htracks : (strained.tracks.map (·.id)).Nodup := List.nodup_singleton _
  refine ⟨hclips, htracks, horder hclips _ (List.reverse_perm _), (hmem _).mpr (by decide),
    fun h => ?_⟩
  exact ((hplays htracks _).mp h).2.2 .spent List.mem_cons_self rfl _ breaks_spent

/-- What should be heralded going by the clips that are on visible tracks and those that play. -/
def IsDue (s : Snapshot) (frame horizon : Frame) (a : AssetId) : Prop :=
  (∃ c ∈ s.clips.values, c.asset = a ∧ c.StartsSoon frame horizon ∧ c.IsVisible s.tracks) ∧
    (s.activeAt frame).containsAsset a = false

/-- One asset is due and not heralded, as a clip that does not play has it in use; another one is
heralded and not due, as the clip that starts is on no track. -/
theorem upcoming_strays :
    (strained.IsDue 30 60 ⟨"first"⟩ ∧ ⟨"first"⟩ ∉ strained.upcoming 30 60) ∧
      ¬strained.IsDue 30 60 ⟨"second"⟩ ∧ ⟨"second"⟩ ∈ strained.upcoming 30 60 := by
  have hplays : (strained.activeAt 30).clips = [] := List.mergeSort_nil
  simp only [← upcomingAmong_values, mem_upcomingAmong]
  refine ⟨⟨⟨by decide, ?_⟩, by decide⟩, fun h => absurd h.1 (by decide), by decide⟩
  rw [ActiveSet.containsAsset, hplays]
  rfl

end Snapshot

end Montage
