import Montage.Proofs.Timeline.ClipMaps
import Montage.Proofs.Timeline.Orders
import Montage.Timeline.Active

/-!
Which clips play at a frame.

A clip has a place in each frame of its window. There it plays if its track is there and is visible
and if its trim reaches as far, and it is reported if it cannot play although its track is not
hidden. As no two clips have one place in the stack, what is found does not depend on the order in
which the clips are given.
-/

namespace Montage

lemma sublist_map_filterMap {β : Type} {f : Clip → Option β} {key : β → ClipId}
    (hf : ∀ c b, f c = some b → key b = c.id) (clips : List Clip) :
    ((clips.filterMap f).map key).Sublist (clips.map (·.id)) := by
  induction clips with
  | nil => simp
  | cons c clips ih =>
    rw [List.filterMap_cons]
    split
    · exact ih.cons _
    · next b hb =>
      rw [List.map_cons, List.map_cons, hf c b hb]
      exact ih.cons_cons _

namespace ActiveClip

/-- The clip is drawn below another: its track is, or else it is on a lower layer, or else its id
comes first. -/
def Below (a b : ActiveClip) : Prop :=
  a.track.order < b.track.order ∨ a.track.order = b.track.order ∧
    (a.layer < b.layer ∨ a.layer = b.layer ∧ a.clip.id.rank < b.clip.id.rank)

variable {a b : ActiveClip}

lemma compare_eq_lt : a.compare b = .lt ↔ a.Below b := by
  rw [compare, Ordering.then_eq_lt, Ordering.then_eq_lt, Int.compare_eq_lt, Int.compare_eq_eq,
    Int.compare_eq_lt, Int.compare_eq_eq, Nat.compare_eq_lt, Below]

lemma id_eq_of_compare_eq (h : a.compare b = .eq) : a.clip.id = b.clip.id := by
  simp only [compare, Ordering.then_eq_eq, Nat.compare_eq_eq] at h
  exact ClipId.rank_injective h.2.2

instance : Std.TransCmp compare := by
  have hlex : compare = compareLex (compareOn (·.track.order))
      (compareLex (compareOn layer) (compareOn (·.clip.id.rank))) := rfl
  rw [hlex]
  infer_instance

end ActiveClip

namespace Clip

/-! ### How a clip stands to a frame -/

/-- The frame is in the window of the clip, which ends before the last frame there is. -/
def Spans (c : Clip) (frame : Frame) : Prop :=
  c.start.toNat ≤ frame.toNat ∧
    frame.toNat < min (c.start.toNat + c.duration.toNat) 18446744073709551615

/-- The number of the source frame, which is not beyond the last frame there is. -/
def sourceNumber (c : Clip) (frame : Frame) : Nat :=
  min (c.inPoint.toNat + (frame.toNat - c.start.toNat)) 18446744073709551615

/-- The clip plays at the frame, on the track. -/
structure PlaysOn (c : Clip) (tracks : List Track) (frame : Frame) (t : Track) : Prop where
  spans : c.Spans frame
  known : t ∈ tracks
  own : t.id = c.track
  visible : t.hidden = false
  trim : c.inPoint ≤ c.outPoint
  held : c.sourceNumber frame ≤ c.outPoint.toNat

/-- The clip is on a visible track. -/
def IsVisible (c : Clip) (tracks : List Track) : Prop :=
  ∃ t ∈ tracks, t.id = c.track ∧ t.hidden = false

instance (c : Clip) (tracks : List Track) : Decidable (c.IsVisible tracks) := by
  unfold IsVisible
  infer_instance

/-- The clip has a place in the frame and cannot play, on no track or on a visible one. -/
inductive Breaks (c : Clip) (tracks : List Track) (frame : Frame) : Violation.Kind → Prop
  | unknownTrack (spans : c.Spans frame) (unknown : ∀ t ∈ tracks, t.id ≠ c.track) :
      Breaks c tracks frame (.unknownTrack c.track)
  | invertedTrim {t : Track} (spans : c.Spans frame) (known : t ∈ tracks) (own : t.id = c.track)
      (visible : t.hidden = false) (inverted : c.outPoint < c.inPoint) :
      Breaks c tracks frame (.invertedTrim c.inPoint c.outPoint)
  | pastOutPoint {t : Track} {source : Frame} (spans : c.Spans frame) (known : t ∈ tracks)
      (own : t.id = c.track) (visible : t.hidden = false) (trim : c.inPoint ≤ c.outPoint)
      (number : source.toNat = c.sourceNumber frame) (past : c.outPoint < source) :
      Breaks c tracks frame (.pastOutPoint source c.outPoint)

variable {c : Clip} {tracks : List Track} {frame : Frame}

lemma isActiveAt_iff_spans : c.isActiveAt frame = true ↔ c.Spans frame := by
  rw [isActiveAt, ClipWindow.contains, Bool.and_eq_true, decide_eq_true_iff, decide_eq_true_iff,
    UInt64.le_iff_toNat_le, UInt64.lt_iff_toNat_lt, ClipWindow.stop, Frame.toNat_addSat]
  rfl

lemma toNat_sourceFrame (c : Clip) (frame : Frame) :
    (c.sourceFrame frame).toNat = c.sourceNumber frame := by
  rw [sourceFrame, Frame.toNat_addSat, Frame.toNat_subSat, sourceNumber]

/-- All that a clip can be to a frame. -/
lemma standing_cases (distinct : (tracks.map (·.id)).Nodup) (c : Clip) (frame : Frame) :
    c.standing tracks frame = .outside ∧ ¬c.Spans frame ∨
      (c.standing tracks frame = .hidden ∧ ∃ t ∈ tracks, t.id = c.track ∧ t.hidden = true) ∨
      (∃ k, c.standing tracks frame = .violates k ∧ c.Breaks tracks frame k) ∨
      ∃ t, c.standing tracks frame = .active t (c.sourceFrame frame) ∧
        c.PlaysOn tracks frame t := by
  unfold standing
  by_cases hactive : c.isActiveAt frame = true
  · have hspans := isActiveAt_iff_spans.mp hactive
    rw [if_pos hactive]
    cases hfind : tracks.reverse.find? (·.id = c.track) with
    | none =>
      refine .inr (.inr (.inl ⟨_, rfl, .unknownTrack hspans fun t ht hid => ?_⟩))
      rw [(find?_reverse_eq_some_iff distinct).mpr ⟨ht, hid⟩] at hfind
      cases hfind
    | some t =>
      obtain ⟨ht, hid⟩ := (find?_reverse_eq_some_iff distinct).mp hfind
      dsimp only
      split_ifs with hhidden htrim hsource
      · exact .inr (.inl ⟨rfl, t, ht, hid, hhidden⟩)
      · exact .inr (.inr (.inl ⟨_, rfl,
          .invertedTrim hspans ht hid (by simpa using hhidden) htrim⟩))
      · exact .inr (.inr (.inl ⟨_, rfl, .pastOutPoint hspans ht hid (by simpa using hhidden)
          (UInt64.not_lt.mp htrim) (c.toNat_sourceFrame frame) hsource⟩))
      · refine .inr (.inr (.inr ⟨t, rfl, hspans, ht, hid, by simpa using hhidden,
          UInt64.not_lt.mp htrim, ?_⟩))
        rw [← toNat_sourceFrame]
        exact UInt64.le_iff_toNat_le.mp (UInt64.not_lt.mp hsource)
  · rw [if_neg hactive]
    exact .inl ⟨rfl, fun h => hactive (isActiveAt_iff_spans.mpr h)⟩

lemma PlaysOn.standing {t : Track} (distinct : (tracks.map (·.id)).Nodup)
    (h : c.PlaysOn tracks frame t) :
    c.standing tracks frame = .active t (c.sourceFrame frame) := by
  have hheld : ¬c.outPoint < c.sourceFrame frame := by
    rw [UInt64.not_lt, UInt64.le_iff_toNat_le, toNat_sourceFrame]
    exact h.held
  unfold Clip.standing
  rw [if_pos (isActiveAt_iff_spans.mpr h.spans),
    (find?_reverse_eq_some_iff distinct).mpr ⟨h.known, h.own⟩]
  simp [h.visible, UInt64.not_lt.mpr h.trim, hheld]

lemma Breaks.standing {kind : Violation.Kind} (distinct : (tracks.map (·.id)).Nodup)
    (h : c.Breaks tracks frame kind) : c.standing tracks frame = .violates kind := by
  unfold Clip.standing
  cases h with
  | unknownTrack spans unknown =>
    have hnone : tracks.reverse.find? (·.id = c.track) = none := by simpa using unknown
    rw [if_pos (isActiveAt_iff_spans.mpr spans), hnone]
  | invertedTrim spans known own visible inverted =>
    rw [if_pos (isActiveAt_iff_spans.mpr spans),
      (find?_reverse_eq_some_iff distinct).mpr ⟨known, own⟩]
    simp [visible, inverted]
  | pastOutPoint spans known own visible trim number past =>
    rw [← toNat_sourceFrame, UInt64.toNat_inj] at number
    subst number
    rw [if_pos (isActiveAt_iff_spans.mpr spans),
      (find?_reverse_eq_some_iff distinct).mpr ⟨known, own⟩]
    simp [visible, UInt64.not_lt.mpr trim, past]

lemma standing_eq_active_iff {t : Track} {source : Frame}
    (distinct : (tracks.map (·.id)).Nodup) :
    c.standing tracks frame = .active t source ↔
      c.PlaysOn tracks frame t ∧ source.toNat = c.sourceNumber frame := by
  rw [← toNat_sourceFrame, UInt64.toNat_inj]
  constructor
  · intro h
    rcases standing_cases distinct c frame with
      ⟨hs, -⟩ | ⟨hs, -⟩ | ⟨k, hs, -⟩ | ⟨u, hs, hplays⟩ <;> cases hs.symm.trans h
    exact ⟨hplays, rfl⟩
  · rintro ⟨hplays, rfl⟩
    exact hplays.standing distinct

end Clip

namespace ActiveSet

/-! ### What is found for a frame -/

variable {tracks : List Track} {clips clips' : List Clip} {frame : Frame}

lemma mem_clips_iff_standing {a : ActiveClip} : a ∈ (resolve tracks clips frame).clips ↔
    a.clip ∈ clips ∧ a.clip.standing tracks frame = .active a.track a.sourceFrame := by
  rw [resolve, List.mem_mergeSort, List.mem_filterMap]
  constructor
  · rintro ⟨c, hc, ha⟩
    split at ha
    · next hstanding =>
      cases ha
      exact ⟨hc, hstanding⟩
    · cases ha
  · rintro ⟨hc, hstanding⟩
    exact ⟨a.clip, hc, by rw [hstanding]⟩

lemma mem_clips_iff (distinct : (tracks.map (·.id)).Nodup) {a : ActiveClip} :
    a ∈ (resolve tracks clips frame).clips ↔ a.clip ∈ clips ∧ a.clip.PlaysOn tracks frame a.track ∧
      a.sourceFrame.toNat = a.clip.sourceNumber frame := by
  rw [mem_clips_iff_standing, Clip.standing_eq_active_iff distinct]

lemma nodup_playing (distinct : (clips.map (·.id)).Nodup) (tracks : List Track) (frame : Frame) :
    ((clips.filterMap fun c =>
      match c.standing tracks frame with
      | .active track source => some ⟨c, track, source⟩
      | _ => none).map fun a : ActiveClip => a.clip.id).Nodup := by
  refine distinct.sublist (sublist_map_filterMap (fun c a ha => ?_) clips)
  split at ha
  · cases ha
    rfl
  · cases ha

lemma nodup_ids (distinct : (clips.map (·.id)).Nodup) (tracks : List Track) (frame : Frame) :
    (resolve tracks clips frame).ids.Nodup :=
  ((List.mergeSort_perm _ _).map _).nodup_iff.mpr (nodup_playing distinct tracks frame)

lemma pairwise_below (distinct : (clips.map (·.id)).Nodup) (tracks : List Track)
    (frame : Frame) : (resolve tracks clips frame).clips.Pairwise ActiveClip.Below :=
  (pairwise_lt_mergeSort ActiveClip.compare (fun _ _ => ActiveClip.id_eq_of_compare_eq)
    (nodup_playing distinct tracks frame)).imp ActiveClip.compare_eq_lt.mp

end ActiveSet

/-- A visible track and a hidden one above it. -/
def Track.pair : List Track :=
  [{ id := ⟨⟨1⟩⟩, name := "V1", order := 0 },
    { id := ⟨⟨2⟩⟩, name := "V2", order := 1, hidden := true }]

/-- A picture that would outlast the frames there are. -/
def Clip.late (id track : BitVec 128) : Clip :=
  .place ⟨⟨id⟩⟩ ⟨⟨track⟩⟩ ⟨"still"⟩ (Frame.last - 5) 30

/-- Of the clips on the visible track the second one is on a lower layer, the third one has its trim
the wrong way round, and the fourth one has too little of it. The fifth one is on the hidden track,
and the last one on no track. -/
def Clip.crowd : List Clip :=
  [late 1 1, { late 2 1 with layer := some (-1) }, { late 3 1 with inPoint := 8, outPoint := 7 },
    { late 4 1 with outPoint := 3 }, { late 5 2 with outPoint := 3 }, late 6 9]

namespace ActiveSet

end ActiveSet

/-! ### Timelines -/

/-- No two clips of the timeline have one id. -/
def Snapshot.DistinctClips (s : Snapshot) : Prop := (s.clips.values.map (·.id)).Nodup

/-- Each clip is kept under its own id. -/
def Snapshot.IsFiled (s : Snapshot) : Prop := ∀ k c, s.clip? k = some c → c.id = k

namespace Snapshot

variable {s : Snapshot}

lemma DistinctClips.ids (h : s.DistinctClips) (frame : Frame) : (s.activeAt frame).ids.Nodup :=
  ActiveSet.nodup_ids h s.tracks frame

lemma IsFiled.distinctClips (h : s.IsFiled) : s.DistinctClips := by
  rw [DistinctClips, ClipMap.map_values h]
  exact s.clips.nodup_keys

lemma isFiled_ofClips (rate : FrameRate) (tracks : List Track) (clips : List Clip) :
    (ofClips rate tracks clips).IsFiled := by
  intro k c hfind
  obtain ⟨e, he, rfl⟩ := Option.map_eq_some_iff.mp ((ClipMap.find?_ofList _ k).symm.trans hfind)
  have hkey : e.1 = k := by simpa using List.find?_some he
  obtain ⟨c, -, rfl⟩ := List.mem_map.mp (List.mem_reverse.mp (List.mem_of_find?_eq_some he))
  exact hkey

lemma distinctClips_ofClips (rate : FrameRate) (tracks : List Track) (clips : List Clip) :
    (ofClips rate tracks clips).DistinctClips := (isFiled_ofClips rate tracks clips).distinctClips

end Snapshot

end Montage
