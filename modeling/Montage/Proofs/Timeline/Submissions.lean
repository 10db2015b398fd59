import Montage.Proofs.Computations
import Montage.Proofs.Timeline.ActiveSets
import Montage.Timeline.Submission

/-!
A submission against the preview of the same timeline.

What is checked of a clip before it is submitted is enough for it to play at each frame of its
window, and what is not checked is not submitted; so the clips of a frame are those submitted clips
whose windows the frame is in. Preview and submission list them by the order of their tracks and by
layer. Among clips of one place in the stack the preview goes by id, and the submission by start
before it goes by id.
-/

namespace Montage

lemma Fault.lift_eq_ok {α : Type} {x : Except Fault α} {a : α} :
    Fault.lift x = .ok a ↔ x = .ok a := by
  cases x <;> simp [Fault.lift]

namespace Clip

variable {c : Clip}

/-- What is checked of the trim of a clip. -/
structure Trimmed (c : Clip) : Prop where
  duration : c.duration ≠ 0
  trim : c.inPoint < c.outPoint
  held : c.inPoint.addSat (c.duration - 1) ≤ c.outPoint

lemma checkTrim_eq (c : Clip) : c.checkTrim =
    if c.duration = 0 then .error (.emptyClip c.id)
    else if c.outPoint ≤ c.inPoint then .error (.emptyTrim c.id c.inPoint c.outPoint)
    else if c.outPoint < c.inPoint.addSat (c.duration - 1) then
      .error (.longerThanTrim c.id c.duration (c.outPoint - c.inPoint))
    else .ok () := by
  unfold checkTrim
  split_ifs <;> rfl

lemma checkTrim_eq_ok : c.checkTrim = .ok () ↔ c.Trimmed := by
  rw [checkTrim_eq]
  constructor
  · intro h
    split_ifs at h with hduration htrim hheld
    exact ⟨hduration, UInt64.not_le.mp htrim, UInt64.not_lt.mp hheld⟩
  · rintro ⟨hduration, htrim, hheld⟩
    rw [if_neg hduration, if_neg (UInt64.not_le.mpr htrim), if_neg (UInt64.not_lt.mpr hheld)]

/-- The trim ends within a source of that many seconds. -/
structure EndsWithin (c : Clip) (seconds : Float) (rate : FrameRate) : Prop where
  finite : seconds.isFinite = true
  nonneg : 0.0 ≤ seconds
  held : ¬Scalar.floor (seconds * rate.fps + 1e-6) < (Scalar.ofFrame c.outPoint : Float)

lemma checkSource_eq (c : Clip) (asset : AssetId) (seconds : Float) (rate : FrameRate) :
    c.checkSource asset seconds rate =
      if !(seconds.isFinite && decide (0.0 ≤ seconds)) then .error (.invalidDuration asset seconds)
      else if Scalar.floor (seconds * rate.fps + 1e-6) < (Scalar.ofFrame c.outPoint : Float) then
        .error (.pastSource c.id c.outPoint asset (Scalar.floor (seconds * rate.fps + 1e-6)))
      else .ok () := by
  unfold checkSource
  dsimp only
  split_ifs <;> rfl

lemma checkSource_eq_ok {asset : AssetId} {seconds : Float} {rate : FrameRate} :
    c.checkSource asset seconds rate = .ok () ↔ c.EndsWithin seconds rate := by
  rw [checkSource_eq]
  constructor
  · intro h
    split_ifs at h with hseconds hheld
    simp only [Bool.not_eq_true', Bool.not_eq_false, Bool.and_eq_true,
      decide_eq_true_iff] at hseconds
    exact ⟨hseconds.1, hseconds.2, hheld⟩
  · rintro ⟨hfinite, hnonneg, hheld⟩
    rw [if_neg (by simp [hfinite, hnonneg]), if_neg hheld]

/-- The asset has all that the clip plays of it, as far as its length is known. -/
structure RendersFrom (c : Clip) (asset : MediaAsset) (rate : FrameRate) : Prop where
  trimmed : c.Trimmed
  source : ∀ seconds, asset.duration = some seconds → c.EndsWithin seconds rate

lemma isActiveAt_iff {frame : Frame} :
    c.isActiveAt frame = true ↔ c.start ≤ frame ∧ frame < c.stop := by
  rw [isActiveAt, ClipWindow.contains, Bool.and_eq_true]
  exact and_congr decide_eq_true_iff decide_eq_true_iff

/-- The source frame is within the trim all through the window, even where the window or the source
ends with the last frame there is. -/
lemma Trimmed.sourceFrame_le (h : c.Trimmed) {frame : Frame} (hactive : c.isActiveAt frame = true) :
    c.sourceFrame frame ≤ c.outPoint := by
  obtain ⟨hstart, hstop⟩ := isActiveAt_iff.mp hactive
  have hheld := h.held
  have hone : (1 : UInt64) ≤ c.duration := by
    have hduration : c.duration.toNat ≠ 0 := fun hd => h.duration (UInt64.toNat_inj.mp hd)
    rw [UInt64.le_iff_toNat_le]
    exact Nat.one_le_iff_ne_zero.mpr hduration
  have hlast : (c.duration - 1).toNat = c.duration.toNat - 1 := UInt64.toNat_sub_of_le _ _ hone
  have hend : c.stop.toNat = min (c.start.toNat + c.duration.toNat) 18446744073709551615 :=
    Frame.toNat_addSat _ _
  rw [UInt64.le_iff_toNat_le] at hstart hheld ⊢
  rw [UInt64.lt_iff_toNat_lt] at hstop
  rw [Frame.toNat_addSat, hlast] at hheld
  rw [sourceFrame, Frame.toNat_addSat, Frame.toNat_subSat]
  have hpassed : frame.toNat - c.start.toNat ≤ c.duration.toNat - 1 := by omega
  omega

end Clip

namespace Snapshot

variable {s : Snapshot}

/-- No two tracks of the timeline have one id. -/
def DistinctTracks (s : Snapshot) : Prop := (s.tracks.map (·.id)).Nodup

lemma DistinctTracks.find?_reverse (h : s.DistinctTracks) (id : TrackId) :
    s.tracks.reverse.find? (·.id = id) = s.track? id := find?_reverse_eq_find? h id

/-- Whether the clip is on a visible track. -/
def shows (s : Snapshot) (c : Clip) : Bool := (s.track? c.track).any fun t => !t.hidden

/-- The order of the track that the clip is on. -/
def orderOf (s : Snapshot) (c : Clip) : Int := (s.track? c.track).elim 0 (·.order)

def layerOf (s : Snapshot) (c : Clip) : Int := c.layerOn (s.orderOf c)

/-- Where the start of the clip, in seconds, comes among numbers. -/
def startRank (s : Snapshot) (c : Clip) : Int :=
  (s.rate.secondsOf c.start : Except Fault Float).toOption.elim 0 (·.rank)

/-- How a preview orders clips. -/
def stacking (s : Snapshot) : Clip → Clip → Ordering :=
  compareLex (compareOn s.orderOf) (compareLex (compareOn s.layerOf) (compareOn (·.id.rank)))

/-- How a submission orders clips. -/
def submitting (s : Snapshot) : Clip → Clip → Ordering :=
  compareLex (compareOn s.orderOf) (compareLex (compareOn s.layerOf)
    (compareLex (compareOn s.startRank) (compareOn (·.id.rank))))

instance (s : Snapshot) : Std.TransCmp s.stacking := by
  unfold stacking
  infer_instance

instance (s : Snapshot) : Std.TransCmp s.submitting := by
  unfold submitting
  infer_instance

lemma stacking_of_submitting (s : Snapshot) (c d : Clip) (h : s.submitting c d = .eq) :
    s.stacking c d = .eq := by
  simp only [submitting, compareLex_eq_eq] at h
  simp only [stacking, compareLex_eq_eq]
  exact ⟨h.1, h.2.1, h.2.2.2⟩

/-- Clips in the order of a preview are in that of a submission, if of two in one place of the
stack the upper one does not start before the lower one. -/
lemma isLE_submitting_iff {c d : Clip} (h : (s.stacking c d).isLE = true) :
    (s.submitting c d).isLE = true ↔
      (s.orderOf c = s.orderOf d → s.layerOf c = s.layerOf d → s.startRank c ≤ s.startRank d) := by
  simp only [stacking, submitting, compareLex, compareOn, Ordering.isLE_then_iff_or,
    Int.compare_eq_lt, Int.compare_eq_eq, Nat.isLE_compare] at h ⊢
  omega

end Snapshot

/-- The entry has what the clip, the track and the asset say. -/
structure SubmittedClip.Carries (e : SubmittedClip) (c : Clip) (t : Track) (a : MediaAsset)
    (rate : FrameRate) : Prop where
  clip : e.clip = c.id
  track : e.track = t.id
  order : e.trackOrder = t.order
  layer : e.layer = c.layerOn t.order
  asset : e.asset = c.asset
  kind : e.kind = a.kind
  url : e.url = a.url
  start : rate.secondsOf c.start = .ok e.start
  stop : rate.secondsOf c.stop = .ok e.stop
  trimStart : rate.secondsOf c.inPoint = .ok e.trimStart
  trimStop : rate.secondsOf c.outPoint = .ok e.trimStop
  muted : e.muted = t.muted
  transform : e.transform = c.transform
  transitionIn : e.transitionIn = c.transitionIn
  transitionOut : e.transitionOut = c.transitionOut

namespace Clip

variable {c : Clip} {t : Track} {a : MediaAsset} {rate : FrameRate} {assets : AssetTable}
  {e : SubmittedClip}

/-- The entry of a clip, if its times can be worked out. -/
def entryOn (c : Clip) (t : Track) (a : MediaAsset) (rate : FrameRate) :
    Except Error SubmittedClip := do
  return {
    clip := c.id
    track := t.id
    trackOrder := t.order
    layer := c.layerOn t.order
    asset := c.asset
    kind := a.kind
    url := a.url
    start := ← Fault.lift (rate.secondsOf c.start)
    stop := ← Fault.lift (rate.secondsOf c.stop)
    trimStart := ← Fault.lift (rate.secondsOf c.inPoint)
    trimStop := ← Fault.lift (rate.secondsOf c.outPoint)
    muted := t.muted
    transform := c.transform
    transitionIn := c.transitionIn
    transitionOut := c.transitionOut }

lemma entryOn_eq_ok : c.entryOn t a rate = .ok e ↔ e.Carries c t a rate := by
  constructor
  · intro h
    obtain ⟨start, hstart, h⟩ := bind_eq_ok.mp h
    obtain ⟨stop, hstop, h⟩ := bind_eq_ok.mp h
    obtain ⟨trimStart, htrimStart, h⟩ := bind_eq_ok.mp h
    obtain ⟨trimStop, htrimStop, h⟩ := bind_eq_ok.mp h
    cases h
    exact ⟨rfl, rfl, rfl, rfl, rfl, rfl, rfl, Fault.lift_eq_ok.mp hstart, Fault.lift_eq_ok.mp hstop,
      Fault.lift_eq_ok.mp htrimStart, Fault.lift_eq_ok.mp htrimStop, rfl, rfl, rfl, rfl⟩
  · intro he
    rw [entryOn, he.start, he.stop, he.trimStart, he.trimStop, ← he.clip, ← he.track, ← he.layer,
      ← he.order, ← he.asset, ← he.kind, ← he.url, ← he.muted, ← he.transform, ← he.transitionIn,
      ← he.transitionOut]
    rfl

/-- The source is checked only where its length is known. -/
lemma submit_eq (c : Clip) (t : Track) (rate : FrameRate) (assets : AssetTable) :
    c.submit t rate assets = (do
      c.checkTrim
      match assets.find? c.asset with
      | none => throw (.missingAsset c.asset c.id)
      | some a =>
        match a.duration with
        | none => c.entryOn t a rate
        | some seconds => do c.checkSource a.id seconds rate; c.entryOn t a rate) := by
  unfold submit
  congr 1
  funext _
  cases assets.find? c.asset with
  | none => rfl
  | some a =>
    dsimp only
    cases a.duration <;> rfl

/-- **How a clip is submitted.** -/
lemma submit_eq_ok : c.submit t rate assets = .ok e ↔
    ∃ a, assets.find? c.asset = some a ∧ c.RendersFrom a rate ∧ e.Carries c t a rate := by
  rw [submit_eq]
  constructor
  · intro h
    obtain ⟨⟨⟩, htrim, h⟩ := bind_eq_ok.mp h
    split at h
    · cases h
    · next a ha =>
      refine ⟨a, ha, ?_⟩
      split at h
      · next hlength =>
        refine ⟨⟨checkTrim_eq_ok.mp htrim, fun seconds hseconds => ?_⟩, entryOn_eq_ok.mp h⟩
        cases hlength.symm.trans hseconds
      · next hlength =>
        obtain ⟨⟨⟩, hsource, h⟩ := bind_eq_ok.mp h
        refine ⟨⟨checkTrim_eq_ok.mp htrim, fun seconds hseconds => ?_⟩, entryOn_eq_ok.mp h⟩
        cases hlength.symm.trans hseconds
        exact checkSource_eq_ok.mp hsource
  · rintro ⟨a, ha, ⟨htrimmed, hsource⟩, he⟩
    refine bind_eq_ok.mpr ⟨(), checkTrim_eq_ok.mpr htrimmed, ?_⟩
    rw [ha]
    dsimp only
    split
    · exact entryOn_eq_ok.mpr he
    · next hlength =>
      exact bind_eq_ok.mpr ⟨(), checkSource_eq_ok.mpr (hsource _ hlength), entryOn_eq_ok.mpr he⟩

end Clip

/-- The entry is made from a clip on a track. -/
structure SubmittedClip.Shows (e : SubmittedClip) (c : Clip) (track : Track) (rate : FrameRate) :
    Prop where
  trimmed : c.Trimmed
  clip : e.clip = c.id
  order : e.trackOrder = track.order
  layer : e.layer = c.layerOn track.order
  start : rate.secondsOf c.start = .ok e.start

lemma Clip.shows_of_submit {c : Clip} {track : Track} {rate : FrameRate} {assets : AssetTable}
    {e : SubmittedClip} (h : c.submit track rate assets = .ok e) : e.Shows c track rate := by
  obtain ⟨asset, -, hrenders, he⟩ := Clip.submit_eq_ok.mp h
  exact ⟨hrenders.trimmed, he.clip, he.order, he.layer, he.start⟩

namespace Submission

variable {s : Snapshot} {assets : AssetTable} {sub : Submission} {c d : Clip}

/-- **What becomes of a clip** that does not refuse the timeline. -/
lemma entry_eq_ok {o : Option SubmittedClip} : entry s assets c = .ok o ↔
    ∃ t, s.track? c.track = some t ∧ (t.hidden = true ∧ o = none ∨
      t.hidden = false ∧ ∃ e, o = some e ∧ c.submit t s.rate assets = .ok e) := by
  unfold entry
  cases s.track? c.track with
  | none => simp
  | some t =>
    simp only [Option.some.injEq, exists_eq_left']
    cases hhidden : t.hidden with
    | true => simp [eq_comm]
    | false =>
      simp only [Bool.false_eq_true, if_false, false_and, false_or, true_and, bind_eq_ok]
      exact exists_congr fun e => by
        rw [and_comm]
        exact and_congr_left' ⟨fun h => by cases h; rfl, fun h => by rw [h]; rfl⟩

lemma entry_cases {o : Option SubmittedClip} (h : entry s assets c = .ok o) :
    ∃ track, s.track? c.track = some track ∧
      (track.hidden = true ∧ o = none ∨
        track.hidden = false ∧ ∃ e, o = some e ∧ e.Shows c track s.rate) := by
  obtain ⟨t, ht, hcase⟩ := entry_eq_ok.mp h
  exact ⟨t, ht, hcase.imp_right fun ⟨hvisible, e, ho, he⟩ =>
    ⟨hvisible, e, ho, Clip.shows_of_submit he⟩⟩

/-- A clip has an entry if it is on a visible track and can be submitted. -/
lemma entry_eq_ok_some {e : SubmittedClip} : entry s assets c = .ok (some e) ↔
    ∃ t, s.track? c.track = some t ∧ t.hidden = false ∧ c.submit t s.rate assets = .ok e := by
  rw [entry_eq_ok]
  constructor
  · rintro ⟨t, ht, ⟨-, ho⟩ | ⟨hvisible, e', ho, he⟩⟩
    · cases ho
    · cases ho
      exact ⟨t, ht, hvisible, he⟩
  · rintro ⟨t, ht, hvisible, he⟩
    exact ⟨t, ht, .inr ⟨hvisible, e, rfl, he⟩⟩

lemma shows_of_entry {e : SubmittedClip} (h : entry s assets c = .ok (some e)) :
    ∃ track, s.track? c.track = some track ∧ e.Shows c track s.rate := by
  obtain ⟨track, htrack, -, he⟩ := entry_eq_ok_some.mp h
  exact ⟨track, htrack, Clip.shows_of_submit he⟩

lemma clip_of_entry {e : SubmittedClip} (h : entry s assets c = .ok (some e)) : e.clip = c.id := by
  obtain ⟨track, -, he⟩ := shows_of_entry h
  exact he.clip

lemma compare_of_entries {e f : SubmittedClip} (he : entry s assets c = .ok (some e))
    (hf : entry s assets d = .ok (some f)) : s.submitting c d = e.compare f := by
  obtain ⟨track, htrack, he⟩ := shows_of_entry he
  obtain ⟨track', htrack', hf⟩ := shows_of_entry hf
  simp only [Snapshot.submitting, compareLex, compareOn, Snapshot.layerOf, Snapshot.orderOf,
    Snapshot.startRank, htrack, htrack', Option.elim_some, he.start, hf.start, Except.toOption,
    SubmittedClip.compare, he.clip, he.order, he.layer, hf.clip, hf.order, hf.layer]

/-- The clips that a submission is made from, in its order, are those on visible tracks. -/
structure MadeFrom (sub : Submission) (s : Snapshot) (assets : AssetTable) (sources : List Clip) :
    Prop where
  entries : List.Forall₂ (fun c e => entry s assets c = .ok (some e)) sources sub.clips
  clips : sources.Perm (s.clips.values.filter s.shows)

lemma map_clip_of_entries {clips : List Clip} {es : List SubmittedClip}
    (h : List.Forall₂ (fun c e => entry s assets c = .ok (some e)) clips es) :
    es.map (·.clip) = clips.map (·.id) := by
  induction h with
  | nil => rfl
  | cons he _ ih => rw [List.map_cons, List.map_cons, clip_of_entry he, ih]

lemma MadeFrom.ids {sources : List Clip} (h : sub.MadeFrom s assets sources) :
    sub.clips.map (·.clip) = sources.map (·.id) := map_clip_of_entries h.entries

/-- The submission of a timeline, with its clips in some order. -/
def ofSnapshotAmong (s : Snapshot) (assets : AssetTable) (clips : List Clip) :
    Except Error Submission := do
  if !s.rate.isValid then throw (.unusableRate s.rate)
  let clips ← ofClips s assets clips
  return { rate := s.rate, duration := ← Fault.lift s.seconds, clips }

lemma ofClips_eq_ok {clips : List Clip} {es : List SubmittedClip} :
    ofClips s assets clips = .ok es ↔
      ∃ os, List.Forall₂ (fun c o => entry s assets c = .ok o) clips os ∧
        es = (os.filterMap id).mergeSort fun a b => (a.compare b).isLE := by
  rw [ofClips, bind_eq_ok]
  exact exists_congr fun os => and_congr mapM_eq_ok
    ⟨fun h => by cases h; rfl, fun h => by rw [h]; rfl⟩

/-- **What it takes for a timeline to be submitted.** -/
lemma ofSnapshotAmong_eq_ok {clips : List Clip} : ofSnapshotAmong s assets clips = .ok sub ↔
    s.rate.isValid = true ∧ ofClips s assets clips = .ok sub.clips ∧
      s.rate.secondsOf s.duration = .ok sub.duration ∧ sub.rate = s.rate := by
  unfold ofSnapshotAmong
  dsimp only
  cases s.rate.isValid with
  | false => exact ⟨nofun, fun h => nomatch h.1⟩
  | true =>
    constructor
    · intro h
      obtain ⟨es, hes, h⟩ := bind_eq_ok.mp h
      obtain ⟨duration, hduration, h⟩ := bind_eq_ok.mp h
      cases h
      exact ⟨rfl, hes, Fault.lift_eq_ok.mp hduration, rfl⟩
    · rintro ⟨-, hes, hduration, hrate⟩
      exact bind_eq_ok.mpr ⟨_, hes, bind_eq_ok.mpr
        ⟨_, Fault.lift_eq_ok.mpr hduration, by rw [← hrate]; rfl⟩⟩

lemma clips_of_ofSnapshot (h : ofSnapshot s assets = .ok sub) :
    ∃ os, List.Forall₂ (fun c o => entry s assets c = .ok o) s.clips.values os ∧
      sub.clips = (os.filterMap id).mergeSort fun a b => (a.compare b).isLE :=
  ofClips_eq_ok.mp (ofSnapshotAmong_eq_ok.mp h).2.1

/-- To leave out the clips on hidden tracks leaves those that have entries. -/
lemma forall₂_filter_shows {clips : List Clip} {os : List (Option SubmittedClip)}
    (h : List.Forall₂ (fun c o => entry s assets c = .ok o) clips os) :
    List.Forall₂ (fun c e => entry s assets c = .ok (some e)) (clips.filter s.shows)
      (os.filterMap id) := by
  induction h with
  | nil => exact .nil
  | @cons c o clips os hc hrest ih =>
    obtain ⟨track, htrack, ⟨hhidden, rfl⟩ | ⟨hvisible, e, rfl, -⟩⟩ := entry_cases hc
    · have hshows : s.shows c = false := by simp [Snapshot.shows, htrack, hhidden]
      rw [List.filter_cons_of_neg (by simp [hshows]), List.filterMap_cons_none rfl]
      exact ih
    · have hshows : s.shows c = true := by simp [Snapshot.shows, htrack, hvisible]
      rw [List.filter_cons_of_pos hshows]
      exact .cons hc ih

lemma madeFrom_sorted (h : ofSnapshot s assets = .ok sub) :
    sub.MadeFrom s assets
      ((s.clips.values.filter s.shows).mergeSort fun c d => (s.submitting c d).isLE) := by
  obtain ⟨os, hos, hclips⟩ := clips_of_ofSnapshot h
  refine ⟨?_, List.mergeSort_perm _ _⟩
  rw [hclips]
  exact forall₂_mergeSort (forall₂_filter_shows hos) fun c d e f he hf => by
    rw [compare_of_entries he hf]

lemma standing_of_entry {o : Option SubmittedClip} (distinct : s.DistinctTracks)
    (h : entry s assets c = .ok o) (frame : Frame) :
    (c.isActiveAt frame && s.shows c) = false ∧
        (c.standing s.tracks frame = .outside ∨ c.standing s.tracks frame = .hidden) ∨
      (c.isActiveAt frame && s.shows c) = true ∧ ∃ track, s.track? c.track = some track ∧
        c.standing s.tracks frame = .active track (c.sourceFrame frame) := by
  obtain ⟨track, htrack, hentry⟩ := entry_cases h
  unfold Clip.standing
  rw [distinct.find?_reverse, htrack]
  dsimp only
  cases hactive : c.isActiveAt frame with
  | false => exact .inl ⟨Bool.false_and _, .inl rfl⟩
  | true =>
    rcases hentry with ⟨hhidden, -⟩ | ⟨hvisible, e, -, he⟩
    · exact .inl ⟨by simp [Snapshot.shows, htrack, hhidden], .inr (by simp [hhidden])⟩
    · have htrim : ¬ c.outPoint < c.inPoint := UInt64.not_lt.mpr (UInt64.le_of_lt he.trimmed.trim)
      have hsource : ¬ c.outPoint < c.sourceFrame frame :=
        UInt64.not_lt.mpr (he.trimmed.sourceFrame_le hactive)
      exact .inr ⟨by simp [Snapshot.shows, htrack, hvisible], track, rfl,
        by simp [hvisible, htrim, hsource]⟩

/-- The clips of a frame of a timeline that can be submitted: nothing is violated, each is with its
track, and they are the clips on visible tracks whose windows the frame is in. -/
lemma activeAt_of_ofSnapshot (h : ofSnapshot s assets = .ok sub) (distinct : s.DistinctTracks)
    (frame : Frame) :
    (s.activeAt frame).violations = [] ∧
    (∀ a ∈ (s.activeAt frame).clips, s.track? a.clip.track = some a.track) ∧
    (s.activeAt frame).clips.map (·.clip) =
      (s.clips.values.filter fun c => c.isActiveAt frame && s.shows c).mergeSort
        fun c d => (s.stacking c d).isLE := by
  obtain ⟨os, hos, -⟩ := clips_of_ofSnapshot h
  have hstanding : ∀ c ∈ s.clips.values, _ := fun c hc =>
    let ⟨_, ho⟩ := exists_of_forall₂ hos c hc
    standing_of_entry distinct ho frame
  have htracks : ∀ a ∈ (s.activeAt frame).clips, s.track? a.clip.track = some a.track := by
    intro a ha
    obtain ⟨c, hc, ha⟩ := List.mem_filterMap.mp (List.mem_mergeSort.mp ha)
    rcases hstanding c hc with ⟨-, h | h⟩ | ⟨-, track, htrack, h⟩ <;> rw [h] at ha <;> cases ha
    exact htrack
  refine ⟨?_, htracks, ?_⟩
  · rw [Snapshot.activeAt, ActiveSet.resolve, List.filterMap_eq_nil_iff]
    intro c hc
    rcases hstanding c hc with ⟨-, h | h⟩ | ⟨-, track, -, h⟩ <;> rw [h]
  · have hcompare : ∀ a ∈ (s.activeAt frame).clips, ∀ b ∈ (s.activeAt frame).clips,
        (a.compare b).isLE = (s.stacking a.clip b.clip).isLE := by
      intro a ha b hb
      simp only [Snapshot.stacking, compareLex, compareOn, Snapshot.layerOf, Snapshot.orderOf,
        htracks a ha, htracks b hb, Option.elim_some, ActiveClip.compare, ActiveClip.layer]
    rw [Snapshot.activeAt, ActiveSet.resolve, List.map_mergeSort
      (s := fun c d => (s.stacking c d).isLE) fun a ha b hb =>
        hcompare a (List.mem_mergeSort.mpr ha) b (List.mem_mergeSort.mpr hb),
      List.map_filterMap, ← List.filterMap_eq_filter]
    congr 1
    refine List.filterMap_congr fun c hc => ?_
    rcases hstanding c hc with ⟨hout, h | h⟩ | ⟨hin, track, -, h⟩
    · simp [h, Option.guard, hout]
    · simp [h, Option.guard, hout]
    · simp [h, Option.guard, hin]

end Submission

def AssetTable.still : AssetTable := ⟨[.image ⟨"still"⟩ "still.png"]⟩

namespace Submission

variable {s : Snapshot} {assets : AssetTable} {sub : Submission}

/-- **When a submission and the preview stack alike.** The submitted clips that play at a frame are
in the same order as in the preview just when, of two that have one place in the stack, the one that
the preview draws below does not start after the other. -/
theorem stacks_alike_iff (h : ofSnapshot s assets = .ok sub) (distinct : s.DistinctTracks) :
    ∃ sources : List Clip, sub.MadeFrom s assets sources ∧ ∀ frame : Frame,
      (sources.filter (·.isActiveAt frame) = (s.activeAt frame).clips.map (·.clip) ↔
        (s.activeAt frame).clips.Pairwise fun a b =>
          a.track.order = b.track.order → a.layer = b.layer →
            s.startRank a.clip ≤ s.startRank b.clip) := by
  refine ⟨_, madeFrom_sorted h, fun frame => ?_⟩
  obtain ⟨-, htracks, hclips⟩ := activeAt_of_ofSnapshot h distinct frame
  have hstacked := pairwise_mergeSort_isLE s.stacking
    (s.clips.values.filter fun c => c.isActiveAt frame && s.shows c)
  have hplace : ∀ a ∈ (s.activeAt frame).clips,
      s.orderOf a.clip = a.track.order ∧ s.layerOf a.clip = a.layer := by
    intro a ha
    have horder : s.orderOf a.clip = a.track.order := by
      rw [Snapshot.orderOf, htracks a ha, Option.elim_some]
    exact ⟨horder, by rw [Snapshot.layerOf, horder, ActiveClip.layer]⟩
  rw [filter_mergeSort, List.filter_filter, hclips,
    mergeSort_eq_mergeSort_iff s.stacking_of_submitting, ← hclips, List.pairwise_map]
  rw [← hclips, List.pairwise_map] at hstacked
  have hiff : ∀ a ∈ (s.activeAt frame).clips, ∀ b ∈ (s.activeAt frame).clips,
      (s.stacking a.clip b.clip).isLE = true → ((s.submitting a.clip b.clip).isLE = true ↔
        (a.track.order = b.track.order → a.layer = b.layer →
          s.startRank a.clip ≤ s.startRank b.clip)) := by
    intro a ha b hb hab
    rw [Snapshot.isLE_submitting_iff hab, (hplace a ha).1, (hplace b hb).1, (hplace a ha).2,
      (hplace b hb).2]
  constructor
  · exact fun h => (hstacked.and h).imp_of_mem fun ha hb hab =>
      (hiff _ ha _ hb hab.1).mp hab.2
  · exact fun h => (hstacked.and h).imp_of_mem fun ha hb hab =>
      (hiff _ ha _ hb hab.1).mpr hab.2

end Submission

def Clip.later : Clip := .place ⟨⟨1⟩⟩ ⟨⟨1⟩⟩ ⟨"still"⟩ 10 30

def Clip.earlier : Clip := .place ⟨⟨2⟩⟩ ⟨⟨1⟩⟩ ⟨"still"⟩ 0 30

/-- Two pictures on one track. The one that starts while the other is shown has the lesser id. -/
def Snapshot.crossed : Snapshot :=
  .ofClips .fps30 [{ id := ⟨⟨1⟩⟩, name := "V1", order := 0 }] [.later, .earlier]

namespace Submission

lemma ofSnapshot_crossed : ∃ sub, ofSnapshot .crossed .still = .ok sub :=
  exists_of_isOk (by decide +kernel)

lemma distinctTracks_crossed : Snapshot.crossed.DistinctTracks := List.nodup_singleton _

lemma clips_crossed : (Snapshot.crossed.activeAt 15).clips.map (·.clip) = [.later, .earlier] := by
  obtain ⟨sub, hsub⟩ := ofSnapshot_crossed
  obtain ⟨-, -, hclips⟩ := activeAt_of_ofSnapshot hsub distinctTracks_crossed 15
  have hactive : (Snapshot.crossed.clips.values.filter fun c =>
      c.isActiveAt 15 && Snapshot.crossed.shows c) = [.later, .earlier] := rfl
  have hbelow : (Snapshot.crossed.stacking .later .earlier).isLE = true := by decide
  rwa [hactive, mergeSort_pair, if_pos hbelow] at hclips

/-- The later picture is below in the preview, and above in the submission. -/
theorem stacks_unlike_crossed : ∃ sub, ofSnapshot .crossed .still = .ok sub ∧
    Snapshot.crossed.DistinctTracks ∧
    (Snapshot.crossed.activeAt 15).ids = [Clip.later.id, Clip.earlier.id] ∧
    sub.clips.map (·.clip) = [Clip.earlier.id, Clip.later.id] := by
  obtain ⟨sub, hsub⟩ := ofSnapshot_crossed
  refine ⟨sub, hsub, distinctTracks_crossed, ?_, ?_⟩
  · have hids := congrArg (List.map (·.id)) clips_crossed
    rwa [List.map_map] at hids
  · have hvisible : Snapshot.crossed.clips.values.filter Snapshot.crossed.shows =
        [.later, .earlier] := rfl
    have habove : ¬ (Snapshot.crossed.submitting .later .earlier).isLE = true := by decide
    rw [(madeFrom_sorted hsub).ids, hvisible, mergeSort_pair, if_neg habove]
    rfl

/-- The two stack alike while the later picture is alone, and do not before that. -/
theorem stacks_alike_iff_crossed : ∃ sub, ofSnapshot .crossed .still = .ok sub ∧
    ∃ sources : List Clip, sub.MadeFrom .crossed .still sources ∧
      sources.filter (·.isActiveAt 35) = (Snapshot.crossed.activeAt 35).clips.map (·.clip) ∧
      sources.filter (·.isActiveAt 15) ≠ (Snapshot.crossed.activeAt 15).clips.map (·.clip) := by
  obtain ⟨sub, hsub⟩ := ofSnapshot_crossed
  obtain ⟨sources, hsources, hframes⟩ := stacks_alike_iff hsub distinctTracks_crossed
  refine ⟨sub, hsub, sources, hsources, (hframes 35).mpr ?_, fun h => ?_⟩
  · obtain ⟨-, -, hclips⟩ := activeAt_of_ofSnapshot hsub distinctTracks_crossed 35
    have halone : (Snapshot.crossed.clips.values.filter fun c =>
        c.isActiveAt 35 && Snapshot.crossed.shows c) = [.later] := rfl
    rw [halone, List.mergeSort_singleton] at hclips
    obtain ⟨a, ha, -⟩ := List.map_eq_singleton_iff.mp hclips
    rw [ha]
    exact List.pairwise_singleton _ _
  · obtain ⟨-, htracks, -⟩ := activeAt_of_ofSnapshot hsub distinctTracks_crossed 15
    have hpairwise := (hframes 15).mp h
    obtain ⟨a, as, hclips, ha, has⟩ := List.map_eq_cons_iff.mp clips_crossed
    obtain ⟨b, rfl, hb⟩ := List.map_eq_singleton_iff.mp has
    rw [hclips] at htracks hpairwise
    have htrack : a.track = b.track := by
      have hta := htracks a (by simp)
      have htb := htracks b (by simp)
      rw [ha] at hta
      rw [hb] at htb
      exact Option.some.inj (hta.symm.trans htb)
    have hlayer : a.layer = b.layer := by
      rw [ActiveClip.layer, ActiveClip.layer, ha, hb, htrack]
      rfl
    have hstart := List.rel_of_pairwise_cons hpairwise List.mem_cons_self (congrArg _ htrack) hlayer
    rw [ha, hb] at hstart
    exact absurd hstart (by decide)

end Submission

end Montage
