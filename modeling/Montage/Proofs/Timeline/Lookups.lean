import Montage.Proofs.Timeline.Entries
import Montage.Proofs.Timeline.Upcoming
import Montage.Proofs.Timeline.Versions

/-!
By which track a clip goes.

A clip names its track by an id, and several tracks of a timeline may have one id. Of these a clip
plays by the last one and is submitted by the first one, and it is heralded if none of them is
hidden. So all goes by one track if that one is the first and the last of its id and no other of the
id is hidden without it, as it is where the ids of tracks are distinct. No file is refused for its
tracks, so there are timelines for which this fails.
-/

namespace Montage

namespace Track

/-- No track before it has its id. -/
def IsFirst (t : Track) (tracks : List Track) : Prop :=
  ∃ before after, tracks = before ++ t :: after ∧ ∀ u ∈ before, u.id ≠ t.id

/-- No track after it has its id. -/
def IsLast (t : Track) (tracks : List Track) : Prop :=
  ∃ before after, tracks = before ++ t :: after ∧ ∀ u ∈ after, u.id ≠ t.id

variable {t : Track} {tracks : List Track} {id : TrackId}

lemma isLast_iff_isFirst_reverse : t.IsLast tracks ↔ t.IsFirst tracks.reverse := by
  constructor
  · rintro ⟨before, after, rfl, hafter⟩
    exact ⟨after.reverse, before.reverse, by simp, fun u hu => hafter u (List.mem_reverse.mp hu)⟩
  · rintro ⟨before, after, hsplit, hbefore⟩
    refine ⟨after.reverse, before.reverse, ?_, fun u hu => hbefore u (List.mem_reverse.mp hu)⟩
    rw [← List.reverse_reverse tracks, hsplit]
    simp

lemma find?_eq_some_iff : tracks.find? (·.id = id) = some t ↔ t.id = id ∧ t.IsFirst tracks := by
  simp only [List.find?_eq_some_iff_append, decide_eq_true_iff, Bool.not_eq_true',
    decide_eq_false_iff_not, IsFirst]
  refine and_congr_right fun hid => ?_
  rw [hid]

lemma find?_reverse_eq_some_iff :
    tracks.reverse.find? (·.id = id) = some t ↔ t.id = id ∧ t.IsLast tracks := by
  rw [find?_eq_some_iff, isLast_iff_isFirst_reverse]

end Track

namespace Clip

variable {c : Clip} {t : Track} {tracks : List Track}

lemma standing_of_isLast (hid : t.id = c.track) (hlast : t.IsLast tracks) (frame : Frame) :
    c.standing tracks frame = c.standing [t] frame := by
  have hfind : tracks.reverse.find? (·.id = c.track) = some t :=
    Track.find?_reverse_eq_some_iff.mpr ⟨hid, hlast⟩
  have hone : [t].reverse.find? (·.id = c.track) = some t := by simp [hid]
  rw [standing, standing, hfind, hone]

lemma standing_of_isStray (hstray : c.IsStray tracks) {frame : Frame} (hspans : c.Spans frame) :
    c.standing tracks frame = .violates (.unknownTrack c.track) := by
  have hfind : tracks.reverse.find? (·.id = c.track) = none := by
    simpa [List.find?_eq_none, IsStray] using hstray
  rw [standing, if_pos (isActiveAt_iff_spans.mpr hspans), hfind]

end Clip

namespace Snapshot

/-- The timeline with one track only. -/
def onlyOn (s : Snapshot) (t : Track) : Snapshot := { s with tracks := [t] }

/-- The clip plays, is submitted and is heralded as if the track were the only one. -/
structure GoesBy (s : Snapshot) (c : Clip) (t : Track) : Prop where
  plays : ∀ frame, c.standing s.tracks frame = c.standing [t] frame
  submits : ∀ assets, Submission.entry s assets c = Submission.entry (s.onlyOn t) assets c
  heralds : s.isHidden c.track = t.hidden

variable {s : Snapshot} {c : Clip} {t : Track}

lemma entry_of_isFirst (hid : t.id = c.track) (hfirst : t.IsFirst s.tracks) (assets : AssetTable) :
    Submission.entry s assets c = Submission.entry (s.onlyOn t) assets c := by
  have hfind : s.track? c.track = some t := Track.find?_eq_some_iff.mpr ⟨hid, hfirst⟩
  have hone : (s.onlyOn t).track? c.track = some t := by simp [onlyOn, track?, hid]
  rw [Submission.entry, Submission.entry, hfind, hone]
  rfl

lemma entry_of_isStray (hstray : c.IsStray s.tracks) (assets : AssetTable) :
    Submission.entry s assets c = .error (.unknownTrack c.id c.track) := by
  have hfind : s.track? c.track = none := by
    simpa [track?, List.find?_eq_none, Clip.IsStray] using hstray
  rw [Submission.entry, hfind]

lemma isHidden_iff : s.isHidden c.track = true ↔
    ∃ t ∈ s.tracks, t.id = c.track ∧ t.hidden = true := by
  simp only [isHidden, List.any_eq_true, Bool.and_eq_true, decide_eq_true_iff]
  exact exists_congr fun t => and_congr_right' and_comm

lemma isHidden_eq (ht : t ∈ s.tracks) (hid : t.id = c.track)
    (hhidden : ∀ u ∈ s.tracks, u.id = c.track → u.hidden = true → t.hidden = true) :
    s.isHidden c.track = t.hidden := by
  rw [Bool.eq_iff_iff, isHidden_iff]
  exact ⟨fun ⟨u, hu, huid, huhidden⟩ => hhidden u hu huid huhidden, fun h => ⟨t, ht, hid, h⟩⟩

lemma goesBy_of_isFirst (hid : t.id = c.track) (hfirst : t.IsFirst s.tracks)
    (hlast : t.IsLast s.tracks)
    (hhidden : ∀ u ∈ s.tracks, u.id = c.track → u.hidden = true → t.hidden = true) :
    s.GoesBy c t where
  plays := Clip.standing_of_isLast hid hlast
  submits := entry_of_isFirst hid hfirst
  heralds := by
    obtain ⟨before, after, hsplit, -⟩ := hfirst
    exact isHidden_eq (by simp [hsplit]) hid hhidden

lemma DistinctTracks.goesBy (h : s.DistinctTracks) (ht : t ∈ s.tracks) (hid : t.id = c.track) :
    s.GoesBy c t := by
  have hfirst := Track.find?_eq_some_iff.mp (h.track?_eq_some_iff.mpr ⟨ht, hid⟩)
  have hlast := Track.find?_reverse_eq_some_iff.mp
    ((h.find?_reverse _).trans (h.track?_eq_some_iff.mpr ⟨ht, hid⟩))
  refine goesBy_of_isFirst hid hfirst.2 hlast.2 fun u hu huid huhidden => ?_
  rwa [List.inj_on_of_nodup_map h ht hu (hid.trans huid.symm)]

/-- **By which track a clip goes.** It plays by the last track of its id and is submitted by the
first one, and it counts as hidden for what is to be heralded just when some track of the id is. So
all goes by one track if that is the first and the last of its id, and hidden if any of the id is;
and where ids are distinct, all goes by the one track there is. A clip on no track is reported
wherever it has a place and refuses the submission, and yet it is heralded as a visible one. -/
theorem goesBy_exactly (s : Snapshot) (c : Clip) :
    (∀ t, t.id = c.track → t.IsLast s.tracks →
      ∀ frame, c.standing s.tracks frame = c.standing [t] frame) ∧
    (∀ t, t.id = c.track → t.IsFirst s.tracks →
      ∀ assets, Submission.entry s assets c = Submission.entry (s.onlyOn t) assets c) ∧
    (s.isHidden c.track = true ↔ ∃ t ∈ s.tracks, t.id = c.track ∧ t.hidden = true) ∧
    (∀ t, t.id = c.track → t.IsFirst s.tracks → t.IsLast s.tracks →
      (∀ u ∈ s.tracks, u.id = c.track → u.hidden = true → t.hidden = true) → s.GoesBy c t) ∧
    (s.DistinctTracks → ∀ t ∈ s.tracks, t.id = c.track → s.GoesBy c t) ∧
    (c.IsStray s.tracks →
      (∀ frame, c.Spans frame →
        c.standing s.tracks frame = .violates (.unknownTrack c.track)) ∧
      (∀ assets, Submission.entry s assets c = .error (.unknownTrack c.id c.track)) ∧
      s.isHidden c.track = false) := by
  refine ⟨fun t => Clip.standing_of_isLast, fun t => entry_of_isFirst, isHidden_iff,
    fun t => goesBy_of_isFirst, fun h t => h.goesBy, fun hstray =>
      ⟨fun frame => Clip.standing_of_isStray hstray, entry_of_isStray hstray, ?_⟩⟩
  exact isHidden_eq_false.mpr fun t ht hid => absurd hid (hstray t ht)

end Snapshot

/-! ### A file with two tracks of one id -/

def Track.veiled : Track := { id := ⟨⟨1⟩⟩, name := "A", order := 0, hidden := true }

/-- A visible track of the same id. -/
def Track.bare : Track := { id := ⟨⟨1⟩⟩, name := "B", order := 5 }

def Clip.twofold : Clip := .place ⟨⟨2⟩⟩ ⟨⟨1⟩⟩ ⟨"second"⟩ 50 10

def Document.doubled : Document where
  tracks := [.veiled, .bare]
  clips := [.place ⟨⟨1⟩⟩ ⟨⟨1⟩⟩ ⟨"first"⟩ 10 30, .twofold]
  assets := [.image ⟨"first"⟩ "first.png", .image ⟨"second"⟩ "second.png"]

namespace Snapshot

/-- The later clip plays by the visible track and is left out of what is submitted by the hidden
one, and it counts as hidden. On the one track that another file has, all goes by it. -/
theorem goesBy_exactly_doubled :
    (∀ frame, Clip.twofold.standing Document.doubled.tracks frame =
      Clip.twofold.standing [.bare] frame) ∧
    (∀ assets, Submission.entry Document.doubled.snapshot assets .twofold = .ok none) ∧
    Document.doubled.snapshot.isHidden Clip.twofold.track = true ∧
    ∀ c ∈ Document.oneClip.snapshot.clips.values, ∀ t ∈ Document.oneClip.tracks,
      Document.oneClip.snapshot.GoesBy c t := by
  obtain ⟨hplays, hsubmits, hheralds, -⟩ := goesBy_exactly Document.doubled.snapshot .twofold
  have hlast : Track.bare.IsLast Document.doubled.tracks := ⟨[.veiled], [], rfl, by simp⟩
  have hfirst : Track.veiled.IsFirst Document.doubled.tracks := ⟨[], [.bare], rfl, by simp⟩
  refine ⟨hplays .bare rfl hlast, hsubmits .veiled rfl hfirst,
    hheralds.mpr ⟨.veiled, List.mem_cons_self, rfl, rfl⟩, fun c hc t ht => ?_⟩
  obtain ⟨-, -, -, -, hdistinct, -⟩ := goesBy_exactly Document.oneClip.snapshot c
  refine hdistinct (by unfold DistinctTracks; decide) t ht ?_
  rw [List.mem_singleton.mp ht, List.mem_singleton.mp hc]
  rfl

/-- Not all that is made of a clip of a file goes by one and the same track. -/
theorem goesBy_unlike : ¬∀ (bytes : ByteArray) (file : TimelineFile),
    TimelineFile.parseBytes bytes = .ok file → ∀ c ∈ file.document.snapshot.clips.values,
      ∃ t ∈ file.document.tracks, file.document.snapshot.GoesBy c t := by
  intro h
  have hread : TimelineFile.parseBytes Document.doubled.bytes = .ok ⟨1, .doubled⟩ :=
    Document.parseBytes_bytes (by decide) (by decide) (by decide +kernel)
  obtain ⟨t, ht, hgoes⟩ := h _ _ hread .twofold (List.mem_cons_of_mem _ List.mem_cons_self)
  rcases List.mem_cons.mp ht with rfl | ht
  · -- The hidden track does not let the clip play.
    have hplays := hgoes.plays 55
    cases hplays
  · -- The clip counts as hidden, and the visible track does not.
    rw [List.mem_singleton.mp ht] at hgoes
    cases hgoes.heralds

end Snapshot

end Montage
