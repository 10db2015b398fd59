import Mathlib.Data.List.Perm.Basic
import Montage.Proofs.Timeline.Seconds

/-!
Which timelines can be submitted, and what is in a submission.

The clips are gone through one by one, and the first fault that is found refuses the timeline. So
which fault is told depends on the order in which the clips come, but not whether there is one: a
clip is refused for what it says itself, for its track and for its asset, whatever the other clips
are. Entries are sorted down to the ids of their clips. As no two clips have one id, the order of
the clips cannot be seen in the submission either.
-/

namespace Montage

namespace SubmittedClip

/-- The entry comes before another one: its track does, or else it is on a lower layer, or else it
starts before, or else the id of its clip comes first. -/
def Below (a b : SubmittedClip) : Prop :=
  a.trackOrder < b.trackOrder ∨ a.trackOrder = b.trackOrder ∧
    (a.layer < b.layer ∨ a.layer = b.layer ∧
      (a.start.rank < b.start.rank ∨ a.start.rank = b.start.rank ∧ a.clip.rank < b.clip.rank))

variable {a b : SubmittedClip}

lemma compare_eq_lt : a.compare b = .lt ↔ a.Below b := by
  simp only [compare, Ordering.then_eq_lt, Int.compare_eq_lt, Int.compare_eq_eq,
    Nat.compare_eq_lt, Below]

lemma clip_eq_of_compare_eq (h : a.compare b = .eq) : a.clip = b.clip := by
  simp only [compare, Ordering.then_eq_eq, Nat.compare_eq_eq] at h
  exact ClipId.rank_injective h.2.2.2

instance : Std.TransCmp compare := by
  have hlex : compare = compareLex (compareOn (·.trackOrder)) (compareLex (compareOn layer)
      (compareLex (compareOn (·.start.rank)) (compareOn (·.clip.rank)))) := rfl
  rw [hlex]
  infer_instance

end SubmittedClip

namespace Snapshot

variable {s : Snapshot} {c : Clip} {id : TrackId} {t : Track}

lemma DistinctTracks.track?_eq_some_iff (h : s.DistinctTracks) :
    s.track? id = some t ↔ t ∈ s.tracks ∧ t.id = id := by
  rw [← h.find?_reverse]
  exact find?_reverse_eq_some_iff h

end Snapshot

namespace Submission

variable {s : Snapshot} {assets : AssetTable} {sub : Submission} {c : Clip}

lemma nodup_entries {clips : List Clip} {os : List (Option SubmittedClip)}
    (distinct : (clips.map (·.id)).Nodup)
    (h : List.Forall₂ (fun c o => entry s assets c = .ok o) clips os) :
    ((os.filterMap id).map (·.clip)).Nodup := by
  rw [map_clip_of_entries (forall₂_filter_shows h)]
  exact distinct.sublist (List.filter_sublist.map _)

lemma pairwise_below (distinct : s.DistinctClips) (h : ofSnapshot s assets = .ok sub) :
    sub.clips.Pairwise SubmittedClip.Below := by
  obtain ⟨os, hos, hclips⟩ := clips_of_ofSnapshot h
  rw [hclips]
  exact (pairwise_lt_mergeSort SubmittedClip.compare
    (fun _ _ => SubmittedClip.clip_eq_of_compare_eq) (nodup_entries distinct hos)).imp
      SubmittedClip.compare_eq_lt.mp

end Submission

namespace Submission

end Submission

end Montage
