import Mathlib.Algebra.Order.Ring.Int
import Mathlib.Tactic.Ring
import Montage.Proofs.Timeline.Submissions

/-!
How far frames can be told in seconds.

A frame is a 64-bit word, and its time is worked out with signed words of that size: the frame is
taken for such a word, and multiplied by the lower term of the rate. The time is right just when the
product is below 2⁶³. A file that is read has a rate that is of use, but may well name frames beyond
that; then the time is a fault, or it is before the start. For the frames of a clip it is enough to
look at the ends of its window and its trim.
-/

namespace Montage

namespace RationalTime

open Fault (word)

lemma word_of_mem {n : Int} (h : -9223372036854775808 ≤ n) (k : n ≤ 9223372036854775807) :
    word n = .ok n := if_pos ⟨h, k⟩

lemma ofTerms_of_pos (n : Int) {d : Int} (hd : 0 < d) (hword : d ≤ 9223372036854775807) :
    ∃ t, ofTerms n d = .ok t ∧ 0 < t.denom ∧ t.numer * d = n * t.denom := by
  by_cases hn : n = 0
  · exact ⟨zero, by simp [ofTerms, hn, hd.ne', pure, Except.pure], by decide, by simp [zero, hn]⟩
  by_cases hnd : n = d
  · exact ⟨⟨1, 1⟩, by simp [ofTerms, hnd, hd.ne', pure, Except.pure], by decide, by simp [hnd]⟩
  obtain ⟨g, hg⟩ : ∃ g : Int, g = Int.gcd n d := ⟨_, rfl⟩
  have hgn : n.tdiv g * g = n := Int.tdiv_mul_cancel (hg ▸ Int.gcd_dvd_left n d)
  have hgd : d.tdiv g * g = d := Int.tdiv_mul_cancel (hg ▸ Int.gcd_dvd_right n d)
  have hpos : 0 ≤ g := by rw [hg]; exact Int.natCast_nonneg _
  have hquot : 0 < d.tdiv g := pos_of_mul_pos_left (hgd.symm ▸ hd) hpos
  have hle : g ≤ d := by rw [hg]; exact Int.le_of_dvd hd (Int.gcd_dvd_right n d)
  have hgcd : gcd n d = .ok g := by
    rw [gcd, ← hg]
    exact word_of_mem (by omega) (by omega)
  refine ⟨⟨n.tdiv g, d.tdiv g⟩, ?_, hquot, ?_⟩
  · simp [ofTerms, hn, hnd, hd.ne', hgcd, hquot.not_gt, bind, Except.bind, pure, Except.pure]
  · calc n.tdiv g * d = n.tdiv g * (d.tdiv g * g) := by rw [hgd]
      _ = n.tdiv g * g * d.tdiv g := by ring
      _ = n * d.tdiv g := by rw [hgn]

end RationalTime

namespace FrameRate

variable {r : FrameRate} {f g : Frame}

/-- The frame is not too far away for its time to be worked out. -/
def Reaches (r : FrameRate) (f : Frame) : Prop :=
  f.toNat * r.denominator.toNat < 9223372036854775808

instance (r : FrameRate) (f : Frame) : Decidable (r.Reaches f) := by
  unfold Reaches
  infer_instance

lemma Reaches.mono (h : r.Reaches g) (hle : f ≤ g) : r.Reaches f :=
  Nat.lt_of_le_of_lt (Nat.mul_le_mul_right _ (UInt64.le_iff_toNat_le.mp hle)) h

/-- The time of the frame is the quotient that it should be, and not before the start. -/
structure Tells (r : FrameRate) (f : Frame) (t : RationalTime) : Prop where
  time : r.timeOf f = .ok t
  numer : 0 ≤ t.numer
  denom : 0 < t.denom
  quotient : t.numer * r.numerator.toNat = f.toNat * r.denominator.toNat * t.denom

lemma pos_of_isValid (h : r.isValid = true) : 0 < r.numerator.toNat ∧ 0 < r.denominator.toNat := by
  simp only [isValid, Bool.and_eq_true, bne_iff_ne] at h
  exact ⟨Nat.pos_of_ne_zero fun hn => h.1 (UInt32.toNat_inj.mp hn),
    Nat.pos_of_ne_zero fun hd => h.2 (UInt32.toNat_inj.mp hd)⟩

lemma timeOf_of_word {n : Int} (hn : (if f.toNat < 9223372036854775808 then (f.toNat : Int)
      else f.toNat - 18446744073709551616) * r.denominator.toNat = n)
    (hlo : -9223372036854775808 ≤ n) (hhi : n ≤ 9223372036854775807) :
    r.timeOf f = RationalTime.ofTerms n r.numerator.toNat := by
  rw [timeOf, hn, RationalTime.word_of_mem hlo hhi]
  rfl

lemma timeOf_of_not_word {n : Int} (hn : (if f.toNat < 9223372036854775808 then (f.toNat : Int)
      else f.toNat - 18446744073709551616) * r.denominator.toNat = n)
    (hout : ¬(-9223372036854775808 ≤ n ∧ n ≤ 9223372036854775807)) :
    r.timeOf f = .error .overflow := by
  rw [timeOf, hn, Fault.word, if_neg hout]
  rfl

/-- A frame whose time can be worked out, and one whose time cannot. -/
lemma timeOf_cases (hr : r.isValid = true) (f : Frame) :
    r.Reaches f ∧ (∃ t, r.Tells f t) ∨
      ¬r.Reaches f ∧ (r.timeOf f = .error .overflow ∨ ∃ t, r.timeOf f = .ok t ∧ t.numer < 0) := by
  obtain ⟨hnum, hden⟩ := pos_of_isValid hr
  have hnum' : (0 : Int) < r.numerator.toNat := by exact_mod_cast hnum
  have hword : (r.numerator.toNat : Int) ≤ 9223372036854775807 := by
    have := r.numerator.toNat_lt
    omega
  obtain ⟨n, hn⟩ : ∃ n : Int, (if f.toNat < 9223372036854775808 then (f.toNat : Int)
      else f.toNat - 18446744073709551616) * r.denominator.toNat = n := ⟨_, rfl⟩
  by_cases hsmall : f.toNat < 9223372036854775808
  · have hprod : ((f.toNat * r.denominator.toNat : Nat) : Int) = n := by
      rw [← hn, if_pos hsmall]
      push_cast
      rfl
    by_cases hreach : r.Reaches f
    · unfold Reaches at hreach
      obtain ⟨t, htime, hdenom, hquot⟩ := RationalTime.ofTerms_of_pos n hnum' hword
      refine .inl ⟨hreach, t, ?_, ?_, hdenom, ?_⟩
      · rw [timeOf_of_word hn (by omega) (by omega), htime]
      · have hnonneg : 0 ≤ t.numer * r.numerator.toNat := by
          rw [hquot]
          exact mul_nonneg (by omega) hdenom.le
        exact nonneg_of_mul_nonneg_left hnonneg hnum'
      · rw [hquot, ← hprod]
        push_cast
        rfl
    · unfold Reaches at hreach ⊢
      exact .inr ⟨hreach, .inl (timeOf_of_not_word hn (by omega))⟩
  · -- The word that the frame is taken for is negative.
    have hreach : ¬r.Reaches f := fun h => hsmall (Nat.lt_of_le_of_lt
      (Nat.le_mul_of_pos_right _ hden) h)
    have hneg : n < 0 := by
      rw [← hn, if_neg hsmall]
      have := f.toNat_lt
      exact mul_neg_of_neg_of_pos (by omega) (by exact_mod_cast hden)
    refine .inr ⟨hreach, ?_⟩
    by_cases hin : -9223372036854775808 ≤ n
    · obtain ⟨t, htime, hdenom, hquot⟩ := RationalTime.ofTerms_of_pos n hnum' hword
      refine .inr ⟨t, by rw [timeOf_of_word hn hin (by omega), htime], ?_⟩
      have hlt : t.numer * r.numerator.toNat < 0 := by
        rw [hquot]
        exact mul_neg_of_neg_of_pos hneg hdenom
      exact neg_of_mul_neg_left hlt hnum'.le
    · exact .inl (timeOf_of_not_word hn fun h => hin h.1)

/-- **How far frames can be told:** just as far as the product is a word. -/
lemma tells_iff (hr : r.isValid = true) (f : Frame) : (∃ t, r.Tells f t) ↔ r.Reaches f := by
  rcases timeOf_cases hr f with ⟨hreach, htells⟩ | ⟨hreach, hfar⟩
  · exact iff_of_true htells hreach
  · refine iff_of_false (fun ⟨t, ht⟩ => ?_) hreach
    rcases hfar with hfault | ⟨t', ht', hneg⟩
    · cases hfault.symm.trans ht.time
    · obtain rfl : t' = t := Except.ok.inj (ht'.symm.trans ht.time)
      exact absurd ht.numer (by omega)

lemma Tells.secondsOf {t : RationalTime} (h : r.Tells f t) :
    (r.secondsOf f : Except Fault Float) = .ok t.toSeconds := by
  rw [FrameRate.secondsOf, h.time]
  rfl

/-- The seconds are those of the exact quotient. -/
def TellsSeconds (r : FrameRate) (f : Frame) (x : Float) : Prop :=
  ∃ t, r.Tells f t ∧ t.toSeconds = x

lemma TellsSeconds.reaches {x : Float} (hr : r.isValid = true) (h : r.TellsSeconds f x) :
    r.Reaches f :=
  let ⟨t, ht, _⟩ := h
  (tells_iff hr f).mp ⟨t, ht⟩

lemma Reaches.secondsOf (hr : r.isValid = true) (h : r.Reaches f) :
    ∃ x : Float, r.secondsOf f = .ok x := by
  obtain ⟨t, ht⟩ := (tells_iff hr f).mpr h
  exact ⟨_, ht.secondsOf⟩

lemma Reaches.tellsSeconds (hr : r.isValid = true) (h : r.Reaches f) {x : Float}
    (hx : r.secondsOf f = .ok x) : r.TellsSeconds f x := by
  obtain ⟨t, ht⟩ := (tells_iff hr f).mpr h
  exact ⟨t, ht, Except.ok.inj (ht.secondsOf.symm.trans hx)⟩

end FrameRate

/-! Submissions -/

/-- It is not a fault that the computation fails with. -/
def Error.Sound {α : Type} (x : Except Error α) : Prop := ∀ f, x ≠ .error (.fault f)

namespace Error.Sound

variable {α β : Type} {x : Except Error α} {k : α → Except Error β}

lemma ok (a : α) : Sound (.ok a) := fun _ h => by cases h

lemma bind (hx : Sound x) (hk : ∀ a, x = .ok a → Sound (k a)) : Sound (x >>= k) := by
  cases x with
  | error e => exact fun f h => hx f (congrArg _ (Except.error.inj h))
  | ok a => exact hk a rfl

lemma mapM {l : List α} (h : ∀ a ∈ l, Sound (k a)) : Sound (l.mapM k) := by
  induction l with
  | nil => exact ok _
  | cons a l ih =>
    rw [List.mapM_cons]
    refine bind (h a List.mem_cons_self) fun b _ => bind (ih fun c hc => ?_) fun bs _ => ok _
    exact h c (List.mem_cons_of_mem _ hc)

end Error.Sound

namespace Clip

variable {c : Clip} {track : Track} {r : FrameRate} {assets : AssetTable}

lemma start_le_stop (c : Clip) : c.start ≤ c.stop := by
  have hstop : c.stop.toNat = min (c.start.toNat + c.duration.toNat) 18446744073709551615 :=
    Frame.toNat_addSat _ _
  have hstart := c.start.toNat_lt
  rw [UInt64.le_iff_toNat_le]
  omega

/-- The ends of the window and of the trim are not too far away. -/
structure Reaches (c : Clip) (r : FrameRate) : Prop where
  stop : r.Reaches c.stop
  outPoint : r.Reaches c.outPoint

lemma sound_checkTrim (c : Clip) : Error.Sound c.checkTrim := by
  intro f
  rw [checkTrim_eq]
  split_ifs <;> simp

lemma sound_checkSource (c : Clip) (asset : AssetId) (seconds : Float) (r : FrameRate) :
    Error.Sound (c.checkSource asset seconds r) := by
  intro f
  rw [checkSource_eq]
  split_ifs <;> simp

lemma Reaches.exists_entry (h : c.Reaches r) (hr : r.isValid = true) (htrimmed : c.Trimmed)
    (t : Track) (a : MediaAsset) : ∃ e, c.entryOn t a r = .ok e := by
  obtain ⟨start, hstart⟩ := (h.stop.mono c.start_le_stop).secondsOf hr
  obtain ⟨stop, hstop⟩ := h.stop.secondsOf hr
  obtain ⟨trimStart, htrimStart⟩ := (h.outPoint.mono (UInt64.le_of_lt htrimmed.trim)).secondsOf hr
  obtain ⟨trimStop, htrimStop⟩ := h.outPoint.secondsOf hr
  rw [entryOn, hstart, hstop, htrimStart, htrimStop]
  exact ⟨_, rfl⟩

/-- **One clip** is submitted or refused, but its times are no fault. -/
lemma Reaches.sound_submit (h : c.Reaches r) (hr : r.isValid = true) :
    Error.Sound (c.submit track r assets) := by
  rw [submit_eq]
  refine .bind c.sound_checkTrim fun _ htrim => ?_
  have hentry : ∀ a, Error.Sound (c.entryOn track a r) := fun a => by
    obtain ⟨e, he⟩ := h.exists_entry hr (checkTrim_eq_ok.mp htrim) track a
    rw [he]
    exact .ok e
  split
  · exact fun f hf => by cases hf
  · split
    · exact hentry _
    · exact .bind (c.sound_checkSource _ _ _) fun _ _ => hentry _

end Clip

/-- The times of the entry are those of the clip, each exact. -/
structure SubmittedClip.IsTimed (e : SubmittedClip) (c : Clip) (r : FrameRate) : Prop where
  start : r.TellsSeconds c.start e.start
  stop : r.TellsSeconds c.stop e.stop
  trimStart : r.TellsSeconds c.inPoint e.trimStart
  trimStop : r.TellsSeconds c.outPoint e.trimStop

lemma Clip.Reaches.isTimed {c : Clip} {track : Track} {r : FrameRate} {assets : AssetTable}
    {e : SubmittedClip} (h : c.Reaches r) (hr : r.isValid = true)
    (hsubmit : c.submit track r assets = .ok e) : e.IsTimed c r := by
  obtain ⟨a, -, hrenders, he⟩ := Clip.submit_eq_ok.mp hsubmit
  have hin : r.Reaches c.inPoint := h.outPoint.mono (UInt64.le_of_lt hrenders.trimmed.trim)
  exact ⟨(h.stop.mono c.start_le_stop).tellsSeconds hr he.start, h.stop.tellsSeconds hr he.stop,
    hin.tellsSeconds hr he.trimStart, h.outPoint.tellsSeconds hr he.trimStop⟩

/-- The timeline, and every clip on a visible track, end before their times cannot be told. -/
structure Snapshot.Reaches (s : Snapshot) : Prop where
  duration : s.rate.Reaches s.duration
  clips : ∀ c ∈ s.clips.values, s.shows c = true → c.Reaches s.rate

namespace Submission

variable {s : Snapshot} {assets : AssetTable} {sub : Submission}

/-- All times are exact. -/
structure IsTimed (sub : Submission) (s : Snapshot) (assets : AssetTable) : Prop where
  duration : s.rate.TellsSeconds s.duration sub.duration
  clips : ∃ sources, sub.MadeFrom s assets sources ∧
    List.Forall₂ (fun c e => e.IsTimed c s.rate) sources sub.clips

lemma sound_entry (h : s.Reaches) (hr : s.rate.isValid = true) {c : Clip}
    (hc : c ∈ s.clips.values) : Error.Sound (entry s assets c) := by
  unfold entry
  split
  · exact fun f hf => by cases hf
  · next track htrack =>
    split
    · exact .ok _
    · next hvisible =>
      have hshows : s.shows c = true := by simp [Snapshot.shows, htrack, hvisible]
      exact .bind ((h.clips c hc hshows).sound_submit hr) fun _ _ => .ok _

/-- **No fault** where the times can be told, in whatever order the clips come. -/
lemma sound_ofSnapshotAmong (h : s.Reaches) {clips : List Clip}
    (hclips : ∀ c ∈ clips, c ∈ s.clips.values) : Error.Sound (ofSnapshotAmong s assets clips) := by
  unfold ofSnapshotAmong
  dsimp only
  cases hr : s.rate.isValid with
  | false => exact fun f hf => by cases hf
  | true =>
    obtain ⟨x, hx⟩ := h.duration.secondsOf hr
    have hentries : Error.Sound (clips.mapM (entry s assets)) :=
      .mapM fun c hc => sound_entry h hr (hclips c hc)
    refine .bind (.bind hentries fun _ _ => .ok _) fun _ _ => .bind ?_ fun _ _ => .ok _
    rw [Snapshot.seconds, hx]
    exact .ok x

lemma sound_ofSnapshot (h : s.Reaches) : Error.Sound (ofSnapshot s assets) :=
  sound_ofSnapshotAmong h fun _ hc => hc

lemma duration_of_ofSnapshot (h : ofSnapshot s assets = .ok sub) :
    s.rate.secondsOf s.duration = .ok sub.duration :=
  (ofSnapshotAmong_eq_ok.mp h).2.2.1

/-- **The times of a submission** are exact just when they can be told. -/
lemma isTimed_iff (hr : s.rate.isValid = true) (h : ofSnapshot s assets = .ok sub) :
    sub.IsTimed s assets ↔ s.Reaches := by
  constructor
  · rintro ⟨hduration, sources, hmade, htimed⟩
    refine ⟨hduration.reaches hr, fun c hc hshows => ?_⟩
    have hsource : c ∈ sources :=
      hmade.clips.mem_iff.mpr (List.mem_filter.mpr ⟨hc, hshows⟩)
    obtain ⟨e, he⟩ := exists_of_forall₂ htimed c hsource
    exact ⟨he.stop.reaches hr, he.trimStop.reaches hr⟩
  · intro hreaches
    have hmade := madeFrom_sorted h
    refine ⟨hreaches.duration.tellsSeconds hr (duration_of_ofSnapshot h), _, hmade, ?_⟩
    have hsources : ∀ c ∈ _, Clip.Reaches c s.rate := fun c hc =>
      let ⟨hvalue, hshows⟩ := List.mem_filter.mp (hmade.clips.mem_iff.mp hc)
      hreaches.clips c hvalue hshows
    refine (List.forall₂_and_left _ _).mpr ⟨hsources, hmade.entries⟩ |>.imp fun c e hce => ?_
    obtain ⟨track, -, -, hsubmit⟩ := entry_eq_ok_some.mp hce.2
    exact hce.1.isTimed hr hsubmit

end Submission

end Montage
