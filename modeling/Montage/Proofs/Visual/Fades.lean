import Montage.Proofs.Visual.Keyframes
import Montage.Proofs.Visual.Shifts
import Montage.Proofs.Visual.Stillness

/-!
Transitions in exact numbers.

The window of a transition is never longer than the transition, wherever it is cut off: so the part
that has passed stays below 1, and what is seen of the clip lies between 0 and 1. At the head the
window starts with the clip and is followed by full opacity, at the tail it ends with the clip and
full opacity comes before it. Inside of a window progress only grows. So what a transition at the
head lets through never becomes less, and what one at the tail lets through never becomes more.
-/

namespace Montage

namespace TransitionWindow

variable {span : TransitionWindow} {f g : Frame}

/-- The window is no longer than the transition. -/
def IsWithin (span : TransitionWindow) : Prop :=
  span.stop.toNat ≤ span.first.toNat + span.duration.toNat

lemma duration_pos (h : span.contains f = true) : 0 < span.duration.toNat := by
  refine Nat.pos_of_ne_zero fun hzero => (Transition.contains_iff span).mp h |>.1 ?_
  exact UInt64.toNat_inj.mp hzero

lemma progress_eq (h : span.contains f = true) :
    (span.progress f : Rat) = (f.toNat - span.first.toNat) / span.duration.toNat := by
  have hfirst := ((Transition.contains_iff span).mp h).2.1
  rw [progress, Keyframe.ofFrame_eq_natCast, Keyframe.ofFrame_eq_natCast, Frame.toNat_sub hfirst,
    Nat.cast_sub hfirst]

lemma progress_mem (hspan : span.IsWithin) (h : span.contains f = true) :
    (span.progress f : Rat) ∈ Set.Icc (0 : Rat) 1 := by
  obtain ⟨-, hfirst, hstop⟩ := (Transition.contains_iff span).mp h
  have hpassed : f.toNat ≤ span.first.toNat + span.duration.toNat :=
    hstop.le.trans hspan
  have hfirst' : (span.first.toNat : Rat) ≤ f.toNat := by exact_mod_cast hfirst
  have hpassed' : (f.toNat : Rat) ≤ span.first.toNat + span.duration.toNat := by
    exact_mod_cast hpassed
  rw [progress_eq h]
  exact ⟨div_nonneg (by linarith) (Nat.cast_nonneg _),
    div_le_one_of_le₀ (by linarith) (Nat.cast_nonneg _)⟩

lemma progress_lt_progress (hf : span.contains f = true) (hg : span.contains g = true)
    (hlt : f < g) : (span.progress f : Rat) < span.progress g := by
  have hpos : (0 : Rat) < span.duration.toNat := by exact_mod_cast duration_pos hf
  have hlt' : (f.toNat : Rat) < g.toNat := by exact_mod_cast UInt64.lt_iff_toNat_lt.mp hlt
  rw [progress_eq hf, progress_eq hg]
  exact div_lt_div_of_pos_right (by linarith) hpos

lemma progress_le_progress (hf : span.contains f = true) (hg : span.contains g = true)
    (hle : f ≤ g) : (span.progress f : Rat) ≤ span.progress g := by
  rcases UInt64.lt_or_eq_of_le hle with hlt | rfl
  · exact (progress_lt_progress hf hg hlt).le
  · exact le_rfl

end TransitionWindow

namespace Transition

variable {w : ClipWindow} {head tail : Option Transition} {t : Transition} {f g : Frame}

lemma isWithin_headWindow (t : Transition) (w : ClipWindow) : (t.headWindow w).IsWithin := by
  show (w.start.addSat t.duration).toNat ≤ w.start.toNat + t.duration.toNat
  rw [Frame.toNat_addSat]
  exact min_le_left _ _

lemma isWithin_tailWindow (t : Transition) (w : ClipWindow) : (t.tailWindow w).IsWithin := by
  show w.stop.toNat ≤ (w.stop.subSat t.duration).toNat + t.duration.toNat
  rw [Frame.toNat_subSat]
  omega

/-! What is let through of a clip that is seen in part -/

lemma shape_mem {v : Rat} (h : v ∈ Set.Icc (0 : Rat) 1) : t.shape v ∈ Set.Icc (0 : Rat) 1 := by
  unfold shape
  cases t.kind.family with
  | fade => exact h
  | wipe =>
    dsimp only
    split <;> norm_num

lemma shape_monotone (t : Transition) : Monotone (t.shape : Rat → Rat) := by
  intro u v h
  unfold shape
  cases t.kind.family with
  | fade => exact h
  | wipe =>
    dsimp only
    split_ifs with hu hv
    · exact le_rfl
    · exact absurd (hu.trans h) hv
    · norm_num
    · exact le_rfl

lemma shape_of_fade (h : t.kind.family = .fade) (v : Rat) : t.shape v = v := by rw [shape, h]

lemma shape_zero (t : Transition) : t.shape (0 : Rat) = 0 := by
  unfold shape
  cases t.kind.family with
  | fade => rfl
  | wipe => norm_num

lemma fadeIn_some : (fadeIn w f 1.0 (some t) : Rat) =
    if (t.headWindow w).contains f then t.shape ((t.headWindow w).progress f) else 1 := by
  norm_num [fadeIn]

lemma fadeOut_some : (fadeOut w f 1.0 (some t) : Rat) =
    if (t.tailWindow w).contains f then t.shape (1 - (t.tailWindow w).progress f) else 1 := by
  norm_num [fadeOut]

lemma seen_mem (h : (t.tailWindow w).contains f = true) :
    (1 - (t.tailWindow w).progress f : Rat) ∈ Set.Icc (0 : Rat) 1 := by
  obtain ⟨hzero, hone⟩ := TransitionWindow.progress_mem (t.isWithin_tailWindow w) h
  exact ⟨sub_nonneg.mpr hone, sub_le_self 1 hzero⟩

lemma fadeIn_mem (w : ClipWindow) (head : Option Transition) (f : Frame) :
    (fadeIn w f 1.0 head : Rat) ∈ Set.Icc (0 : Rat) 1 := by
  cases head with
  | none => norm_num [fadeIn]
  | some t =>
    rw [fadeIn_some]
    split
    · next hin => exact shape_mem (TransitionWindow.progress_mem (t.isWithin_headWindow w) hin)
    · norm_num

lemma fadeOut_mem (w : ClipWindow) (tail : Option Transition) (f : Frame) :
    (fadeOut w f 1.0 tail : Rat) ∈ Set.Icc (0 : Rat) 1 := by
  cases tail with
  | none => norm_num [fadeOut]
  | some t =>
    rw [fadeOut_some]
    split
    · next hin => exact shape_mem (seen_mem hin)
    · norm_num

lemma multiplier_eq_mul (w : ClipWindow) (head tail : Option Transition) (f : Frame) :
    (multiplier w head tail f : Rat) = fadeIn w f 1.0 head * fadeOut w f 1.0 tail := by
  cases tail with
  | none => norm_num [multiplier, fadeOut]
  | some t =>
    rw [fadeOut_some, multiplier, fadeOut]
    norm_num

/-! From frame to frame -/

lemma contains_clip_iff : w.contains f = true ↔
    w.start.toNat ≤ f.toNat ∧ f.toNat < w.stop.toNat := by
  simp only [ClipWindow.contains, Bool.and_eq_true, decide_eq_true_eq, UInt64.le_iff_toNat_le,
    UInt64.lt_iff_toNat_lt]

lemma headWindow_contains_of_le (hf : w.contains f = true) (hle : f ≤ g)
    (hg : (t.headWindow w).contains g = true) : (t.headWindow w).contains f = true := by
  obtain ⟨hne, -, hstop⟩ := (contains_iff _).mp hg
  exact (contains_iff _).mpr ⟨hne, (contains_clip_iff.mp hf).1,
    (UInt64.le_iff_toNat_le.mp hle).trans_lt hstop⟩

lemma tailWindow_contains_of_le (hg : w.contains g = true) (hle : f ≤ g)
    (hf : (t.tailWindow w).contains f = true) : (t.tailWindow w).contains g = true := by
  obtain ⟨hne, hfirst, -⟩ := (contains_iff _).mp hf
  exact (contains_iff _).mpr ⟨hne, hfirst.trans (UInt64.le_iff_toNat_le.mp hle),
    (contains_clip_iff.mp hg).2⟩

lemma fadeIn_le_fadeIn (hf : w.contains f = true) (hle : f ≤ g) :
    (fadeIn w f 1.0 head : Rat) ≤ fadeIn w g 1.0 head := by
  cases head with
  | none => exact le_rfl
  | some t =>
    by_cases hin : (t.headWindow w).contains g = true
    · have hin' := headWindow_contains_of_le hf hle hin
      rw [fadeIn_some, fadeIn_some, if_pos hin, if_pos hin']
      exact t.shape_monotone (TransitionWindow.progress_le_progress hin' hin hle)
    · -- After the window the clip is seen in full.
      have hfull : (fadeIn w g 1.0 (some t) : Rat) = 1 := by rw [fadeIn_some, if_neg hin]
      exact (fadeIn_mem w (some t) f).2.trans hfull.ge

lemma fadeOut_le_fadeOut (hg : w.contains g = true) (hle : f ≤ g) :
    (fadeOut w g 1.0 tail : Rat) ≤ fadeOut w f 1.0 tail := by
  cases tail with
  | none => exact le_rfl
  | some t =>
    by_cases hin : (t.tailWindow w).contains f = true
    · have hin' := tailWindow_contains_of_le hg hle hin
      have hprogress := TransitionWindow.progress_le_progress hin hin' hle
      rw [fadeOut_some, fadeOut_some, if_pos hin, if_pos hin']
      exact t.shape_monotone (sub_le_sub_left hprogress 1)
    · -- Before the window the clip is seen in full.
      have hfull : (fadeOut w f 1.0 (some t) : Rat) = 1 := by rw [fadeOut_some, if_neg hin]
      exact (fadeOut_mem w (some t) g).2.trans hfull.ge

lemma fadeIn_start (hduration : t.duration ≠ 0) (hstart : w.start < Frame.last) :
    (fadeIn w w.start 1.0 (some t) : Rat) = 0 := by
  have hin : (t.headWindow w).contains w.start = true := by
    have hpos : t.duration.toNat ≠ 0 := fun h => hduration (UInt64.toNat_inj.mp h)
    have hlt := UInt64.lt_iff_toNat_lt.mp hstart
    rw [Frame.toNat_last] at hlt
    refine (contains_iff _).mpr ⟨hduration, le_rfl, ?_⟩
    show w.start.toNat < (w.start.addSat t.duration).toNat
    rw [Frame.toNat_addSat]
    omega
  rw [fadeIn_some, if_pos hin, TransitionWindow.progress_eq hin]
  show t.shape ((w.start.toNat - w.start.toNat : Rat) / _) = 0
  rw [sub_self, zero_div, shape_zero]

lemma isRunning_eq_false
    (hhead : ∀ t ∈ head, f < w.start ∨ w.start.addSat t.duration ≤ f)
    (htail : ∀ t ∈ tail, f < w.stop.subSat t.duration ∨ w.stop ≤ f) :
    isRunning w head tail f = false := by
  have hoff : ∀ span : TransitionWindow, f < span.first ∨ span.stop ≤ f →
      span.contains f = false := by
    intro span hout
    rw [← Bool.not_eq_true, contains_iff]
    rintro ⟨-, hfirst, hstop⟩
    rcases hout with hlt | hle
    · exact absurd (UInt64.lt_iff_toNat_lt.mp hlt) (Nat.not_lt.mpr hfirst)
    · exact absurd (UInt64.le_iff_toNat_le.mp hle) (Nat.not_le.mpr hstop)
  rw [isRunning, Bool.or_eq_false_iff]
  refine ⟨?_, ?_⟩
  · cases head with
    | none => rfl
    | some t => exact hoff (t.headWindow w) (hhead t rfl)
  · cases tail with
    | none => rfl
    | some t => exact hoff (t.tailWindow w) (htail t rfl)

/-- **Fades stay in range and go one way,** whatever the lengths and wherever the windows are cut
off. The factor lies between 0 and 1, and is 1 outside of both windows. A transition at the head
alone never takes back what it has shown, and one at the tail alone never shows again what it has
hidden; fades move at each frame of their windows. A clip with a transition at its head starts
hidden. -/
theorem multiplier_one_way (w : ClipWindow) (head tail : Option Transition) :
    (∀ f, multiplier w head tail f ∈ Set.Icc (0 : Rat) 1) ∧
    (∀ f, (∀ t ∈ head, f < w.start ∨ w.start.addSat t.duration ≤ f) →
      (∀ t ∈ tail, f < w.stop.subSat t.duration ∨ w.stop ≤ f) →
      multiplier w head tail f = (1 : Rat)) ∧
    (∀ f g, w.contains f = true → w.contains g = true → f ≤ g →
      (multiplier w head none f : Rat) ≤ multiplier w head none g ∧
      (multiplier w none tail g : Rat) ≤ multiplier w none tail f) ∧
    (∀ t ∈ head, t.kind.family = .fade → ∀ f g, (t.headWindow w).contains f = true →
      (t.headWindow w).contains g = true → f < g →
      (multiplier w head none f : Rat) < multiplier w head none g) ∧
    (∀ t ∈ tail, t.kind.family = .fade → ∀ f g, (t.tailWindow w).contains f = true →
      (t.tailWindow w).contains g = true → f < g →
      (multiplier w none tail g : Rat) < multiplier w none tail f) ∧
    ∀ t ∈ head, t.duration ≠ 0 → w.start < Frame.last →
      multiplier w head tail w.start = (0 : Rat) := by
  refine ⟨fun f => ?_, fun f hhead htail => ?_,
    fun f g hf hg hle => ⟨fadeIn_le_fadeIn hf hle, fadeOut_le_fadeOut hg hle⟩, ?_, ?_, ?_⟩
  · rw [multiplier_eq_mul]
    have hin := fadeIn_mem w head f
    have hout := fadeOut_mem w tail f
    exact ⟨mul_nonneg hin.1 hout.1, mul_le_one₀ hin.2 hout.1 hout.2⟩
  · rw [multiplier_of_still (isRunning_eq_false hhead htail)]
    norm_num
  · rintro t rfl hfade f g hf hg hlt
    show (fadeIn w f 1.0 (some t) : Rat) < fadeIn w g 1.0 (some t)
    rw [fadeIn_some, fadeIn_some, if_pos hf, if_pos hg, shape_of_fade hfade, shape_of_fade hfade]
    exact TransitionWindow.progress_lt_progress hf hg hlt
  · rintro t rfl hfade f g hf hg hlt
    show (fadeOut w g 1.0 (some t) : Rat) < fadeOut w f 1.0 (some t)
    rw [fadeOut_some, fadeOut_some, if_pos hf, if_pos hg, shape_of_fade hfade,
      shape_of_fade hfade]
    exact sub_lt_sub_left (TransitionWindow.progress_lt_progress hf hg hlt) 1
  · rintro t rfl hduration hstart
    rw [multiplier_eq_mul, fadeIn_start hduration hstart, zero_mul]

/-- A clip of 100 frames that starts five frames before the last one there is, so that its window
and that of its fade of 50 frames are cut off there: it starts hidden and is shown more at the next
frame. A fade of 20 frames at the tail of a clip of 10 that starts at frame 0 begins with it, and
is over after it. -/
theorem multiplier_one_way_cut :
    multiplier ⟨Frame.last - 5, 100⟩ (some ⟨.fade, 50⟩) none (Frame.last - 5) = (0 : Rat) ∧
    (multiplier ⟨Frame.last - 5, 100⟩ (some ⟨.fade, 50⟩) none (Frame.last - 5) : Rat) <
      multiplier ⟨Frame.last - 5, 100⟩ (some ⟨.fade, 50⟩) none (Frame.last - 4) ∧
    (multiplier ⟨0, 10⟩ none (some ⟨.fade, 20⟩) 9 : Rat) ≤
      multiplier ⟨0, 10⟩ none (some ⟨.fade, 20⟩) 0 ∧
    multiplier ⟨0, 10⟩ none (some ⟨.fade, 20⟩) 10 = (1 : Rat) := by
  obtain ⟨-, -, -, hfade, -, hstart⟩ :=
    multiplier_one_way ⟨Frame.last - 5, 100⟩ (some ⟨.fade, 50⟩) none
  obtain ⟨-, hfull, hsteps, -⟩ := multiplier_one_way ⟨0, 10⟩ none (some ⟨.fade, 20⟩)
  refine ⟨hstart _ rfl (by decide) (by decide),
    hfade _ rfl rfl _ _ (by decide) (by decide) (by decide),
    (hsteps 0 9 (by decide) (by decide) (by decide)).2, hfull 10 nofun fun t ht => ?_⟩
  cases ht
  exact .inr (by decide)

end Transition

end Montage
