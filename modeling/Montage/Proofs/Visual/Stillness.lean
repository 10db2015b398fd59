import Montage.Proofs.Frames
import Montage.Proofs.Visual.Keyframes
import Montage.Timeline.Clip

/-!
When a clip keeps still.

What a clip looks like and whether it is moving are worked out apart from each other. Keyframes are
still outside of the frames from the first one to the last one, and always if there is only one;
transitions leave the opacity alone outside of their windows. From one frame to the next nothing
changes unless one of the two is inside: no step leads from before the first keyframe to after it
without a stop on it, nor over the last one or into a window. So along a stretch of frames without a
hint the clip looks the same throughout.
-/

namespace Montage

namespace Keyframe

variable {α : Type} {keys : List (Keyframe α)} {frame : Frame} {first final k : Keyframe α}

lemma outside_of_still (hfirst : keys.head? = some first) (hfinal : keys.getLast? = some final)
    (hmany : 1 < keys.length) (h : isAnimating keys frame = false) :
    frame < first.frame ∨ final.frame < frame := by
  simpa only [isAnimating, hfirst, hfinal, hmany, decide_true, Bool.true_and,
    Bool.and_eq_false_iff, decide_eq_false_iff_not, UInt64.not_le] using h

variable [Scalar α] {base : Transform α}

lemma resolve_singleton : resolve base [k] frame = k.override.onto base := by
  rcases UInt64.lt_or_le frame k.frame with hlt | hle
  · exact resolve_of_early (List.pairwise_singleton _ _) rfl hlt
  · exact resolve_of_late (List.pairwise_singleton _ _) rfl hle

/-- Two frames in a row without a hint are on the same side of all keyframes. -/
lemma resolve_succ_of_still (sorted : Sorted keys) (hlast : frame < Frame.last)
    (h : isAnimating keys frame = false) (h' : isAnimating keys (frame + 1) = false) :
    resolve base keys frame = resolve base keys (frame + 1) := by
  rcases keys with _ | ⟨first, _ | ⟨second, rest⟩⟩
  · rfl
  · rw [resolve_singleton, resolve_singleton]
  obtain ⟨final, hfinal⟩ : ∃ final, (first :: second :: rest).getLast? = some final :=
    ⟨_, List.getLast?_eq_some_getLast (List.cons_ne_nil _ _)⟩
  have hspan := UInt64.le_iff_toNat_le.mp (sorted.head_le rfl (List.mem_of_getLast? hfinal))
  have hout := outside_of_still rfl hfinal (by simp) h
  have hout' := outside_of_still rfl hfinal (by simp) h'
  simp only [UInt64.lt_iff_toNat_lt, Frame.toNat_succ hlast] at hout hout'
  rcases hout with hlt | hlt
  · -- The next frame is not on the first keyframe, so it is still before it.
    have hlt' : frame.toNat + 1 < first.frame.toNat := by omega
    rw [← Frame.toNat_succ hlast] at hlt'
    rw [resolve_of_early sorted rfl (UInt64.lt_iff_toNat_lt.mpr hlt),
      resolve_of_early sorted rfl (UInt64.lt_iff_toNat_lt.mpr hlt')]
  · have hle := Frame.toNat_succ hlast
    rw [resolve_of_late sorted hfinal (UInt64.le_iff_toNat_le.mpr (by omega)),
      resolve_of_late sorted hfinal (UInt64.le_iff_toNat_le.mpr (by omega))]

end Keyframe

namespace Transition

variable {α : Type} [Scalar α] {w : ClipWindow} {head tail : Option Transition} {frame : Frame}

lemma fadeIn_of_still {m : α}
    (h : head.any (fun t => (t.headWindow w).contains frame) = false) :
    fadeIn w frame m head = m := by
  cases head with
  | none => rfl
  | some t => exact if_neg (by simpa using h)

lemma fadeOut_of_still {m : α}
    (h : tail.any (fun t => (t.tailWindow w).contains frame) = false) :
    fadeOut w frame m tail = m := by
  cases tail with
  | none => rfl
  | some t => exact if_neg (by simpa using h)

lemma multiplier_of_still (h : isRunning w head tail frame = false) :
    multiplier w head tail frame = (1.0 : α) := by
  obtain ⟨hhead, htail⟩ := Bool.or_eq_false_iff.mp h
  rw [multiplier, fadeIn_of_still hhead, fadeOut_of_still htail]

end Transition

namespace Clip

variable {c : Clip} {f : Frame}

lemma visualAt_succ_of_still (sorted : Keyframe.Sorted c.keyframes) (hlast : f < Frame.last)
    (h : c.isAnimatingAt f = false) (h' : c.isAnimatingAt (f + 1) = false) :
    c.visualAt f = c.visualAt (f + 1) := by
  obtain ⟨hkeys, hfade⟩ := Bool.or_eq_false_iff.mp h
  obtain ⟨hkeys', hfade'⟩ := Bool.or_eq_false_iff.mp h'
  rw [visualAt, visualAt, transformAt, transformAt, opacityFactorAt, opacityFactorAt,
    Keyframe.resolve_succ_of_still sorted hlast hkeys hkeys',
    Transition.multiplier_of_still hfade, Transition.multiplier_of_still hfade']

/-- **No change without a hint.** When a clip with its keyframes in order looks different from one
frame to the next, it is told to be moving at one of the two. So over a stretch of frames at which
it is not, it looks the same all along. -/
theorem isAnimatingAt_of_change (c : Clip) (sorted : Keyframe.Sorted c.keyframes) :
    (∀ f : Frame, f < Frame.last → c.visualAt f ≠ c.visualAt (f + 1) →
      c.isAnimatingAt f = true ∨ c.isAnimatingAt (f + 1) = true) ∧
    ∀ first final : Frame, (∀ f, first ≤ f → f ≤ final → c.isAnimatingAt f = false) →
      ∀ f, first ≤ f → f ≤ final → c.visualAt f = c.visualAt first := by
  refine ⟨fun f hlast hchange => ?_, fun first final still => Frame.eq_of_steps fun g hg hlt => ?_⟩
  · by_contra hstill
    rw [not_or, Bool.not_eq_true, Bool.not_eq_true] at hstill
    exact hchange (visualAt_succ_of_still sorted hlast hstill.1 hstill.2)
  · have hlast := Frame.lt_last hlt
    have hnext : (g + 1).toNat ≤ final.toNat := by
      rw [Frame.toNat_succ hlast]
      exact UInt64.lt_iff_toNat_lt.mp hlt
    refine visualAt_succ_of_still sorted hlast (still g hg (UInt64.le_of_lt hlt))
      (still (g + 1) ?_ (UInt64.le_iff_toNat_le.mpr hnext))
    rw [UInt64.le_iff_toNat_le, Frame.toNat_succ hlast]
    exact Nat.le_succ_of_le (UInt64.le_iff_toNat_le.mp hg)

/-- A clip that is hidden at frame 10 and shown from frame 11 on, and that is named to be moving at
these two only. -/
def popping : Clip :=
  { place ⟨⟨1⟩⟩ ⟨⟨1⟩⟩ ⟨"first"⟩ 0 60 with
    keyframes := [⟨10, .ofOpacity 0, .linear⟩, ⟨11, .ofOpacity 1, .linear⟩] }

theorem isAnimatingAt_of_change_popping :
    popping.visualAt 10 ≠ popping.visualAt 11 ∧
      (popping.isAnimatingAt 10 = true ∨ popping.isAnimatingAt 11 = true) ∧
      popping.visualAt 59 = popping.visualAt 12 := by
  obtain ⟨hchange, hstill⟩ := isAnimatingAt_of_change popping (by decide)
  have hpops : popping.visualAt 10 ≠ popping.visualAt 11 := by decide +kernel
  refine ⟨hpops, hchange 10 (by decide) hpops, hstill 12 59 (fun f hf _ => ?_) 59 ?_ ?_⟩
  · have hlate : ¬f ≤ 11 := UInt64.not_le.mpr (UInt64.lt_of_lt_of_le (by decide) hf)
    simp [isAnimatingAt, Keyframe.isAnimating, Transition.isRunning, popping, place, hlate]
  · decide
  · decide

end Clip

end Montage
