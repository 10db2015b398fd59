import Montage.Proofs.Frames
import Montage.Timeline.Clip

/-!
Clips that are moved along the timeline.

A clip that is moved by some frames together with its keyframes, and looked at as many frames later,
is what it was: progress is counted from frames of the clip, and these move along. This holds of
keyframes, of the transition at the head, and of when a transition is running. It holds of the
factor of the transition at the tail if its window starts at frame 0 or later. Longer transitions
lose the part that would lie before frame 0, but not the first part of their progress: they start
from full opacity at frame 0, end early, and get further the further right the clip is.
-/

namespace Montage

namespace Keyframe

variable {α : Type} {keys : List (Keyframe α)} {frame k : Frame}

def shift (k : Frame) (key : Keyframe α) : Keyframe α := { key with frame := key.frame + k }

/-- No keyframe gets beyond the last frame there is. -/
def Fit (keys : List (Keyframe α)) (k : Frame) : Prop :=
  ∀ key ∈ keys, key.frame.toNat + k.toNat ≤ Frame.last.toNat

lemma takeWhile_shift (fit : Fit keys k) (hframe : frame.toNat + k.toNat ≤ Frame.last.toNat) :
    (keys.map (shift k)).takeWhile (fun key => key.frame ≤ frame + k) =
      (keys.takeWhile fun key => key.frame ≤ frame).map (shift k) := by
  rw [List.takeWhile_map]
  induction keys with
  | nil => rfl
  | cons key keys ih =>
    obtain ⟨hkey, hkeys⟩ := List.forall_mem_cons.mp fit
    have hiff : (key.shift k).frame ≤ frame + k ↔ key.frame ≤ frame :=
      Frame.add_le_add_iff hkey hframe
    simp only [List.takeWhile_cons, Function.comp_apply, hiff]
    split
    · rw [List.map_cons, List.map_cons, ih hkeys]
    · rfl

lemma resolve_shift [Scalar α] (base : Transform α) (fit : Fit keys k)
    (hframe : frame.toNat + k.toNat ≤ Frame.last.toNat) :
    resolve base (keys.map (shift k)) (frame + k) = resolve base keys frame := by
  simp only [resolve, takeWhile_shift fit hframe, List.length_map, ← List.map_drop,
    List.getLast?_map]
  cases (keys.takeWhile fun key => key.frame ≤ frame).getLast? with
  | none => cases keys.drop (keys.takeWhile fun key => key.frame ≤ frame).length <;> rfl
  | some b =>
    cases keys.drop (keys.takeWhile fun key => key.frame ≤ frame).length with
    | nil => rfl
    | cons a rest =>
      simp only [Option.map_some, List.map_cons, shift, UInt64.add_left_inj, Frame.add_sub_add]

lemma isAnimating_shift (fit : Fit keys k) (hframe : frame.toNat + k.toNat ≤ Frame.last.toNat) :
    isAnimating (keys.map (shift k)) (frame + k) = isAnimating keys frame := by
  unfold isAnimating
  rw [List.head?_map, List.getLast?_map, List.length_map]
  cases hfirst : keys.head? with
  | none => rfl
  | some first =>
    cases hfinal : keys.getLast? with
    | none => rfl
    | some final =>
      have hle := Frame.add_le_add_iff (fit first (List.mem_of_head? hfirst)) hframe
      have hle' := Frame.add_le_add_iff hframe (fit final (List.mem_of_getLast? hfinal))
      simp only [Option.map_some, shift, hle, hle']

end Keyframe

namespace ClipWindow

variable {w : ClipWindow} {head : Option Transition} {frame k : Frame}

def shift (w : ClipWindow) (k : Frame) : ClipWindow := { w with start := w.start + k }

/-- Neither the window nor that of the transition at its head gets beyond the last frame there
is. -/
structure Fits (w : ClipWindow) (head : Option Transition) (k : Frame) : Prop where
  window : w.start.toNat + w.duration.toNat + k.toNat ≤ Frame.last.toNat
  head : ∀ t ∈ head, w.start.toNat + t.duration.toNat + k.toNat ≤ Frame.last.toNat

lemma Fits.toNat_start (fits : w.Fits head k) :
    (w.shift k).start.toNat = w.start.toNat + k.toNat :=
  Frame.toNat_add (by have := fits.window; omega)

lemma Fits.toNat_stop (fits : w.Fits head k) : (w.shift k).stop.toNat = w.stop.toNat + k.toNat := by
  have hfits := fits.window
  rw [Frame.toNat_last] at hfits
  rw [stop, stop, Frame.toNat_addSat, Frame.toNat_addSat, fits.toNat_start]
  show min (w.start.toNat + k.toNat + w.duration.toNat) _ = _
  omega

lemma Fits.toNat_frame (fits : w.Fits head k) (hin : w.contains frame = true) :
    (frame + k).toNat = frame.toNat + k.toNat := by
  have hfits := fits.window
  simp only [contains, Bool.and_eq_true, decide_eq_true_eq] at hin
  have hlt := UInt64.lt_iff_toNat_lt.mp hin.2
  rw [stop, Frame.toNat_addSat] at hlt
  refine Frame.toNat_add ?_
  omega

end ClipWindow

namespace Transition

variable {w : ClipWindow} {head tail : Option Transition} {t : Transition} {frame k : Frame}

/-- How many frames of the transition at the tail would lie before frame 0. -/
def cut (t : Transition) (w : ClipWindow) : Frame := t.duration.subSat w.stop

/-- How many of these there is room for once the clip is moved. -/
def regained (t : Transition) (w : ClipWindow) (k : Frame) : Frame :=
  if k ≤ t.cut w then k else t.cut w

lemma toNat_regained (t : Transition) (w : ClipWindow) (k : Frame) :
    (t.regained w k).toNat = min k.toNat (t.duration.toNat - w.stop.toNat) := by
  have hcut : (t.cut w).toNat = t.duration.toNat - w.stop.toNat := Frame.toNat_subSat _ _
  unfold regained
  split
  · next hle =>
    have := UInt64.le_iff_toNat_le.mp hle
    omega
  · next hlt =>
    have := UInt64.lt_iff_toNat_lt.mp (UInt64.not_le.mp hlt)
    omega

lemma regained_of_le (h : t.duration ≤ w.stop) : t.regained w k = 0 := by
  have hle := UInt64.le_iff_toNat_le.mp h
  have hzero : (0 : Frame).toNat = 0 := rfl
  exact UInt64.toNat_inj.mp (by rw [toNat_regained]; omega)

lemma contains_iff (span : TransitionWindow) : span.contains frame = true ↔
    span.duration ≠ 0 ∧ span.first.toNat ≤ frame.toNat ∧ frame.toNat < span.stop.toNat := by
  simp only [TransitionWindow.contains, Bool.and_eq_true, bne_iff_ne, decide_eq_true_eq,
    UInt64.le_iff_toNat_le, UInt64.lt_iff_toNat_lt, and_assoc]

/-! The window at the head -/

lemma headWindow_contains_shift (fits : w.Fits head k) (ht : t ∈ head)
    (hin : w.contains frame = true) :
    (t.headWindow (w.shift k)).contains (frame + k) = (t.headWindow w).contains frame := by
  have hfits := fits.head t ht
  rw [Frame.toNat_last] at hfits
  rw [Bool.eq_iff_iff]
  simp only [contains_iff, headWindow, fits.toNat_frame hin, fits.toNat_start,
    Frame.toNat_addSat]
  refine and_congr_right fun _ => ?_
  omega

lemma headWindow_progress_shift {α : Type} [Scalar α] :
    (t.headWindow (w.shift k)).progress (frame + k) = ((t.headWindow w).progress frame : α) := by
  simp only [TransitionWindow.progress, headWindow, ClipWindow.shift, Frame.add_sub_add]

/-! The window at the tail -/

lemma tailWindow_contains_shift (fits : w.Fits head k) (hin : w.contains frame = true) :
    (t.tailWindow (w.shift k)).contains (frame + k) = (t.tailWindow w).contains frame := by
  rw [Bool.eq_iff_iff]
  simp only [contains_iff, tailWindow, fits.toNat_frame hin, fits.toNat_stop,
    Frame.toNat_subSat]
  refine and_congr_right fun _ => ?_
  omega

lemma tailWindow_first_shift (fits : w.Fits head k) :
    (t.tailWindow (w.shift k)).first + t.regained w k = (t.tailWindow w).first + k := by
  rw [← UInt64.toNat_inj, UInt64.toNat_add, UInt64.toNat_add, toNat_regained]
  simp only [tailWindow, Frame.toNat_subSat, fits.toNat_stop]
  omega

lemma tailWindow_progress_shift {α : Type} [Scalar α] (fits : w.Fits head k) :
    (t.tailWindow (w.shift k)).progress (frame + k) =
      ((t.tailWindow w).progress (frame + t.regained w k) : α) := by
  have hfirst := tailWindow_first_shift (t := t) fits
  have hpassed : frame + k - (t.tailWindow (w.shift k)).first =
      frame + t.regained w k - (t.tailWindow w).first := by grind
  rw [TransitionWindow.progress, TransitionWindow.progress, hpassed]
  rfl

/-! What a transition does -/

lemma isRunning_shift (fits : w.Fits head k) (hin : w.contains frame = true) :
    isRunning (w.shift k) head tail (frame + k) = isRunning w head tail frame := by
  have hhead : head.any (fun t => (t.headWindow (w.shift k)).contains (frame + k)) =
      head.any fun t => (t.headWindow w).contains frame := by
    cases head with
    | none => rfl
    | some t => exact headWindow_contains_shift fits rfl hin
  rw [isRunning, isRunning, hhead]
  simp only [tailWindow_contains_shift fits hin]

section
variable {α : Type} [Scalar α]

lemma fadeIn_shift (fits : w.Fits head k) (hin : w.contains frame = true) (m : α) :
    fadeIn (w.shift k) (frame + k) m head = fadeIn w frame m head := by
  cases head with
  | none => rfl
  | some t =>
    simp only [fadeIn, headWindow_contains_shift fits rfl hin, headWindow_progress_shift]

lemma fadeOut_shift (fits : w.Fits head k) (hin : w.contains frame = true) (m : α) :
    fadeOut (w.shift k) (frame + k) m (some t) =
      if (t.tailWindow w).contains frame then
        m * t.shape (1.0 - (t.tailWindow w).progress (frame + t.regained w k))
      else m := by
  simp only [fadeOut, tailWindow_contains_shift fits hin, tailWindow_progress_shift fits]

lemma multiplier_shift_of_le (fits : w.Fits head k) (hin : w.contains frame = true)
    (htail : ∀ t ∈ tail, t.duration ≤ w.stop) :
    multiplier (w.shift k) head tail (frame + k) = (multiplier w head tail frame : α) := by
  rw [multiplier, multiplier, fadeIn_shift fits hin]
  cases tail with
  | none => rfl
  | some t =>
    have hframe : frame + t.regained w k = frame := by
      rw [regained_of_le (htail t rfl), UInt64.add_zero]
    rw [fadeOut_shift fits hin, hframe]
    rfl

/-- A transition that starts at frame 0 for want of room gets further by the frames regained. -/
lemma multiplier_shift_of_lt (fits : w.Fits head k) (hin : w.contains frame = true)
    (hlt : w.stop < t.duration) :
    multiplier (w.shift k) head (some t) (frame + k) =
      fadeIn w frame (1.0 : α) head *
        t.shape (1.0 - (t.tailWindow w).progress (frame + t.regained w k)) := by
  have hspan : (t.tailWindow w).contains frame = true := by
    simp only [ClipWindow.contains, Bool.and_eq_true, decide_eq_true_eq] at hin
    have hframe := UInt64.lt_iff_toNat_lt.mp hin.2
    have hduration := UInt64.lt_iff_toNat_lt.mp hlt
    rw [contains_iff]
    refine ⟨fun hzero => ?_, ?_, hframe⟩
    · have : (0 : Frame).toNat = 0 := rfl
      rw [show t.duration = 0 from hzero] at hduration
      omega
    · simp only [tailWindow, Frame.toNat_subSat]
      omega
  rw [multiplier, fadeIn_shift fits hin, fadeOut_shift fits hin, if_pos hspan]

end

end Transition

namespace Clip

variable {c : Clip} {frame k : Frame}

/-- The clip and its keyframes moved to the right. -/
def shift (c : Clip) (k : Frame) : Clip :=
  { c with start := c.start + k, keyframes := c.keyframes.map (Keyframe.shift k) }

/-- No frame that the clip has to do with gets beyond the last one there is. -/
structure Fits (c : Clip) (k : Frame) : Prop where
  window : c.window.Fits c.transitionIn k
  keyframes : Keyframe.Fit c.keyframes k

lemma Fits.frame_le (fits : c.Fits k) (hin : c.isActiveAt frame = true) :
    frame.toNat + k.toNat ≤ Frame.last.toNat := by
  have hlt := (frame + k).toNat_lt
  rw [fits.window.toNat_frame hin] at hlt
  rw [Frame.toNat_last]
  omega

lemma transformAt_shift (fits : c.Fits k) (hin : c.isActiveAt frame = true) :
    (c.shift k).transformAt (frame + k) = c.transformAt frame :=
  Keyframe.resolve_shift c.transform fits.keyframes (fits.frame_le hin)

lemma isAnimatingAt_shift (fits : c.Fits k) (hin : c.isActiveAt frame = true) :
    (c.shift k).isAnimatingAt (frame + k) = c.isAnimatingAt frame := by
  show (Keyframe.isAnimating (c.keyframes.map (Keyframe.shift k)) (frame + k) ||
    Transition.isRunning (c.window.shift k) c.transitionIn c.transitionOut (frame + k)) = _
  rw [Keyframe.isAnimating_shift fits.keyframes (fits.frame_le hin),
    Transition.isRunning_shift fits.window hin]
  rfl

lemma opacityFactorAt_shift_of_le (fits : c.Fits k) (hin : c.isActiveAt frame = true)
    (htail : ∀ t ∈ c.transitionOut, t.duration ≤ c.stop) :
    (c.shift k).opacityFactorAt (frame + k) = c.opacityFactorAt frame := by
  show Transition.multiplier (c.window.shift k) c.transitionIn c.transitionOut (frame + k) = _
  exact Transition.multiplier_shift_of_le fits.window hin htail

lemma visualAt_shift_of_le (fits : c.Fits k) (hin : c.isActiveAt frame = true)
    (htail : ∀ t ∈ c.transitionOut, t.duration ≤ c.stop) :
    (c.shift k).visualAt (frame + k) = c.visualAt frame := by
  unfold visualAt
  rw [transformAt_shift fits hin, opacityFactorAt_shift_of_le fits hin htail]

/-- **A clip that is moved is what it was,** down to the bits: its keyframes give what they gave, and
it is told to be moving when it was. The factor of its transitions is what it was if the window of
the one at the tail starts at frame 0 or later. If it would start before that, its progress gains a
frame for each one that the clip is moved, until there is room for all of it. -/
theorem shift_alike (w : ClipWindow) (head tail : Option Transition) (frame k : Frame)
    (fits : w.Fits head k) (hin : w.contains frame = true) :
    Transition.isRunning (w.shift k) head tail (frame + k) =
      Transition.isRunning w head tail frame ∧
    (∀ {α : Type} [Scalar α],
      ((∀ t ∈ tail, t.duration ≤ w.stop) →
        Transition.multiplier (w.shift k) head tail (frame + k) =
          (Transition.multiplier w head tail frame : α)) ∧
      ∀ t ∈ tail, w.stop < t.duration →
        Transition.multiplier (w.shift k) head tail (frame + k) =
          Transition.fadeIn w frame (1.0 : α) head *
            t.shape (1.0 - (t.tailWindow w).progress (frame + t.regained w k))) ∧
    ∀ c : Clip, c.window = w → c.transitionIn = head → c.transitionOut = tail →
      Keyframe.Fit c.keyframes k →
      (c.shift k).isAnimatingAt (frame + k) = c.isAnimatingAt frame ∧
      (c.shift k).transformAt (frame + k) = c.transformAt frame ∧
      ((∀ t ∈ tail, t.duration ≤ w.stop) →
        (c.shift k).visualAt (frame + k) = c.visualAt frame) := by
  refine ⟨Transition.isRunning_shift fits hin, fun {α} _ =>
    ⟨Transition.multiplier_shift_of_le fits hin, fun t ht hlt => ?_⟩, ?_⟩
  · obtain rfl : tail = some t := ht
    exact Transition.multiplier_shift_of_lt fits hin hlt
  · rintro c rfl rfl rfl hkeys
    have hfits : c.Fits k := ⟨fits, hkeys⟩
    exact ⟨isAnimatingAt_shift hfits hin, transformAt_shift hfits hin,
      visualAt_shift_of_le hfits hin⟩

/-- A clip that fades out from before its first frame on. -/
def fading : Clip :=
  { place ⟨⟨1⟩⟩ ⟨⟨1⟩⟩ ⟨"first"⟩ 30 60 with
    keyframes := [⟨40, .ofOpacity 0, .linear⟩, ⟨50, .ofOpacity 1, .easeIn⟩]
    transitionIn := some ⟨.fade, 10⟩
    transitionOut := some ⟨.dissolve, 80⟩ }

/-- Halfway through the way between its keyframes; and a fade of 20 frames over a clip of 10 that is
moved from the start of the timeline to frame 5, where half of what was cut off is regained. -/
theorem shift_alike_fading :
    fading.window.Fits fading.transitionIn 100 ∧ fading.isActiveAt 45 = true ∧
      (fading.shift 100).visualAt (45 + 100) = fading.visualAt 45 ∧
      Transition.multiplier (ClipWindow.shift ⟨0, 10⟩ 5) none (some ⟨.fade, 20⟩) (5 + 5) =
        (0.5 : Float32) := by
  have hfits : fading.window.Fits fading.transitionIn 100 := ⟨by decide, by decide⟩
  have hkeys : Keyframe.Fit fading.keyframes 100 := by
    unfold Keyframe.Fit
    decide
  have hactive : fading.isActiveAt 45 = true := by decide
  obtain ⟨-, -, hclip⟩ := shift_alike fading.window _ fading.transitionOut 45 100 hfits hactive
  obtain ⟨-, -, hvisual⟩ := hclip fading rfl rfl rfl hkeys
  obtain ⟨-, hfade, -⟩ := shift_alike ⟨0, 10⟩ none (some ⟨.fade, 20⟩) 5 5 ⟨by decide, nofun⟩
    (by decide)
  refine ⟨hfits, hactive, hvisual (by decide), ?_⟩
  exact (hfade.2 ⟨.fade, 20⟩ rfl (by decide)).trans (by decide +kernel)

/-- A fade of 20 frames over a clip of 10 is at three quarters halfway through the clip at the
start of the timeline, and at one quarter ten frames on. -/
theorem shift_unlike_cut :
    (⟨0, 10⟩ : ClipWindow).Fits none 10 ∧ (⟨0, 10⟩ : ClipWindow).contains 5 = true ∧
      Transition.multiplier ⟨0, 10⟩ none (some ⟨.fade, 20⟩) 5 = (0.75 : Float32) ∧
      Transition.multiplier (ClipWindow.shift ⟨0, 10⟩ 10) none (some ⟨.fade, 20⟩) (5 + 10) =
        (0.25 : Float32) ∧ (0.75 : Float32) ≠ 0.25 := by
  refine ⟨⟨by decide, nofun⟩, by decide, by decide +kernel, by decide +kernel, by decide +kernel⟩

end Clip

end Montage
