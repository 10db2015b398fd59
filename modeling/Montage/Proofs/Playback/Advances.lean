import Mathlib.Logic.Function.Iterate
import Montage.Proofs.Frames
import Montage.Proofs.Playback.Acts

/-!
The frames that one callback pays for.

Before the end of the timeline a transport goes on frame by frame, until it has no time left that
pays for another, or has gone on by as many as a callback may, or is at the end. A transport that
is at the end already pays for one frame all the same, and stays where it is.
-/

namespace Montage

namespace Transport

variable {τ : Type} [Scalar τ] {t : Transport τ} {ms : τ}

/-- Pays for a frame and goes on to it. -/
def advance (ms : τ) (t : Transport τ) : Transport τ :=
  { t with saved := t.saved - ms }.moveTo (t.playhead + 1)

/-- The time saved up pays for a frame. -/
def IsDue (ms : τ) (t : Transport τ) : Prop := ms ≤ t.saved + slack

instance : Decidable (IsDue ms t) := inferInstanceAs (Decidable (ms ≤ t.saved + slack))

omit [Scalar τ] in
/-- The frames after a frame, one after the other. -/
def climb (p : Frame) (n : Nat) : List TransportEvent :=
  (List.range n).map fun i => .frame (UInt64.ofNat (p.toNat + (i + 1)))

lemma climb_succ (p : Frame) (n : Nat) :
    climb p (n + 1) = climb p n ++ [.frame (UInt64.ofNat (p.toNat + (n + 1)))] := by
  rw [climb, List.range_succ, List.map_append]
  rfl

/-- To go on changes nothing but the playhead and the time saved up, and tells of each frame. -/
lemma exists_advance_iterate (ms : τ) (t : Transport τ) (k : Nat) :
    ∃ saved, (advance ms)^[k] t =
      { t with
        host := { t.host with playhead := UInt64.ofNat (t.playhead.toNat + k) }
        saved
        told := t.told ++ (climb t.playhead k).flatMap fun e =>
          (t.onFrame ++ t.subscribers).map fun id => (id, e) } := by
  induction k with
  | zero => exact ⟨t.saved, by simp [climb, playhead]⟩
  | succ k ih =>
    obtain ⟨saved, ih⟩ := ih
    have hnext : UInt64.ofNat (t.playhead.toNat + k) + 1 =
        UInt64.ofNat (t.playhead.toNat + (k + 1)) := by
      rw [← Nat.add_assoc, UInt64.ofNat_add (t.playhead.toNat + k) 1]
      rfl
    refine ⟨saved - ms, ?_⟩
    rw [Function.iterate_succ_apply', ih, climb_succ, List.flatMap_append, ← List.append_assoc,
      ← hnext]
    simp [advance, moveTo, tell, playhead]

lemma acts_advance_iterate (ms : τ) (t : Transport τ) (k : Nat) : t.Acts ((advance ms)^[k] t) := by
  induction k with
  | zero => rfl
  | succ k ih =>
    rw [Function.iterate_succ_apply']
    exact ih.trans (Acts.set.trans (.moveTo _ _))

lemma toNat_playhead_advance_iterate (ms : τ) (t : Transport τ) {k : Nat}
    (h : t.playhead.toNat + k < 18446744073709551616) :
    ((advance ms)^[k] t).playhead.toNat = t.playhead.toNat + k := by
  obtain ⟨saved, heq⟩ := exists_advance_iterate ms t k
  rw [heq]
  exact UInt64.toNat_ofNat_of_lt' h

lemma spend_of_not_due (h : ¬IsDue ms t) (budget advanced : Nat) :
    spend ms budget advanced t = (t, .ok advanced) := by
  cases budget with
  | zero => rfl
  | succ budget => exact if_neg h

/-- The next frame, or the end of the timeline where that is no later. -/
def nextFrame (t : Transport τ) : Frame :=
  if t.duration ≤ t.playhead + 1 then t.duration else t.playhead + 1

lemma spend_of_due (hdue : IsDue ms t) (budget advanced : Nat) :
    spend ms (budget + 1) advanced t =
      if t.playhead = Frame.last then ({ t with saved := t.saved - ms }, .error .overflow)
      else if t.duration ≤ t.nextFrame then
        ({ t with saved := t.saved - ms }.moveTo t.nextFrame, .ok (advanced + 1))
      else spend ms budget (advanced + 1) ({ t with saved := t.saved - ms }.moveTo t.nextFrame) :=
  if_pos hdue

omit [Scalar τ] in
lemma toNat_succ (h : t.playhead < t.duration) :
    (t.playhead + 1).toNat = t.playhead.toNat + 1 := Frame.toNat_succ (Frame.lt_last h)

omit [Scalar τ] in
lemma ne_last (h : t.playhead < t.duration) : t.playhead ≠ Frame.last :=
  UInt64.ne_of_lt (Frame.lt_last h)

omit [Scalar τ] in
lemma nextFrame_of_lt (h : t.playhead < t.duration) : t.nextFrame = t.playhead + 1 := by
  unfold nextFrame
  split
  · next hle =>
    rw [UInt64.le_iff_toNat_le, toNat_succ h] at hle
    rw [UInt64.lt_iff_toNat_lt] at h
    rw [← UInt64.toNat_inj, toNat_succ h]
    omega
  · rfl

/-- **Before the end** the frames that are paid for are those that there is time for, as far as the
limit and the end of the timeline go. -/
lemma spend_eq (ms : τ) (budget advanced : Nat) (h : t.playhead < t.duration) :
    ∃ k, spend ms budget advanced t = ((advance ms)^[k] t, .ok (advanced + k)) ∧
      k ≤ budget ∧ t.playhead.toNat + k ≤ t.duration.toNat ∧
      (∀ i < k, IsDue ms ((advance ms)^[i] t)) ∧
      (k = budget ∨ t.playhead.toNat + k = t.duration.toNat ∨
        ¬IsDue ms ((advance ms)^[k] t)) := by
  induction budget generalizing advanced t with
  | zero => exact ⟨0, rfl, Nat.le_refl _, Nat.le_of_lt h, nofun, .inl rfl⟩
  | succ budget ih =>
    by_cases hdue : IsDue ms t
    · rw [spend_of_due hdue, if_neg (ne_last h), nextFrame_of_lt h]
      have hp : (advance ms t).playhead.toNat = t.playhead.toNat + 1 := toNat_succ h
      by_cases hend : t.duration ≤ t.playhead + 1
      · have heq : t.playhead.toNat + 1 = t.duration.toNat := by
          rw [UInt64.le_iff_toNat_le, toNat_succ h] at hend
          rw [UInt64.lt_iff_toNat_lt] at h
          omega
        rw [if_pos hend]
        refine ⟨1, rfl, by omega, Nat.le_of_eq heq, fun i hi => ?_, .inr (.inl heq)⟩
        obtain rfl : i = 0 := Nat.lt_one_iff.mp hi
        exact hdue
      · obtain ⟨k, hspend, hk, hwithin, hpaid, hstop⟩ :=
          ih (t := advance ms t) (advanced + 1) (UInt64.not_le.mp hend)
        rw [hp, Nat.add_assoc, Nat.add_comm 1 k] at hwithin hstop
        rw [Nat.add_assoc, Nat.add_comm 1 k] at hspend
        rw [if_neg hend]
        refine ⟨k + 1, hspend, by omega, hwithin, fun i hi => ?_, ?_⟩
        · cases i with
          | zero => exact hdue
          | succ i => exact hpaid i (by omega)
        · exact hstop.imp_left (by omega)
    · exact ⟨0, spend_of_not_due hdue _ _, Nat.zero_le _, Nat.le_of_lt h, nofun, .inr (.inr hdue)⟩

lemma spend_at_last (budget advanced : Nat) (h : t.playhead = Frame.last) (hdue : IsDue ms t) :
    spend ms (budget + 1) advanced t = ({ t with saved := t.saved - ms }, .error .overflow) := by
  rw [spend_of_due hdue, if_pos h]

/-- **At the end** of any other timeline a frame is paid for once, and the playhead stays where it
is. -/
lemma spend_at_end (budget advanced : Nat) (h : t.playhead = t.duration)
    (hlast : t.duration ≠ Frame.last) (hdue : IsDue ms t) :
    spend ms (budget + 1) advanced t =
      ({ t with saved := t.saved - ms }.moveTo t.duration, .ok (advanced + 1)) := by
  have hnext : t.nextFrame = t.duration := by
    have hlt : t.duration.toNat < 18446744073709551615 := by
      have hbound : t.duration.toNat < 18446744073709551616 := t.duration.toNat_lt
      rw [Ne, ← UInt64.toNat_inj, Frame.toNat_last] at hlast
      omega
    refine if_pos ?_
    rw [h, UInt64.le_iff_toNat_le, UInt64.toNat_add, Nat.mod_eq_of_lt (by simp; omega)]
    exact Nat.le_add_right _ _
  rw [spend_of_due hdue, h, if_neg hlast, hnext, if_pos (UInt64.le_refl _)]

end Transport

end Montage
