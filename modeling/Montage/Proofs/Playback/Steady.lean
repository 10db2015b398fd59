import Montage.Proofs.Playback.Advances

/-!
Playback and the request for the next callback.

A transport plays for as long as it waits for a callback. While it plays the playhead is on the
timeline; a playhead that is not stays where it is until a command moves it onto the timeline.
-/

namespace Montage

namespace Transport

variable {τ : Type} {t t' : Transport τ}

lemma clamped_le (stop frame : Frame) : (if stop ≤ frame then stop else frame) ≤ stop := by
  split
  · exact UInt64.le_refl _
  · next h => exact UInt64.le_of_lt (UInt64.not_le.mp h)

/-- Playback runs as long as there is a request, and only on the timeline. -/
structure Steady (t : Transport τ) : Prop where
  playing : t.state = .playing ↔ t.pending.isSome = true
  within : t.state = .playing → t.playhead ≤ t.duration

/-- What becomes of playback. A playhead that is not on the timeline stays where it is until it is
moved there, and playback does not run. -/
structure Leaves (t t' : Transport τ) : Prop where
  playing : t'.state = .playing ↔ t'.pending.isSome = true
  duration : t'.duration = t.duration
  playhead : t'.playhead ≤ t'.duration ∨ t'.state ≠ .playing ∧ t'.playhead = t.playhead

namespace Leaves

lemma steady (h : t.Leaves t') : t'.Steady where
  playing := h.playing
  within hplaying := h.playhead.resolve_right fun hidle => hidle.1 hplaying

lemma within (h : t.Leaves t') (hwithin : t.playhead ≤ t.duration) :
    t'.playhead ≤ t'.duration := by
  rcases h.playhead with hin | ⟨-, hsame⟩
  · exact hin
  · rwa [hsame, h.duration]

end Leaves

namespace Steady

lemma playing_of_pending (h : t.Steady) {id : RequestId} (hid : t.pending = some id) :
    t.state = .playing :=
  h.playing.mpr (by rw [hid]; rfl)

lemma leaves_of_eq (h : t.Steady) (hstate : t'.state = t.state) (hpending : t'.pending = t.pending)
    (hduration : t'.duration = t.duration) (hplayhead : t'.playhead = t.playhead) :
    t.Leaves t' where
  playing := by rw [hstate, hpending]; exact h.playing
  duration := hduration
  playhead := by
    by_cases hplaying : t.state = .playing
    · rw [hplayhead, hduration]
      exact .inl (h.within hplaying)
    · exact .inr ⟨hstate ▸ hplaying, hplayhead⟩

lemma leaves_self (h : t.Steady) : t.Leaves t := h.leaves_of_eq rfl rfl rfl rfl

end Steady

lemma pause_of_playing (h : t.state = .playing) : t.pause = t.cancelTick.enter .paused := if_pos h

lemma pause_of_ne (h : t.state ≠ .playing) : t.pause = t := if_neg h

lemma leaves_pause (h : t.Steady) : t.Leaves t.pause := by
  by_cases hplaying : t.state = .playing
  · rw [pause_of_playing hplaying]
    exact ⟨by simp, by simp, .inr (by simp)⟩
  · rw [pause_of_ne hplaying]
    exact h.leaves_self

lemma state_dispose_ne (t : Transport τ) : t.dispose.state ≠ .playing := by
  show (if t.state = .playing then TransportState.paused else t.state) ≠ .playing
  split
  · nofun
  · assumption

lemma pending_dispose (t : Transport τ) : t.dispose.pending = none := t.pending_cancelTick

lemma leaves_dispose (t : Transport τ) : t.Leaves t.dispose where
  playing := by simp [t.pending_dispose, t.state_dispose_ne]
  duration := t.duration_cancelTick
  playhead := .inr ⟨t.state_dispose_ne, t.playhead_cancelTick⟩

/-- With another timeline the playhead is on it, and playback goes on as before. -/
lemma setTimeline_spec (t : Transport τ) (rate : FrameRate) (duration : Frame) :
    (t.setTimeline rate duration).state = t.state ∧
      (t.setTimeline rate duration).pending = t.pending ∧
      (t.setTimeline rate duration).duration = duration ∧
      (t.setTimeline rate duration).playhead ≤ duration := by
  unfold setTimeline
  generalize (if rate.isValid then rate else t.frameRate) = rate
  dsimp only
  split
  · exact ⟨rfl, rfl, rfl, UInt64.le_refl _⟩
  · next h => exact ⟨rfl, rfl, rfl, UInt64.not_lt.mp h⟩

lemma steady_setTimeline (h : t.Steady) (rate : FrameRate) (duration : Frame) :
    (t.setTimeline rate duration).Steady := by
  obtain ⟨hstate, hpending, hduration, hplayhead⟩ := t.setTimeline_spec rate duration
  refine ⟨?_, fun _ => ?_⟩
  · rw [hstate, hpending]
    exact h.playing
  · rwa [hduration]

variable [Scalar τ]

lemma leaves_play (h : t.Steady) : t.Leaves t.play := by
  unfold play
  split
  · exact h.leaves_self
  · refine ⟨by simp, ?_, .inl ?_⟩
    · dsimp only
      split <;> simp
    · rw [playhead_enter, duration_enter]
      split
      · exact UInt64.zero_le
      · next hend => exact UInt64.le_of_lt (UInt64.not_le.mp hend)

@[simp] lemma state_stop (t : Transport τ) : t.stop.state = .stopped := state_enter _ _

@[simp] lemma pending_stop (t : Transport τ) : t.stop.pending = none := by
  unfold stop
  dsimp only
  rw [pending_enter]
  split <;> simp

lemma leaves_stop (t : Transport τ) : t.Leaves t.stop := by
  unfold stop
  dsimp only
  split
  · next hzero =>
    refine ⟨by simp, by simp, .inl ?_⟩
    rw [playhead_enter]
    exact hzero ▸ UInt64.zero_le
  · refine ⟨by simp, by simp, .inl ?_⟩
    rw [playhead_enter]
    exact UInt64.zero_le

lemma leaves_toggle (h : t.Steady) : t.Leaves t.toggle := by
  unfold toggle
  split
  · exact leaves_pause h
  · exact leaves_play h

lemma leaves_seek (h : t.Steady) (frame : Frame) : t.Leaves (t.seek frame) :=
  ⟨h.playing, rfl, .inl (clamped_le t.duration frame)⟩

lemma leaves_setRate (h : t.Steady) {rate : τ} (ok : t.setRate rate = .ok t') : t.Leaves t' := by
  obtain ⟨rate', rfl⟩ := exists_of_setRate ok
  exact h.leaves_of_eq rfl rfl rfl rfl

omit [Scalar τ] in
lemma leaves_setVolume (h : t.Steady) (volume : Float32) : t.Leaves (t.setVolume volume) := by
  obtain ⟨volume', heq⟩ := t.exists_of_setVolume volume
  rw [heq]
  exact h.leaves_of_eq rfl rfl rfl rfl

lemma settle_of_le (h : t.duration ≤ t.playhead) :
    t.settle = { t with saved := 0.0 }.enter .paused := if_pos h

lemma settle_of_not_le (h : ¬t.duration ≤ t.playhead) : t.settle = t.requestTick := if_neg h

@[simp] lemma playhead_settle (t : Transport τ) : t.settle.playhead = t.playhead := by
  by_cases hend : t.duration ≤ t.playhead
  · rw [settle_of_le hend]
    exact playhead_enter _ _
  · rw [settle_of_not_le hend]
    rfl

@[simp] lemma duration_settle (t : Transport τ) : t.settle.duration = t.duration := by
  by_cases hend : t.duration ≤ t.playhead
  · rw [settle_of_le hend]
    exact duration_enter _ _
  · rw [settle_of_not_le hend]
    rfl

lemma leaves_settle (hplaying : t.state = .playing) (hpending : t.pending = none)
    (hwithin : t.playhead ≤ t.duration) : t.Leaves t.settle := by
  by_cases hend : t.duration ≤ t.playhead
  · rw [settle_of_le hend]
    refine ⟨by simp [hpending], by simp, .inl ?_⟩
    rw [playhead_enter, duration_enter]
    exact hwithin
  · rw [settle_of_not_le hend]
    exact ⟨by simp [hplaying], rfl, .inl hwithin⟩

lemma callback_of_ignored {id : RequestId} (h : ¬(t.state = .playing ∧ t.pending = some id))
    (timestamp : τ) : t.callback id timestamp = (t, .ok 0) :=
  if_neg h

lemma callback_of_spend {id : RequestId} {timestamp : τ} {r : Except Fault Nat}
    (hplaying : t.state = .playing) (hid : t.pending = some id)
    (h : spend t.msPerFrame t.config.maxFramesPerTick.toNat 0 (t.save timestamp) = (t', r)) :
    (∀ n, r = .ok n → t.callback id timestamp = (t'.settle, .ok n)) ∧
      ∀ f, r = .error f → t.callback id timestamp = (t', .error f) := by
  have hspend : spend (t.save timestamp).msPerFrame
      (t.save timestamp).config.maxFramesPerTick.toNat 0 (t.save timestamp) = (t', r) := h
  unfold callback
  rw [if_pos ⟨hplaying, hid⟩]
  dsimp only
  rw [hspend]
  constructor <;> rintro _ rfl <;> rfl

/-- **Before the end** the callback that is waited for goes on frame by frame, until it has gone on
by as many as it may, or is at the end, or has no time left for another. -/
lemma callback_of_lt {id : RequestId} (hplaying : t.state = .playing) (hid : t.pending = some id)
    (h : t.playhead < t.duration) (timestamp : τ) :
    ∃ k, t.callback id timestamp =
        (((advance t.msPerFrame)^[k] (t.save timestamp)).settle, .ok k) ∧
      k ≤ t.config.maxFramesPerTick.toNat ∧ t.playhead.toNat + k ≤ t.duration.toNat ∧
      (∀ i < k, IsDue t.msPerFrame ((advance t.msPerFrame)^[i] (t.save timestamp))) ∧
      (k = t.config.maxFramesPerTick.toNat ∨ t.playhead.toNat + k = t.duration.toNat ∨
        ¬IsDue t.msPerFrame ((advance t.msPerFrame)^[k] (t.save timestamp))) := by
  obtain ⟨k, hspend, hk⟩ := spend_eq t.msPerFrame t.config.maxFramesPerTick.toNat 0
    (t := t.save timestamp) h
  rw [Nat.zero_add] at hspend
  exact ⟨k, (callback_of_spend hplaying hid hspend).1 _ rfl, hk⟩

/-- The callback that is waited for finds the playhead at the end, and there is time for a frame. -/
def PaysAtEnd (t : Transport τ) (id : RequestId) (timestamp : τ) : Prop :=
  t.state = .playing ∧ t.pending = some id ∧ t.playhead = t.duration ∧
    t.config.maxFramesPerTick.toNat ≠ 0 ∧ IsDue t.msPerFrame (t.save timestamp)

instance {id : RequestId} {timestamp : τ} : Decidable (t.PaysAtEnd id timestamp) :=
  inferInstanceAs (Decidable (_ ∧ _ ∧ _ ∧ _ ∧ _))

/-- **All that the callback that is waited for can do.** It goes on by some frames, or it pays for a
frame at the end of the timeline. -/
lemma awaited_cases (h : t.Steady) {id : RequestId} (hid : t.pending = some id) (timestamp : τ) :
    (¬t.PaysAtEnd id timestamp ∧ ∃ k, k ≤ t.config.maxFramesPerTick.toNat ∧
      t.playhead.toNat + k ≤ t.duration.toNat ∧ t.callback id timestamp =
        (((advance t.msPerFrame)^[k] (t.save timestamp)).settle, .ok k)) ∨
    (t.PaysAtEnd id timestamp ∧ t.duration ≠ Frame.last ∧ ∃ saved, t.callback id timestamp =
      (({ t.save timestamp with saved }.moveTo t.duration).settle, .ok 1)) ∨
    (t.PaysAtEnd id timestamp ∧ t.duration = Frame.last ∧
      (t.callback id timestamp).2 = .error .overflow) := by
  have hplaying := h.playing_of_pending hid
  by_cases hlt : t.playhead < t.duration
  · obtain ⟨k, hcallback, hk, hwithin, -⟩ := callback_of_lt hplaying hid hlt timestamp
    exact .inl ⟨fun hpays => UInt64.ne_of_lt hlt hpays.2.2.1, k, hk, hwithin, hcallback⟩
  · have hend : t.playhead = t.duration :=
      UInt64.le_antisymm (h.within hplaying) (UInt64.not_lt.mp hlt)
    by_cases hpays : t.PaysAtEnd id timestamp
    · have ⟨_, _, _, hlimit, hdue⟩ := hpays
      obtain ⟨budget, hbudget⟩ := Nat.exists_eq_add_one_of_ne_zero hlimit
      by_cases hlast : t.duration = Frame.last
      · have hspend := spend_at_last budget 0 (t := t.save timestamp) (hend.trans hlast) hdue
        rw [← hbudget] at hspend
        exact .inr (.inr ⟨hpays, hlast,
          congrArg Prod.snd ((callback_of_spend hplaying hid hspend).2 _ rfl)⟩)
      · have hspend := spend_at_end budget 0 (t := t.save timestamp) hend hlast hdue
        rw [← hbudget] at hspend
        exact .inr (.inl ⟨hpays, hlast, _, (callback_of_spend hplaying hid hspend).1 _ rfl⟩)
    · -- Nothing is paid for.
      have hspend : spend t.msPerFrame t.config.maxFramesPerTick.toNat 0 (t.save timestamp) =
          (t.save timestamp, .ok 0) := by
        by_cases hdue : IsDue t.msPerFrame (t.save timestamp)
        · have hzero : t.config.maxFramesPerTick.toNat = 0 := by
            by_contra hne
            exact hpays ⟨hplaying, hid, hend, hne, hdue⟩
          rw [hzero]
          rfl
        · exact spend_of_not_due hdue _ _
      exact .inl ⟨hpays, 0, Nat.zero_le _, Nat.le_of_eq (by rw [hend, Nat.add_zero]),
        (callback_of_spend hplaying hid hspend).1 _ rfl⟩

/-- The callback that is waited for, if it meets no fault. -/
lemma callback_of_ok (h : t.Steady) {id : RequestId} (hid : t.pending = some id) {timestamp : τ}
    {n : Nat} (ok : (t.callback id timestamp).2 = .ok n) :
    ∃ t₁, t.callback id timestamp = (t₁.settle, .ok n) ∧ t.Acts t₁ ∧ t₁.state = .playing ∧
      t₁.pending = none ∧ t₁.duration = t.duration ∧ t₁.playhead ≤ t₁.duration := by
  have hplaying := h.playing_of_pending hid
  rcases awaited_cases h hid timestamp with
    ⟨-, k, -, hwithin, hcallback⟩ | ⟨-, -, saved, hcallback⟩ | ⟨-, -, hfault⟩
  · obtain ⟨saved, heq⟩ := exists_advance_iterate t.msPerFrame (t.save timestamp) k
    have hplayhead := toNat_playhead_advance_iterate t.msPerFrame (t.save timestamp)
      (Nat.lt_of_le_of_lt hwithin t.duration.toNat_lt)
    rw [hcallback] at ok
    cases ok
    refine ⟨_, hcallback, (t.acts_save timestamp).trans (acts_advance_iterate _ _ _), ?_⟩
    rw [heq] at hplayhead ⊢
    refine ⟨hplaying, rfl, rfl, ?_⟩
    rw [UInt64.le_iff_toNat_le, hplayhead]
    exact hwithin
  · rw [hcallback] at ok
    cases ok
    exact ⟨_, hcallback, (t.acts_save timestamp).trans (Acts.set.trans (.moveTo _ _)), hplaying,
      rfl, rfl, UInt64.le_refl _⟩
  · rw [hfault] at ok
    cases ok

/-- On a timeline that ends before the last frame there is, the callback that is waited for meets
no fault. -/
lemma callback_spec (h : t.Steady) (hbounded : t.duration < Frame.last) {id : RequestId}
    (hid : t.pending = some id) (timestamp : τ) :
    ∃ n t₁, t.callback id timestamp = (t₁.settle, .ok n) ∧ t.Acts t₁ ∧ t₁.state = .playing ∧
      t₁.pending = none ∧ t₁.duration = t.duration ∧ t₁.playhead ≤ t₁.duration := by
  have hok : ∃ n, (t.callback id timestamp).2 = .ok n := by
    rcases awaited_cases h hid timestamp with
      ⟨-, k, -, -, hcallback⟩ | ⟨-, -, saved, hcallback⟩ | ⟨-, hlast, -⟩
    · exact ⟨k, congrArg Prod.snd hcallback⟩
    · exact ⟨1, congrArg Prod.snd hcallback⟩
    · rw [hlast] at hbounded
      exact absurd hbounded (UInt64.lt_irrefl _)
  obtain ⟨n, hn⟩ := hok
  exact ⟨n, callback_of_ok h hid hn⟩

lemma leaves_callback (h : t.Steady) {id : RequestId} {timestamp : τ} {n : Nat}
    (ok : (t.callback id timestamp).2 = .ok n) : t.Leaves (t.callback id timestamp).1 := by
  by_cases hid : t.pending = some id
  · obtain ⟨t₁, hcallback, -, hplaying, hpending, hduration, hwithin⟩ := callback_of_ok h hid ok
    have hl := leaves_settle hplaying hpending hwithin
    rw [hcallback]
    exact ⟨hl.playing, hl.duration.trans hduration, .inl (hl.within hwithin)⟩
  · rw [callback_of_ignored fun hp => hid hp.2]
    exact h.leaves_self

end Transport

end Montage
