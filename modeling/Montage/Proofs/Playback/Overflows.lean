import Montage.Proofs.Playback.Runs

/-!
The last frame that there is.

A callback counts on before it looks where the timeline ends. So there is one frame from which it
meets a fault, and that is the last one there is, for no other comes after it. A transport that
plays stands there only if its timeline ends there and it has been moved there while it played.
-/

namespace Montage

namespace Transport

section

variable {τ : Type} [Scalar τ] {t : Transport τ} {ms : τ}

/-- The frames that are paid for can be counted, unless it is from the last one that there is. -/
lemma spend_ok (budget advanced : Nat)
    (h : ¬(t.playhead = Frame.last ∧ budget ≠ 0 ∧ IsDue ms t)) :
    ∃ n ≤ budget, (spend ms budget advanced t).2 = .ok (advanced + n) := by
  induction budget generalizing advanced t with
  | zero => exact ⟨0, Nat.le_refl _, rfl⟩
  | succ budget ih =>
    by_cases hdue : IsDue ms t
    · have hlast : t.playhead ≠ Frame.last := fun hlast => h ⟨hlast, Nat.succ_ne_zero _, hdue⟩
      rw [spend_of_due hdue, if_neg hlast]
      split
      · exact ⟨1, Nat.le_add_left _ _, rfl⟩
      · next hend =>
        -- What is before the end of the timeline is before the last frame there is.
        have hnext : ({ t with saved := t.saved - ms }.moveTo t.nextFrame).playhead ≠ Frame.last :=
          UInt64.ne_of_lt (Frame.lt_last (UInt64.not_le.mp hend))
        obtain ⟨n, hn, hspend⟩ := ih (advanced + 1) fun h => hnext h.1
        exact ⟨n + 1, Nat.succ_le_succ hn, by rw [hspend, Nat.add_assoc, Nat.add_comm 1]⟩
    · exact ⟨0, Nat.zero_le _, by rw [spend_of_not_due hdue]; rfl⟩

/-- The callback that is waited for finds the playhead at the last frame there is, and there is time
for another. -/
def RunsOver (t : Transport τ) (id : RequestId) (timestamp : τ) : Prop :=
  (t.state = .playing ∧ t.pending = some id) ∧ t.playhead = Frame.last ∧
    t.config.maxFramesPerTick.toNat ≠ 0 ∧ IsDue t.msPerFrame (t.save timestamp)

instance {id : RequestId} {timestamp : τ} : Decidable (t.RunsOver id timestamp) :=
  inferInstanceAs (Decidable (_ ∧ _ ∧ _ ∧ _))

lemma callback_of_runsOver {id : RequestId} {timestamp : τ} (h : t.RunsOver id timestamp) :
    (t.callback id timestamp).2 = .error .overflow := by
  obtain ⟨⟨hplaying, hid⟩, hlast, hlimit, hdue⟩ := h
  obtain ⟨budget, hbudget⟩ := Nat.exists_eq_add_one_of_ne_zero hlimit
  have hspend := spend_at_last budget 0 (t := t.save timestamp) hlast hdue
  rw [← hbudget] at hspend
  rw [(callback_of_spend hplaying hid hspend).2 _ rfl]

lemma callback_of_not_runsOver {id : RequestId} {timestamp : τ} (h : ¬t.RunsOver id timestamp) :
    ∃ n ≤ t.config.maxFramesPerTick.toNat, (t.callback id timestamp).2 = .ok n := by
  by_cases hawaited : t.state = .playing ∧ t.pending = some id
  · have hpaid : ¬((t.save timestamp).playhead = Frame.last ∧
        t.config.maxFramesPerTick.toNat ≠ 0 ∧ IsDue t.msPerFrame (t.save timestamp)) :=
      fun hover => h ⟨hawaited, hover⟩
    obtain ⟨n, hn, hspend⟩ := spend_ok t.config.maxFramesPerTick.toNat 0 hpaid
    refine ⟨n, hn, ?_⟩
    rw [(callback_of_spend hawaited.1 hawaited.2 rfl).1 _ hspend, Nat.zero_add]
  · exact ⟨0, Nat.zero_le _, by rw [callback_of_ignored hawaited]⟩

end

section

variable {t t' : Transport Float} {h : Happening} {hs : List Happening}

/-- Playback does not stand at the last frame there is. -/
def Clears (t : Transport Float) : Prop := t.state = .playing → t.playhead ≠ Frame.last

lemma clears_of_ne (h : t.state ≠ .playing) : t.Clears := fun hplaying => absurd hplaying h

lemma clears_pause (hclears : t.Clears) : t.pause.Clears := by
  by_cases hplaying : t.state = .playing
  · rw [pause_of_playing hplaying]
    exact clears_of_ne (by simp)
  · rwa [pause_of_ne hplaying]

lemma clears_play (hclears : t.Clears) : t.play.Clears := by
  unfold play
  split
  · exact hclears
  · intro _
    rw [playhead_enter]
    show (if t.duration ≤ t.playhead then t.moveTo 0 else t).playhead ≠ Frame.last
    split
    · exact (by decide : (0 : Frame) ≠ Frame.last)
    · next hend => exact ne_last (UInt64.not_le.mp hend)

lemma clears_toggle (hclears : t.Clears) : t.toggle.Clears := by
  unfold toggle
  split
  · exact clears_pause hclears
  · exact clears_play hclears

lemma clears_seek {frame : Frame} (hne : frame ≠ Frame.last) : (t.seek frame).Clears := by
  intro _
  show (if t.duration ≤ frame then t.duration else frame) ≠ Frame.last
  split
  · next hend =>
    have hlast : frame < Frame.last := UInt64.lt_of_le_of_ne frame.le_last hne
    exact UInt64.ne_of_lt (UInt64.lt_of_le_of_lt hend hlast)
  · exact hne

lemma clears_setTimeline (hclears : t.Clears) (rate : FrameRate) (duration : Frame) :
    (t.setTimeline rate duration).Clears := by
  unfold setTimeline
  generalize (if rate.isValid then rate else t.frameRate) = rate
  dsimp only
  split
  · next hend => exact fun _ => UInt64.ne_of_lt (Frame.lt_last hend)
  · exact hclears

lemma clears_callback (hsteady : t.Steady) (hclears : t.Clears) {id : RequestId} {timestamp : Float}
    {n : Nat} (ok : (t.callback id timestamp).2 = .ok n) : (t.callback id timestamp).1.Clears := by
  by_cases hid : t.pending = some id
  · obtain ⟨t₁, hcallback, -⟩ := callback_of_ok hsteady hid ok
    rw [hcallback]
    by_cases hend : t₁.duration ≤ t₁.playhead
    · rw [settle_of_le hend]
      exact clears_of_ne (by simp)
    · rw [settle_of_not_le hend]
      exact fun _ => ne_last (UInt64.not_le.mp hend)
  · rwa [callback_of_ignored fun hp => hid hp.2]

/-- Only a move to the last frame there is takes playback there. -/
lemma clears_meet (hsteady : t.Steady) (hclears : t.Clears) (ok : t.meet h = .ok t')
    (hne : h ≠ .told (.seek Frame.last)) : t'.Clears := by
  cases h with
  | told c =>
    cases c with
    | play => cases ok; exact clears_play hclears
    | pause => cases ok; exact clears_pause hclears
    | stop => cases ok; exact clears_of_ne (by simp)
    | toggle => cases ok; exact clears_toggle hclears
    | seek frame => cases ok; exact clears_seek fun heq => hne (by rw [heq])
    | setRate rate => obtain ⟨rate', rfl⟩ := exists_of_setRate ok; exact hclears
    | setVolume volume =>
      cases ok
      obtain ⟨volume', heq⟩ := t.exists_of_setVolume volume
      rw [heq]
      exact hclears
    | setTimeline rate duration => cases ok; exact clears_setTimeline hclears rate duration
    | callback id timestamp =>
      obtain ⟨rfl, n, hn⟩ := obey_callback.mp ok
      exact clears_callback hsteady hclears hn
    | dispose => cases ok; exact clears_of_ne t.state_dispose_ne
    | _ => cases ok; exact hclears
  | _ => cases ok; exact hclears

lemma clears_meets (hsteady : t.Steady) (hclears : t.Clears) (ok : t.meets hs = .ok t')
    (hne : .told (.seek Frame.last) ∉ hs) : t'.Clears := by
  induction hs generalizing t with
  | nil => cases ok; exact hclears
  | cons h hs ih =>
    obtain ⟨hh, hhs⟩ := not_or.mp (mt List.mem_cons.mpr hne)
    obtain ⟨t₁, hmeet, hmeets⟩ := meets_cons.mp ok
    exact ih (steady_meet hsteady hmeet) (clears_meet hsteady hclears hmeet (Ne.symm hh)) hmeets hhs

lemma duration_meet (hsteady : t.Steady) (ok : t.meet h = .ok t') :
    t'.duration = t.duration ∨ ∃ rate, h = .told (.setTimeline rate t'.duration) := by
  cases h with
  | told c =>
    rcases leaves_obey hsteady ok with hleaves | ⟨rate, duration, rfl, rfl⟩
    · exact .inl hleaves.duration
    · exact .inr ⟨rate, by rw [(t.setTimeline_spec rate duration).2.2.1]⟩
  | _ => cases ok; exact .inl rfl

lemma duration_meets (hsteady : t.Steady) (ok : t.meets hs = .ok t') :
    t'.duration = t.duration ∨ ∃ rate, .told (.setTimeline rate t'.duration) ∈ hs := by
  induction hs generalizing t with
  | nil => cases ok; exact .inl rfl
  | cons h hs ih =>
    obtain ⟨t₁, hmeet, hmeets⟩ := meets_cons.mp ok
    rcases ih (steady_meet hsteady hmeet) hmeets with hold | ⟨rate, hmem⟩
    · rcases duration_meet hsteady hmeet with hsame | ⟨rate, rfl⟩
      · exact .inl (hold.trans hsame)
      · exact .inr ⟨rate, by rw [hold]; exact List.mem_cons_self⟩
    · exact .inr ⟨rate, List.mem_cons_of_mem _ hmem⟩

end

/-- **A callback meets no fault but at the last frame there is,** whatever has happened before:
there it does, if it is the one that is waited for and there is time for a frame. For that the
timeline has to end at that frame, as it did from the first or as somebody has set it, and somebody
has to have moved the playhead there. -/
theorem callback_overflows_iff {config : TransportConfig Float} {host : Host}
    {frameRate : FrameRate} {duration : Frame} {hs : List Happening} {t : Transport Float}
    (reached : (new config host frameRate duration).meets hs = .ok t) (id : RequestId)
    (timestamp : Float) :
    ((t.callback id timestamp).2 = .error .overflow ↔ t.RunsOver id timestamp) ∧
    (¬t.RunsOver id timestamp →
      ∃ n ≤ t.config.maxFramesPerTick.toNat, (t.callback id timestamp).2 = .ok n) ∧
    (t.RunsOver id timestamp → t.duration = Frame.last ∧ .told (.seek Frame.last) ∈ hs ∧
      (duration = Frame.last ∨ ∃ rate, .told (.setTimeline rate Frame.last) ∈ hs)) := by
  have hnew : (new config host frameRate duration).Steady := ⟨⟨nofun, nofun⟩, nofun⟩
  have hsteady : t.Steady := steady_meets hnew reached
  refine ⟨⟨fun hfault => ?_, callback_of_runsOver⟩, callback_of_not_runsOver, ?_⟩
  · by_contra hnot
    obtain ⟨n, -, hn⟩ := callback_of_not_runsOver hnot
    rw [hfault] at hn
    cases hn
  · rintro ⟨⟨hplaying, -⟩, hlast, -⟩
    have hend : t.duration = Frame.last :=
      UInt64.le_antisymm t.duration.le_last (hlast ▸ hsteady.within hplaying)
    refine ⟨hend, ?_, ?_⟩
    · by_contra hne
      exact clears_meets hnew (clears_of_ne nofun) reached hne hplaying hlast
    · rw [← hend]
      exact (duration_meets hnew reached).imp_left Eq.symm

/-- A transport with the longest timeline there is plays, gets its first callback, and is moved to
the end. -/
def toTheLast : List Happening :=
  [.told .play, .told (.callback 1 0.0), .told (.seek Frame.last)]

lemma exists_toTheLast : ∃ t, (new .standard {} .fps30 Frame.last).meets toTheLast = .ok t ∧
    t.RunsOver 2 100.0 ∧ ¬t.RunsOver 2 10.0 := by
  obtain ⟨t, reached, hover⟩ := exists_of_any
    (x := (new .standard {} .fps30 Frame.last).meets toTheLast)
    (p := fun t => decide (t.RunsOver 2 100.0 ∧ ¬t.RunsOver 2 10.0)) (by decide +kernel)
  exact ⟨t, reached, of_decide_eq_true hover⟩

/-- A callback that comes 10 ms later meets no fault. One that comes after 100 ms does. -/
theorem callback_overflows_iff_last :
    ∃ t, (new .standard {} .fps30 Frame.last).meets toTheLast = .ok t ∧
      (∃ n ≤ t.config.maxFramesPerTick.toNat, (t.callback 2 10.0).2 = .ok n) ∧
      t.RunsOver 2 100.0 ∧ (t.callback 2 100.0).2 = .error .overflow := by
  obtain ⟨t, reached, hover, hnot⟩ := exists_toTheLast
  exact ⟨t, reached, (callback_overflows_iff reached 2 10.0).2.1 hnot, hover,
    (callback_overflows_iff reached 2 100.0).1.mpr hover⟩

/-- At the last frame there is a callback meets a fault. -/
theorem callback_overflows_at_last :
    ¬∀ (frameRate : FrameRate) (duration : Frame) (hs : List Happening) (t : Transport Float),
      (new .standard {} frameRate duration).meets hs = .ok t →
      ∀ (id : RequestId) (timestamp : Float), ∃ n, (t.callback id timestamp).2 = .ok n := by
  intro h
  obtain ⟨t, reached, hover, -⟩ := exists_toTheLast
  obtain ⟨n, hn⟩ := h .fps30 Frame.last toTheLast t reached 2 100.0
  rw [callback_of_runsOver hover] at hn
  cases hn

end Transport

end Montage
