import Montage.Proofs.Playback.Requests
import Montage.Proofs.Playback.Steady

/-!
The one request of a transport.

A transport waits for a callback only while it plays, and whatever it is told to do it leaves no
request behind: a request that it does not wait for any more is not pending any more either. For a
callback that is so as long as the display has handed the request out before.
-/

namespace Montage

namespace Transport

variable {τ : Type} {t t₁ t' : Transport τ}

/-- Only a transport that plays waits for a callback. -/
def WaitsInPlay (t : Transport τ) : Prop := t.pending.isSome = true → t.state = .playing

lemma WaitsInPlay.pending_eq_none (h : t.WaitsInPlay) (hs : t.state ≠ .playing) :
    t.pending = none := by
  cases hp : t.pending with
  | none => rfl
  | some id => exact absurd (h (by rw [hp]; rfl)) hs

lemma waitsInPlay_of_none (h : t.pending = none) : t.WaitsInPlay := by
  intro hsome
  rw [h] at hsome
  cases hsome

/-- Whatever is pending afterwards is the request of the transport, or it was pending before as the
request of somebody else. -/
def Tidies (t t' : Transport τ) : Prop :=
  ∀ id ∈ t'.host.requests.pending,
    t'.pending = some id ∨ id ∈ t.host.requests.pending ∧ t.pending ≠ some id

namespace Tidies

lemma of_eq (hr : t'.host.requests.pending = t.host.requests.pending)
    (hp : t'.pending = t.pending) : t.Tidies t' := by
  intro id hid
  by_cases hown : t.pending = some id
  · exact .inl (hp.trans hown)
  · exact .inr ⟨hr ▸ hid, hown⟩

@[refl] lemma refl (t : Transport τ) : t.Tidies t := of_eq rfl rfl

lemma trans (h : t.Tidies t₁) (k : t₁.Tidies t') : t.Tidies t' := by
  intro id hid
  rcases k id hid with hown | ⟨hid₁, hne⟩
  · exact .inl hown
  · exact .inr ((h id hid₁).resolve_left hne)

lemma cancelTick (t : Transport τ) : t.Tidies t.cancelTick := by
  cases hp : t.pending with
  | none => rw [cancelTick_of_none hp]
  | some own =>
    rw [cancelTick_of_some hp]
    intro id hid
    obtain ⟨hmem, hne⟩ := FrameRequests.mem_pending_cancel.mp hid
    exact .inr ⟨hmem, fun heq => hne (Option.some.inj (heq.symm.trans hp))⟩

lemma requestTick (h : t.pending = none) : t.Tidies t.requestTick := by
  intro id hid
  rcases List.mem_append.mp hid with hold | hnew
  · exact .inr ⟨hold, by simp [h]⟩
  · exact .inl (congrArg some (List.mem_singleton.mp hnew).symm)

lemma forget (h : ∀ id, t.pending = some id → id ∉ t.host.requests.pending) :
    t.Tidies { t with pending := none } :=
  fun id hid => .inr ⟨hid, fun hown => h id hown hid⟩

end Tidies

lemma tidies_pause (t : Transport τ) : t.Tidies t.pause := by
  unfold pause
  split
  · exact (Tidies.cancelTick t).trans (.of_eq (by simp) (by simp))
  · exact .refl t

lemma waitsInPlay_pause (h : t.WaitsInPlay) : t.pause.WaitsInPlay := by
  unfold pause
  split
  · exact waitsInPlay_of_none (by simp)
  · exact h

lemma tidies_setTimeline (t : Transport τ) (rate : FrameRate) (duration : Frame) :
    t.Tidies (t.setTimeline rate duration) := by
  refine .of_eq ?_ (t.setTimeline_spec rate duration).2.1
  unfold setTimeline
  generalize (if rate.isValid then rate else t.frameRate) = rate
  dsimp only
  split <;> rfl

lemma waitsInPlay_setTimeline (h : t.WaitsInPlay) (rate : FrameRate) (duration : Frame) :
    (t.setTimeline rate duration).WaitsInPlay := by
  obtain ⟨hstate, hpending, -, -⟩ := t.setTimeline_spec rate duration
  rw [WaitsInPlay, hstate, hpending]
  exact h

lemma tidies_dispose (t : Transport τ) : t.Tidies t.dispose :=
  (Tidies.cancelTick t).trans (.of_eq rfl rfl)

variable [Scalar τ]

lemma tidies_play (h : t.WaitsInPlay) : t.Tidies t.play := by
  unfold play
  split
  · exact .refl t
  · next hstop =>
    have hnone : t.pending = none := h.pending_eq_none fun hs => hstop (.inl hs)
    generalize hmove : (if t.duration ≤ t.playhead then t.moveTo 0 else t) = t₁
    obtain ⟨hrequests, hpending⟩ :
        t₁.host.requests = t.host.requests ∧ t₁.pending = t.pending := by
      subst hmove
      split <;> exact ⟨rfl, rfl⟩
    have hready : t.Tidies { t₁ with saved := 0.0, lastTimestamp := none } :=
      .of_eq (by rw [hrequests]) hpending
    exact (hready.trans (.requestTick (hpending.trans hnone))).trans (.of_eq (by simp) (by simp))

lemma waitsInPlay_play (h : t.WaitsInPlay) : t.play.WaitsInPlay := by
  unfold play
  split
  · exact h
  · exact fun _ => state_enter _ _

lemma tidies_stop (t : Transport τ) : t.Tidies t.stop := by
  refine (Tidies.cancelTick t).trans (.of_eq ?_ ?_)
  · unfold stop
    dsimp only
    rw [host_enter]
    split <;> rfl
  · rw [pending_stop, pending_cancelTick]

lemma tidies_toggle (h : t.WaitsInPlay) : t.Tidies t.toggle := by
  unfold toggle
  split
  · exact t.tidies_pause
  · exact tidies_play h

lemma waitsInPlay_toggle (h : t.WaitsInPlay) : t.toggle.WaitsInPlay := by
  unfold toggle
  split
  · exact waitsInPlay_pause h
  · exact waitsInPlay_play h

/-! Callbacks -/

lemma spend_requests (ms : τ) (budget advanced : Nat) (t : Transport τ) :
    (spend ms budget advanced t).1.host.requests = t.host.requests ∧
      (spend ms budget advanced t).1.pending = t.pending ∧
        (spend ms budget advanced t).1.state = t.state := by
  induction budget generalizing advanced t with
  | zero => exact ⟨rfl, rfl, rfl⟩
  | succ budget ih =>
    unfold spend
    split
    · dsimp only
      split
      · exact ⟨rfl, rfl, rfl⟩
      · generalize (if t.duration ≤ _ then t.duration else _) = frame
        split
        · exact ⟨rfl, rfl, rfl⟩
        · exact ih _ _
    · exact ⟨rfl, rfl, rfl⟩

/-- The callback that is waited for. After that the transport waits for none, and settles unless
there was a fault. -/
lemma callback_cases {id : RequestId} (hs : t.state = .playing) (hp : t.pending = some id)
    (timestamp : τ) :
    ∃ t₁ : Transport τ, t₁.host.requests = t.host.requests ∧ t₁.pending = none ∧
      t₁.state = .playing ∧
        ((t.callback id timestamp).1 = t₁.settle ∨ (t.callback id timestamp).1 = t₁) := by
  obtain ⟨hrequests, hpending, hstate⟩ := spend_requests (t.save timestamp).msPerFrame
    (t.save timestamp).config.maxFramesPerTick.toNat 0 (t.save timestamp)
  refine ⟨_, hrequests, hpending, hstate.trans hs, ?_⟩
  unfold callback
  rw [if_pos ⟨hs, hp⟩]
  dsimp only
  split
  · next h => exact .inl (by rw [h])
  · next h => exact .inr (by rw [h])

lemma settle_cases (t : Transport τ) : t.settle = { t with saved := 0.0 }.enter .paused ∨
    t.settle = t.requestTick := by
  unfold settle
  split
  · exact .inl rfl
  · exact .inr rfl

lemma tidies_callback (h : t.WaitsInPlay) {id : RequestId}
    (taken : id ∉ t.host.requests.pending) (timestamp : τ) :
    t.Tidies (t.callback id timestamp).1 := by
  by_cases hid : t.pending = some id
  · obtain ⟨t₁, hrequests, hnone, -, hresult⟩ :=
      callback_cases (h (by rw [hid]; rfl)) hid timestamp
    have hforget : t.Tidies t₁ := by
      intro other hother
      rw [hrequests] at hother
      refine .inr ⟨hother, fun hown => ?_⟩
      rw [hid] at hown
      exact taken (Option.some.inj hown ▸ hother)
    rcases hresult with heq | heq
    · rw [heq]
      rcases t₁.settle_cases with hsettle | hsettle
      · rw [hsettle]
        exact hforget.trans (.of_eq (by simp) (by simp))
      · rw [hsettle]
        exact hforget.trans (.requestTick hnone)
    · rwa [heq]
  · rw [callback_of_ignored (fun hboth => hid hboth.2)]

lemma waitsInPlay_callback (h : t.WaitsInPlay) (id : RequestId) (timestamp : τ) :
    (t.callback id timestamp).1.WaitsInPlay := by
  by_cases hid : t.pending = some id
  · obtain ⟨t₁, -, hnone, hplaying, hresult⟩ :=
      callback_cases (h (by rw [hid]; rfl)) hid timestamp
    rcases hresult with heq | heq
    · rw [heq]
      rcases t₁.settle_cases with hsettle | hsettle
      · rw [hsettle]
        exact waitsInPlay_of_none (by simpa using hnone)
      · rw [hsettle]
        exact fun _ => hplaying
    · rw [heq]
      exact waitsInPlay_of_none hnone
  · rw [callback_of_ignored (fun hboth => hid hboth.2)]
    exact h

/-- After the callback that it has waited for, a transport waits for a new one, if for any. -/
lemma issued_lt_of_callback (h : t.WaitsInPlay) {id own : RequestId} (hid : t.pending = some id)
    {timestamp : τ} (hown : (t.callback id timestamp).1.pending = some own) :
    t.host.requests.issued < own := by
  obtain ⟨t₁, hrequests, hnone, -, hresult⟩ :=
    callback_cases (h (by rw [hid]; rfl)) hid timestamp
  rcases hresult with heq | heq
  · rw [heq] at hown
    rcases t₁.settle_cases with hsettle | hsettle
    · rw [hsettle, pending_enter] at hown
      cases hnone.symm.trans hown
    · rw [hsettle, pending_requestTick] at hown
      rw [← Option.some.inj hown, hrequests]
      exact Nat.lt_succ_self _
  · rw [heq, hnone] at hown
    cases hown

/-! Commands -/

/-- The transport after a command. One that it cannot carry out changes nothing; a callback that
ends in a fault goes as far as that. -/
def after (t : Transport Float) : Command → Transport Float
  | .callback id timestamp => (t.callback id timestamp).1
  | c => (t.obey c).toOption.getD t

/-- A callback comes with a request that the display has handed out. -/
def Command.IsTaken (t : Transport Float) : Command → Prop
  | .callback id _ => id ∉ t.host.requests.pending
  | _ => True

lemma obey_or_eq_of_after (t : Transport Float) (c : Command) :
    (∃ id timestamp, c = .callback id timestamp) ∨ t.obey c = .ok (t.after c) ∨ t.after c = t := by
  cases c with
  | callback id timestamp => exact .inl ⟨id, timestamp, rfl⟩
  | setRate rate =>
    have hafter : t.after (.setRate rate) = (t.obey (.setRate rate)).toOption.getD t := rfl
    cases hrate : t.obey (.setRate rate) with
    | ok t' =>
      rw [hrate] at hafter
      exact .inr (.inl (by rw [hafter]; rfl))
    | error f =>
      rw [hrate] at hafter
      exact .inr (.inr hafter)
  | _ => exact .inr (.inl rfl)

lemma spares_after (t : Transport Float) (c : Command) : t.Spares (t.after c) := by
  rcases t.obey_or_eq_of_after c with ⟨id, timestamp, rfl⟩ | ok | heq
  · exact t.spares_callback id timestamp
  · exact spares_obey ok
  · rw [heq]

/-- **Whatever it is told to do,** a transport leaves no request behind, and waits for a callback
only while it plays. -/
lemma tidies_after {t : Transport Float} (h : t.WaitsInPlay) {c : Command} (taken : c.IsTaken t) :
    t.Tidies (t.after c) ∧ (t.after c).WaitsInPlay := by
  cases c with
  | play => exact ⟨tidies_play h, waitsInPlay_play h⟩
  | pause => exact ⟨t.tidies_pause, waitsInPlay_pause h⟩
  | stop => exact ⟨t.tidies_stop, waitsInPlay_of_none t.pending_stop⟩
  | toggle => exact ⟨tidies_toggle h, waitsInPlay_toggle h⟩
  | setRate rate =>
    rcases t.obey_or_eq_of_after (.setRate rate) with ⟨_, _, hc⟩ | ok | heq
    · cases hc
    · obtain ⟨rate', heq⟩ := exists_of_setRate ok
      rw [heq]
      exact ⟨.of_eq rfl rfl, h⟩
    · rw [heq]
      exact ⟨.refl t, h⟩
  | setVolume volume =>
    obtain ⟨volume', heq⟩ := t.exists_of_setVolume volume
    change t.Tidies (t.setVolume volume) ∧ (t.setVolume volume).WaitsInPlay
    rw [heq]
    exact ⟨.of_eq rfl rfl, h⟩
  | setTimeline rate duration =>
    exact ⟨t.tidies_setTimeline rate duration, waitsInPlay_setTimeline h rate duration⟩
  | callback id timestamp =>
    exact ⟨tidies_callback h taken timestamp, waitsInPlay_callback h id timestamp⟩
  | dispose => exact ⟨t.tidies_dispose, waitsInPlay_of_none t.pending_dispose⟩
  | seek | setMuted | listenFrames | listenState | subscribe | unsubscribe | takeTold =>
    exact ⟨.of_eq rfl rfl, h⟩

end Transport

end Montage
