import Mathlib.Tactic.Common
import Montage.Playback.Transport

/-!
The means of a transport.

Whatever it is told to do with playback, a transport does by few means. It moves the playhead and
enters states, and tells its listeners of both; it asks the display for a callback and takes its
request back; and it sets what nobody else sees. What all of these keep, playback keeps.
-/

namespace Montage

namespace Transport

variable {τ : Type}

@[simp] lemma duration_moveTo (t : Transport τ) (frame : Frame) :
    (t.moveTo frame).duration = t.duration := rfl

@[simp] lemma pending_moveTo (t : Transport τ) (frame : Frame) :
    (t.moveTo frame).pending = t.pending := rfl

lemma enter_of_eq {t : Transport τ} {state : TransportState} (h : t.state = state) :
    t.enter state = t := if_pos h

lemma enter_of_ne {t : Transport τ} {state : TransportState} (h : t.state ≠ state) :
    t.enter state = { t with state }.tell t.onState (.state state) := if_neg h

@[simp] lemma state_enter (t : Transport τ) (state : TransportState) :
    (t.enter state).state = state := by
  unfold enter
  split
  · assumption
  · rfl

@[simp] lemma host_enter (t : Transport τ) (state : TransportState) :
    (t.enter state).host = t.host := by
  unfold enter
  split <;> rfl

@[simp] lemma playhead_enter (t : Transport τ) (state : TransportState) :
    (t.enter state).playhead = t.playhead := congrArg Host.playhead (t.host_enter state)

@[simp] lemma duration_enter (t : Transport τ) (state : TransportState) :
    (t.enter state).duration = t.duration := by
  unfold enter
  split <;> rfl

@[simp] lemma pending_enter (t : Transport τ) (state : TransportState) :
    (t.enter state).pending = t.pending := by
  unfold enter
  split <;> rfl

@[simp] lemma config_enter (t : Transport τ) (state : TransportState) :
    (t.enter state).config = t.config := by
  unfold enter
  split <;> rfl

@[simp] lemma pending_requestTick (t : Transport τ) :
    t.requestTick.pending = some (t.host.requests.issued + 1) := rfl

@[simp] lemma state_requestTick (t : Transport τ) : t.requestTick.state = t.state := rfl

@[simp] lemma duration_requestTick (t : Transport τ) : t.requestTick.duration = t.duration := rfl

lemma cancelTick_of_none {t : Transport τ} (h : t.pending = none) : t.cancelTick = t := by
  rw [cancelTick, h]

lemma cancelTick_of_some {t : Transport τ} {id : RequestId} (h : t.pending = some id) :
    t.cancelTick = { t with host := t.host.cancel id, pending := none } := by
  rw [cancelTick, h]

@[simp] lemma pending_cancelTick (t : Transport τ) : t.cancelTick.pending = none := by
  cases h : t.pending with
  | none => rw [cancelTick_of_none h, h]
  | some id => rw [cancelTick_of_some h]

@[simp] lemma playhead_cancelTick (t : Transport τ) : t.cancelTick.playhead = t.playhead := by
  unfold cancelTick
  split <;> rfl

@[simp] lemma duration_cancelTick (t : Transport τ) : t.cancelTick.duration = t.duration := by
  unfold cancelTick
  split <;> rfl

/-- One transport comes of the other by the means of playback. -/
inductive Acts : Transport τ → Transport τ → Prop
  | moveTo (t : Transport τ) (frame : Frame) : Acts t (t.moveTo frame)
  | enter (t : Transport τ) (state : TransportState) : Acts t (t.enter state)
  | requestTick (t : Transport τ) : Acts t t.requestTick
  | cancelTick (t : Transport τ) : Acts t t.cancelTick
  /-- A request that has been called back is no request any more. -/
  | forget (t : Transport τ) : Acts t { t with pending := none }
  | set {t : Transport τ} {frameRate : FrameRate} {duration : Frame} {rate : τ} {volume : Float32}
      {muted : Bool} {saved : τ} {lastTimestamp : Option τ} :
      Acts t { t with frameRate, duration, rate, volume, muted, saved, lastTimestamp }
  | trans {t t₁ t' : Transport τ} (h : Acts t t₁) (k : Acts t₁ t') : Acts t t'

@[refl] lemma Acts.refl (t : Transport τ) : t.Acts t := .set

lemma Acts.ite {t t₁ t' : Transport τ} {p : Prop} [Decidable p] (h : t.Acts t₁) (k : t.Acts t') :
    t.Acts (if p then t₁ else t') := by
  split
  · exact h
  · exact k

lemma Acts.config {t t' : Transport τ} (h : t.Acts t') : t'.config = t.config := by
  induction h with
  | enter t state => exact t.config_enter state
  | cancelTick t =>
    unfold Transport.cancelTick
    split <;> rfl
  | trans _ _ ih ih' => exact ih'.trans ih
  | _ => rfl

variable [Scalar τ]

lemma acts_play (t : Transport τ) : t.Acts t.play := by
  unfold play
  have hstart : t.Acts (if t.duration ≤ t.playhead then t.moveTo 0 else t) :=
    .ite (.moveTo t 0) (.refl t)
  exact .ite (.refl t) (((hstart.trans .set).trans (.requestTick _)).trans (.enter _ _))

omit [Scalar τ] in
lemma acts_pause (t : Transport τ) : t.Acts t.pause := by
  unfold pause
  exact .ite ((Acts.cancelTick t).trans (.enter _ _)) (.refl t)

lemma acts_stop (t : Transport τ) : t.Acts t.stop := by
  unfold stop
  have hmove : t.cancelTick.Acts
      (if t.cancelTick.playhead = 0 then t.cancelTick else t.cancelTick.moveTo 0) :=
    .ite (.refl _) (.moveTo _ 0)
  exact (((Acts.cancelTick t).trans hmove).trans .set).trans (.enter _ _)

lemma acts_toggle (t : Transport τ) : t.Acts t.toggle := by
  unfold toggle
  exact .ite t.acts_pause t.acts_play

lemma acts_seek (t : Transport τ) (frame : Frame) : t.Acts (t.seek frame) :=
  .trans .set (.moveTo _ _)

lemma setRate_of_clamp {t : Transport τ} {rate : τ} (hfinite : Scalar.isFinite rate = true)
    (hrange : t.config.minRate ≤ t.config.maxRate)
    (hclamp : Scalar.clamp rate t.config.minRate t.config.maxRate = rate) :
    t.setRate rate = .ok { t with rate } := by
  simp [setRate, hfinite, hrange, hclamp]

lemma exists_of_setRate {t t' : Transport τ} {rate : τ} (h : t.setRate rate = .ok t') :
    ∃ rate', t' = { t with rate := rate' } := by
  unfold setRate at h
  split at h
  · cases h
    exact ⟨t.rate, rfl⟩
  · split at h
    · cases h
      exact ⟨_, rfl⟩
    · cases h

omit [Scalar τ] in
lemma exists_of_setVolume (t : Transport τ) (volume : Float32) :
    ∃ volume', t.setVolume volume = { t with volume := volume' } := by
  unfold setVolume
  split
  · exact ⟨_, rfl⟩
  · exact ⟨t.volume, rfl⟩

lemma acts_setRate {t t' : Transport τ} {rate : τ} (h : t.setRate rate = .ok t') : t.Acts t' := by
  obtain ⟨rate', rfl⟩ := exists_of_setRate h
  exact .set

omit [Scalar τ] in
lemma acts_setVolume (t : Transport τ) (volume : Float32) : t.Acts (t.setVolume volume) := by
  obtain ⟨volume', h⟩ := t.exists_of_setVolume volume
  rw [h]
  exact .set

omit [Scalar τ] in
lemma acts_setMuted (t : Transport τ) (muted : Bool) : t.Acts (t.setMuted muted) := .set

omit [Scalar τ] in
lemma acts_setTimeline (t : Transport τ) (rate : FrameRate) (duration : Frame) :
    t.Acts (t.setTimeline rate duration) := by
  unfold setTimeline
  exact .trans .set (.ite (.moveTo _ duration) (.refl _))

lemma acts_spend (ms : τ) (budget advanced : Nat) (t : Transport τ) :
    t.Acts (spend ms budget advanced t).1 := by
  induction budget generalizing advanced t with
  | zero => rfl
  | succ budget ih =>
    unfold spend
    split
    · have hpaid : t.Acts { t with saved := t.saved - ms } := .set
      dsimp only
      split
      · exact hpaid
      · generalize (if t.duration ≤ _ then t.duration else _) = frame
        have hmove := hpaid.trans (.moveTo _ frame)
        split
        · exact hmove
        · exact hmove.trans (ih _ _)
    · rfl

lemma acts_save (t : Transport τ) (timestamp : τ) : t.Acts (t.save timestamp) :=
  (Acts.forget t).trans .set

lemma acts_settle (t : Transport τ) : t.Acts t.settle := by
  unfold settle
  exact .ite (.trans .set (.enter _ _)) (.requestTick t)

lemma acts_callback (t : Transport τ) (id : RequestId) (timestamp : τ) :
    t.Acts (t.callback id timestamp).1 := by
  unfold callback
  split
  · have hspend := (t.acts_save timestamp).trans (acts_spend (t.save timestamp).msPerFrame
      (t.save timestamp).config.maxFramesPerTick.toNat 0 _)
    dsimp only
    split
    · next hs =>
      rw [hs] at hspend
      exact hspend.trans (acts_settle _)
    · next hs =>
      rw [hs] at hspend
      exact hspend
  · rfl

end Transport

end Montage
