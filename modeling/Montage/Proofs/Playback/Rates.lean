import Mathlib.Data.List.Induction
import Montage.Preview.Config
import Montage.Proofs.Floats
import Montage.Proofs.Playback.Runs

/-!
The speed of playback and its bounds.

Only who asks for a speed changes it. The speed that is asked for is brought within the bounds of
the settings; but a transport begins at the normal speed, whatever the bounds may be. So its speed
is within them from the first finite speed on that it has been asked for, and before that only if
the normal speed is.
-/

namespace Montage

/-- The speed is within the bounds. -/
def TransportConfig.Admits (c : TransportConfig Float) (rate : Float) : Prop :=
  c.minRate ≤ rate ∧ rate ≤ c.maxRate

instance {c : TransportConfig Float} {rate : Float} : Decidable (c.Admits rate) :=
  inferInstanceAs (Decidable (_ ∧ _))

/-- The nearest speed within the bounds. -/
def TransportConfig.bounded (c : TransportConfig Float) (rate : Float) : Float :=
  Scalar.clamp rate c.minRate c.maxRate

lemma TransportConfig.admits_bounded {c : TransportConfig Float} (h : c.minRate ≤ c.maxRate)
    {rate : Float} (finite : rate.isFinite = true) : c.Admits (c.bounded rate) :=
  clamp_mem h (float_le_self_of_isFinite finite)

namespace PreviewConfig

variable {c : PreviewConfig}

lemma validate_eq (c : PreviewConfig) : c.validate =
    if c.pool.poolSize = 0 then .error .noElements
    else if c.transport.maxFramesPerTick = 0 then .error .noFrames
    else if 0.0 < c.transport.minRate ∧ c.transport.minRate ≤ c.transport.maxRate then .ok ()
    else .error (.rates c.transport.minRate c.transport.maxRate) := by
  unfold validate
  by_cases helements : c.pool.poolSize = 0
  · rw [if_pos helements, if_pos helements]
    rfl
  · by_cases hframes : c.transport.maxFramesPerTick = 0
    · rw [if_neg helements, if_neg helements, if_pos hframes, if_pos hframes]
      rfl
    · rw [if_neg helements, if_neg helements, if_neg hframes, if_neg hframes]
      dsimp only
      rw [← Bool.decide_and]
      by_cases hrates : 0.0 < c.transport.minRate ∧ c.transport.minRate ≤ c.transport.maxRate
      · rw [if_pos hrates, decide_eq_true hrates]
        rfl
      · rw [if_neg hrates, decide_eq_false hrates]
        rfl

lemma rates_of_validate (h : c.validate = .ok ()) :
    c.transport.minRate ≤ c.transport.maxRate := by
  rw [validate_eq] at h
  split at h
  · cases h
  · split at h
    · cases h
    · split at h
      · next hrates => exact hrates.2
      · cases h

lemma rates_of_parseBytes {bytes : ByteArray} (accepted : parseBytes bytes = .ok c) :
    c.transport.minRate ≤ c.transport.maxRate := by
  unfold parseBytes parse at accepted
  split at accepted
  · cases accepted
  · split at accepted
    · cases accepted
    · split at accepted
      · next hvalid =>
        cases accepted
        exact rates_of_validate hvalid
      · cases accepted

end PreviewConfig

namespace Transport

section

variable {τ : Type}

@[simp] lemma rate_enter (t : Transport τ) (state : TransportState) :
    (t.enter state).rate = t.rate := by
  unfold enter
  split <;> rfl

@[simp] lemma rate_cancelTick (t : Transport τ) : t.cancelTick.rate = t.rate := by
  unfold cancelTick
  split <;> rfl

lemma rate_pause (t : Transport τ) : t.pause.rate = t.rate := by
  unfold pause
  split <;> simp

lemma rate_setTimeline (t : Transport τ) (frameRate : FrameRate) (duration : Frame) :
    (t.setTimeline frameRate duration).rate = t.rate := by
  unfold setTimeline
  generalize (if frameRate.isValid then frameRate else t.frameRate) = frameRate
  dsimp only
  split <;> rfl

lemma rate_setVolume (t : Transport τ) (volume : Float32) :
    (t.setVolume volume).rate = t.rate := by
  unfold setVolume
  split <;> rfl

variable [Scalar τ]

lemma rate_play (t : Transport τ) : t.play.rate = t.rate := by
  unfold play
  dsimp only
  split
  · rfl
  · rw [rate_enter]
    split <;> rfl

lemma rate_stop (t : Transport τ) : t.stop.rate = t.rate := by
  unfold stop
  dsimp only
  rw [rate_enter]
  split
  · exact t.rate_cancelTick
  · exact t.rate_cancelTick

lemma rate_toggle (t : Transport τ) : t.toggle.rate = t.rate := by
  unfold toggle
  split
  · exact t.rate_pause
  · exact t.rate_play

lemma rate_spend (ms : τ) (budget advanced : Nat) (t : Transport τ) :
    (spend ms budget advanced t).1.rate = t.rate := by
  induction budget generalizing advanced t with
  | zero => rfl
  | succ budget ih =>
    by_cases hdue : IsDue ms t
    · rw [spend_of_due hdue]
      split
      · rfl
      · split
        · rfl
        · exact ih _ _
    · rw [spend_of_not_due hdue]

lemma rate_settle (t : Transport τ) : t.settle.rate = t.rate := by
  unfold settle
  split
  · exact rate_enter _ _
  · rfl

lemma rate_callback (t : Transport τ) (id : RequestId) (timestamp : τ) :
    (t.callback id timestamp).1.rate = t.rate := by
  by_cases h : t.state = .playing ∧ t.pending = some id
  · have hspend := rate_spend t.msPerFrame t.config.maxFramesPerTick.toNat 0 (t.save timestamp)
    rcases hs : spend t.msPerFrame t.config.maxFramesPerTick.toNat 0 (t.save timestamp) with ⟨t', r⟩
    rw [hs] at hspend
    cases r with
    | ok n =>
      rw [(callback_of_spend h.1 h.2 hs).1 n rfl]
      exact t'.rate_settle.trans hspend
    | error f =>
      rw [(callback_of_spend h.1 h.2 hs).2 f rfl]
      exact hspend
  · rw [callback_of_ignored h]

end

section

variable {t t' : Transport Float} {h : Happening} {hs : List Happening}

lemma config_new (config : TransportConfig Float) (host : Host) (frameRate : FrameRate)
    (duration : Frame) : (new config host frameRate duration).config = config := rfl

lemma rate_new (config : TransportConfig Float) (host : Host) (frameRate : FrameRate)
    (duration : Frame) : (new config host frameRate duration).rate = 1.0 := rfl

/-- The finite speed that is asked for, if one is. -/
def Happening.askedRate? : Happening → Option Float
  | .told (.setRate rate) => if rate.isFinite then some rate else none
  | _ => none

lemma rate_setRate {rate : Float} (ok : t.setRate rate = .ok t') :
    t'.rate = ((Happening.told (.setRate rate)).askedRate?.map t.config.bounded).getD t.rate := by
  unfold setRate at ok
  show t'.rate = (Option.map _ (if rate.isFinite then some rate else none)).getD t.rate
  cases hfinite : rate.isFinite with
  | false =>
    rw [show Scalar.isFinite rate = false from hfinite] at ok
    cases ok
    rfl
  | true =>
    rw [show Scalar.isFinite rate = true from hfinite] at ok
    split at ok
    · contradiction
    · split at ok
      · cases ok
        rfl
      · cases ok

lemma rate_meet (ok : t.meet h = .ok t') :
    t'.rate = (h.askedRate?.map t.config.bounded).getD t.rate := by
  cases h with
  | told c =>
    cases c with
    | setRate rate => exact rate_setRate ok
    | play => cases ok; exact t.rate_play
    | pause => cases ok; exact t.rate_pause
    | stop => cases ok; exact t.rate_stop
    | toggle => cases ok; exact t.rate_toggle
    | setVolume volume => cases ok; exact t.rate_setVolume volume
    | setTimeline frameRate duration => cases ok; exact t.rate_setTimeline frameRate duration
    | callback id timestamp =>
      obtain ⟨rfl, -⟩ := obey_callback.mp ok
      exact t.rate_callback id timestamp
    | dispose => cases ok; exact t.rate_cancelTick
    | _ => cases ok; rfl
  | _ => cases ok; rfl

lemma config_meets (ok : t.meets hs = .ok t') : t'.config = t.config := by
  induction hs generalizing t with
  | nil => cases ok; rfl
  | cons h hs ih =>
    obtain ⟨t₁, hmeet, hmeets⟩ := meets_cons.mp ok
    rw [ih hmeets, config_meet hmeet]

/-- The finite speed that has been asked for last. -/
def lastAsked? (hs : List Happening) : Option Float := (hs.filterMap (·.askedRate?)).getLast?

lemma lastAsked?_snoc (hs : List Happening) (h : Happening) :
    lastAsked? (hs ++ [h]) = h.askedRate?.or (lastAsked? hs) := by
  rw [lastAsked?, List.filterMap_append, List.getLast?_append]
  cases ha : h.askedRate? with
  | none => simp [ha, lastAsked?]
  | some rate => simp [ha]

lemma isFinite_of_lastAsked? {rate : Float} (asked : lastAsked? hs = some rate) :
    rate.isFinite = true := by
  obtain ⟨h, -, hrate⟩ := List.mem_filterMap.mp (List.mem_of_getLast? asked)
  cases h with
  | told c =>
    cases c with
    | setRate rate' =>
      obtain ⟨hfinite, heq⟩ := Option.ite_none_right_eq_some.mp hrate
      cases heq
      exact hfinite
    | _ => cases hrate
  | _ => cases hrate

/-- **The speed is the one asked for last,** brought within the bounds. -/
lemma rate_meets (ok : t.meets hs = .ok t') :
    t'.rate = ((lastAsked? hs).map t.config.bounded).getD t.rate := by
  induction hs using List.reverseRecOn generalizing t' with
  | nil => cases ok; rfl
  | append_singleton hs h ih =>
    obtain ⟨t₁, hmeets, hmeet⟩ := meets_snoc.mp ok
    rw [rate_meet hmeet, ih hmeets, config_meets hmeets, lastAsked?_snoc]
    cases h.askedRate? <;> rfl

end

/-- **The speed is within the bounds** of settings that have been accepted just when a finite speed
has been asked for or the normal speed is within them: it is the speed asked for last, brought
within the bounds, and up to the first one the normal speed. -/
theorem rate_admitted_iff {bytes : ByteArray} {c : PreviewConfig}
    (accepted : PreviewConfig.parseBytes bytes = .ok c) {host : Host} {frameRate : FrameRate}
    {duration : Frame} {hs : List Happening} {t : Transport Float}
    (reached : (new c.transport host frameRate duration).meets hs = .ok t) :
    (c.transport.Admits t.rate ↔ (lastAsked? hs).isSome = true ∨ c.transport.Admits 1.0) ∧
      t.rate = ((lastAsked? hs).map c.transport.bounded).getD 1.0 := by
  have hrate := rate_meets reached
  rw [config_new, rate_new] at hrate
  refine ⟨?_, hrate⟩
  cases hasked : lastAsked? hs with
  | none =>
    rw [hasked] at hrate
    rw [hrate]
    exact ⟨.inr, fun h => h.resolve_left nofun⟩
  | some rate =>
    rw [hasked] at hrate
    rw [hrate]
    exact iff_of_true (TransportConfig.admits_bounded (PreviewConfig.rates_of_parseBytes accepted)
      (isFinite_of_lastAsked? hasked)) (.inl rfl)

/-- Settings by which nothing is slower than half again the normal speed. -/
def fastOnly : String := "\x7b\"transport\":\x7b\"min_rate\":1.5\x7d\x7d"

lemma exists_fastOnly : ∃ c, PreviewConfig.parseBytes fastOnly.toUTF8 = .ok c ∧
    c.transport.minRate = 1.5 ∧ c.transport.maxRate = 2.0 := by
  have hread : PreviewConfig.parseBytes fastOnly.toUTF8 = PreviewConfig.parse fastOnly := by
    have htext : String.fromUTF8? fastOnly.toUTF8 = some fastOnly := dif_pos fastOnly.isValidUTF8
    rw [PreviewConfig.parseBytes, htext]
  obtain ⟨c, hparse, hrates⟩ := exists_of_any (x := PreviewConfig.parse fastOnly)
    (p := fun c => decide (c.transport.minRate = 1.5 ∧ c.transport.maxRate = 2.0))
    (by decide +kernel)
  exact ⟨c, hread.trans hparse, of_decide_eq_true hrates⟩

/-- Under these settings a transport that is asked for eight times the normal speed takes the
greatest one. -/
theorem rate_admitted_iff_fastOnly :
    ∃ c t, PreviewConfig.parseBytes fastOnly.toUTF8 = .ok c ∧
      (new c.transport {} .fps30 60).meets [.told (.setRate 8.0)] = .ok t ∧
      c.transport.Admits t.rate ∧ t.rate = 2.0 := by
  obtain ⟨c, accepted, hmin, hmax⟩ := exists_fastOnly
  have hsound : (new c.transport {} .fps30 60).Sound :=
    .new (PreviewConfig.rates_of_parseBytes accepted) _ _ (by decide)
  have fits : ∀ h ∈ [Happening.told (.setRate 8.0)], h.Fits := by
    simp [Happening.Fits, Command.Fits]
  obtain ⟨t, reached, -⟩ := hsound.meets fits
  obtain ⟨hadmits, hrate⟩ := rate_admitted_iff accepted reached
  refine ⟨c, t, accepted, reached, hadmits.mpr (.inl (by decide +kernel)), ?_⟩
  have hasked : lastAsked? [Happening.told (.setRate 8.0)] = some 8.0 := by decide +kernel
  rw [hrate, hasked, Option.map_some, Option.getD_some, TransportConfig.bounded, hmin, hmax]
  decide +kernel

/-- A transport begins at the normal speed, though the settings do not admit it. -/
theorem rate_unbounded_at_first :
    ¬∀ (bytes : ByteArray) (c : PreviewConfig), PreviewConfig.parseBytes bytes = .ok c →
      ∀ (host : Host) (frameRate : FrameRate) (duration : Frame) (hs : List Happening)
        (t : Transport Float), (new c.transport host frameRate duration).meets hs = .ok t →
          c.transport.minRate ≤ t.rate ∧ t.rate ≤ c.transport.maxRate := by
  intro h
  obtain ⟨c, accepted, hmin, -⟩ := exists_fastOnly
  obtain ⟨hle, -⟩ := h _ c accepted {} .fps30 60 [] _ rfl
  rw [hmin] at hle
  exact absurd hle (by decide +kernel : ¬(1.5 : Float) ≤ 1.0)

end Transport

end Montage
