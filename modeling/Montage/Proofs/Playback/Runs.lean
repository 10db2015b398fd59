import Montage.Proofs.Computations
import Montage.Proofs.Playback.Requests
import Montage.Proofs.Playback.Steady

/-!
A transport on a display.

The host of the display takes the requests, and delivers callbacks of any number and any time when
it likes; others ask for callbacks, and withdraw requests as they please. However this goes together
with the commands, nothing that happens fails, and playback is always in order.
-/

namespace Montage

namespace Transport

/-- What happens to a transport and to the display that it shares. -/
inductive Happening where
  | told (c : Command)
  /-- The host takes all requests. -/
  | taken
  /-- Another asks for a callback. -/
  | asked
  /-- Another withdraws a request. -/
  | withdrawn (id : RequestId)

def meet (t : Transport Float) : Happening → Except Fault (Transport Float)
  | .told c => t.obey c
  | .taken => .ok { t with host := t.host.take.2 }
  | .asked => .ok { t with host := t.host.request.2 }
  | .withdrawn id => .ok { t with host := t.host.cancel id }

/-- What happens, one after the other. A fault ends that. -/
def meets (t : Transport Float) (hs : List Happening) : Except Fault (Transport Float) :=
  hs.foldlM meet t

/-- The last frame there is ends no timeline. -/
def Command.Fits : Command → Prop
  | .setTimeline _ duration => duration < Frame.last
  | _ => True

def Happening.Fits : Happening → Prop
  | .told c => c.Fits
  | _ => True

section

variable {t t' : Transport Float} {h : Happening} {hs ks : List Happening}

@[simp] lemma meets_nil : t.meets [] = .ok t := rfl

lemma meets_append : t.meets (hs ++ ks) = .ok t' ↔
    ∃ t₁, t.meets hs = .ok t₁ ∧ t₁.meets ks = .ok t' := by
  rw [meets, List.foldlM_append]
  exact bind_eq_ok

lemma meets_cons : t.meets (h :: hs) = .ok t' ↔
    ∃ t₁, t.meet h = .ok t₁ ∧ t₁.meets hs = .ok t' := by
  rw [meets, List.foldlM_cons]
  exact bind_eq_ok

lemma meets_snoc : t.meets (hs ++ [h]) = .ok t' ↔
    ∃ t₁, t.meets hs = .ok t₁ ∧ t₁.meet h = .ok t' := by
  simp only [meets_append, meets_cons, meets_nil, Except.ok.injEq, exists_eq_right]

lemma config_obey {c : Command} (ok : t.obey c = .ok t') : t'.config = t.config := by
  rcases obey_cases ok with hacts | rfl | ⟨_, _, _, _, rfl⟩
  · exact hacts.config
  · exact (Acts.cancelTick t).config
  · rfl

lemma config_meet (ok : t.meet h = .ok t') : t'.config = t.config := by
  cases h with
  | told c => exact config_obey ok
  | _ => cases ok; rfl

lemma issued_le_of_meet (ok : t.meet h = .ok t') :
    t.host.requests.issued ≤ t'.host.requests.issued := by
  cases h with
  | told c => exact (spares_obey ok).issued
  | taken => cases ok; exact Nat.le_refl _
  | asked => cases ok; exact Nat.le_succ _
  | withdrawn id =>
    cases ok
    dsimp only [Host.cancel, FrameRequests.cancel]
    split <;> exact Nat.le_refl _

lemma own_of_meet (ok : t.meet h = .ok t') {id : RequestId} (hid : t'.pending = some id) :
    t.pending = some id ∨ ∃ c, h = .told c ∧ t.obey c = .ok t' ∧
      t.host.requests.issued < id ∧ id ≤ t'.host.requests.issued := by
  cases h with
  | told c => exact ((spares_obey ok).own id hid).imp_right fun hnew => ⟨c, rfl, ok, hnew⟩
  | _ => cases ok; exact .inl hid

lemma leaves_obey (hsteady : t.Steady) {c : Command} (ok : t.obey c = .ok t') :
    t.Leaves t' ∨ ∃ rate duration, c = .setTimeline rate duration ∧
      t' = t.setTimeline rate duration := by
  cases c with
  | play => cases ok; exact .inl (leaves_play hsteady)
  | pause => cases ok; exact .inl (leaves_pause hsteady)
  | stop => cases ok; exact .inl t.leaves_stop
  | toggle => cases ok; exact .inl (leaves_toggle hsteady)
  | seek frame => cases ok; exact .inl (leaves_seek hsteady frame)
  | setRate rate => exact .inl (leaves_setRate hsteady ok)
  | setVolume volume => cases ok; exact .inl (leaves_setVolume hsteady volume)
  | setTimeline rate duration => cases ok; exact .inr ⟨rate, duration, rfl, rfl⟩
  | callback id timestamp =>
    obtain ⟨rfl, n, hn⟩ := obey_callback.mp ok
    exact .inl (leaves_callback hsteady hn)
  | dispose => cases ok; exact .inl t.leaves_dispose
  | _ => cases ok; exact .inl (hsteady.leaves_of_eq rfl rfl rfl rfl)

lemma steady_meet (hsteady : t.Steady) (ok : t.meet h = .ok t') : t'.Steady := by
  cases h with
  | told c =>
    rcases leaves_obey hsteady ok with hl | ⟨rate, duration, -, rfl⟩
    · exact hl.steady
    · exact steady_setTimeline hsteady rate duration
  | _ => cases ok; exact ⟨hsteady.playing, hsteady.within⟩

lemma steady_meets (hsteady : t.Steady) (ok : t.meets hs = .ok t') : t'.Steady := by
  induction hs generalizing t with
  | nil => cases ok; exact hsteady
  | cons h hs ih =>
    obtain ⟨t₁, hmeet, hmeets⟩ := meets_cons.mp ok
    exact ih (steady_meet hsteady hmeet) hmeets

end

/-- What holds of a transport at any time. -/
structure Sound (t : Transport Float) : Prop extends t.Steady where
  rates : t.config.minRate ≤ t.config.maxRate
  bounded : t.duration < Frame.last
  issued : ∀ id, t.pending = some id → id ≤ t.host.requests.issued

namespace Sound

variable {t t' : Transport Float} {h : Happening} {hs : List Happening}

lemma new {config : TransportConfig Float} (rates : config.minRate ≤ config.maxRate) (host : Host)
    (frameRate : FrameRate) {duration : Frame} (bounded : duration < Frame.last) :
    (Transport.new config host frameRate duration).Sound where
  playing := ⟨nofun, nofun⟩
  within := nofun
  rates := rates
  bounded := bounded
  issued := nofun

/-- No command fails, and each leaves playback in order. -/
lemma obey (hsound : t.Sound) {c : Command} (hc : c.Fits) :
    ∃ t', t.obey c = .ok t' ∧ t'.Steady ∧ t'.duration < Frame.last ∧
      (t.playhead ≤ t.duration → t'.playhead ≤ t'.duration) := by
  have hok : ∃ t', t.obey c = .ok t' := by
    cases c with
    | setRate rate =>
      show ∃ t', t.setRate rate = .ok t'
      unfold setRate
      split
      · exact ⟨_, rfl⟩
      · rw [if_pos hsound.rates]
        exact ⟨_, rfl⟩
    | callback id timestamp =>
      by_cases hid : t.pending = some id
      · obtain ⟨n, t₁, hcallback, -⟩ := callback_spec hsound.toSteady hsound.bounded hid timestamp
        exact ⟨t₁.settle, obey_callback.mpr (by rw [hcallback]; exact ⟨rfl, n, rfl⟩)⟩
      · have hcallback := callback_of_ignored (fun hp => hid hp.2) timestamp
        exact ⟨t, obey_callback.mpr (by rw [hcallback]; exact ⟨rfl, 0, rfl⟩)⟩
    | _ => exact ⟨_, rfl⟩
  obtain ⟨t', ok⟩ := hok
  rcases leaves_obey hsound.toSteady ok with hl | ⟨rate, duration, rfl, rfl⟩
  · exact ⟨t', ok, hl.steady, hl.duration ▸ hsound.bounded, hl.within⟩
  · obtain ⟨-, -, hduration, hplayhead⟩ := t.setTimeline_spec rate duration
    exact ⟨_, ok, steady_setTimeline hsound.toSteady rate duration, hduration.symm ▸ hc,
      fun _ => hduration.symm ▸ hplayhead⟩

lemma meet (hsound : t.Sound) (hh : h.Fits) : ∃ t', t.meet h = .ok t' ∧ t'.Sound ∧
    (t.playhead ≤ t.duration → t'.playhead ≤ t'.duration) := by
  obtain ⟨t', ok, hsteady, hbounded, hwithin⟩ : ∃ t', t.meet h = .ok t' ∧ t'.Steady ∧
      t'.duration < Frame.last ∧ (t.playhead ≤ t.duration → t'.playhead ≤ t'.duration) := by
    cases h with
    | told c => exact hsound.obey hh
    | _ => exact ⟨_, rfl, ⟨hsound.playing, hsound.within⟩, hsound.bounded, id⟩
  refine ⟨t', ok, ⟨hsteady, ?_, hbounded, fun id hid => ?_⟩, hwithin⟩
  · rw [config_meet ok]
    exact hsound.rates
  · rcases own_of_meet ok hid with hold | ⟨-, -, -, -, hle⟩
    · exact Nat.le_trans (hsound.issued id hold) (issued_le_of_meet ok)
    · exact hle

/-- **Nothing that happens, in any order, fails,** and what holds of a transport at any time holds
afterwards. -/
lemma meets (hsound : t.Sound) (fits : ∀ h ∈ hs, h.Fits) :
    ∃ t', t.meets hs = .ok t' ∧ t'.Sound ∧
      (t.playhead ≤ t.duration → t'.playhead ≤ t'.duration) := by
  induction hs generalizing t with
  | nil => exact ⟨t, rfl, hsound, id⟩
  | cons h hs ih =>
    obtain ⟨hh, hhs⟩ := List.forall_mem_cons.mp fits
    obtain ⟨t₁, hmeet, hsound₁, hwithin₁⟩ := hsound.meet hh
    obtain ⟨t', hmeets, hsound', hwithin'⟩ := ih hsound₁ hhs
    exact ⟨t', meets_cons.mpr ⟨t₁, hmeet, hmeets⟩, hsound', hwithin' ∘ hwithin₁⟩

end Sound

end Transport

end Montage
