import Montage.Proofs.Playback.Acts

/-!
The requests of a transport among those of others.

A transport shares the display with whoever else asks for callbacks. Whatever it is told to do, it
takes back its own request only, and a request it makes has a number of its own; so all others stay
as they are.
-/

namespace Montage

namespace Transport

/-- What a transport can be told to do. -/
inductive Command where
  | play
  | pause
  | stop
  | toggle
  | seek (frame : Frame)
  | setRate (rate : Float)
  | setVolume (volume : Float32)
  | setMuted (muted : Bool)
  | setTimeline (rate : FrameRate) (duration : Frame)
  | listenFrames (id : ListenerId)
  | listenState (id : ListenerId)
  | subscribe (id : ListenerId)
  | unsubscribe (id : ListenerId)
  | takeTold
  | callback (id : RequestId) (timestamp : Float)
  | dispose

def obey (t : Transport Float) : Command → Except Fault (Transport Float)
  | .play => .ok t.play
  | .pause => .ok t.pause
  | .stop => .ok t.stop
  | .toggle => .ok t.toggle
  | .seek frame => .ok (t.seek frame)
  | .setRate rate => t.setRate rate
  | .setVolume volume => .ok (t.setVolume volume)
  | .setMuted muted => .ok (t.setMuted muted)
  | .setTimeline rate duration => .ok (t.setTimeline rate duration)
  | .listenFrames id => .ok (t.listenFrames id)
  | .listenState id => .ok (t.listenState id)
  | .subscribe id => .ok (t.subscribe id)
  | .unsubscribe id => .ok (t.unsubscribe id)
  | .takeTold => .ok t.takeTold.2
  | .callback id timestamp => (t.callback id timestamp).2.map fun _ => (t.callback id timestamp).1
  | .dispose => .ok t.dispose

variable {τ : Type}

/-- Requests of others that were pending still are, and a request of the transport is an old one of
its own or a new one. Requests with numbers that have not been issued yet are nobody's. -/
structure Spares (t t' : Transport τ) : Prop where
  issued : t.host.requests.issued ≤ t'.host.requests.issued
  others : ∀ id ∈ t.host.requests.pending, id ≤ t.host.requests.issued → t.pending ≠ some id →
    id ∈ t'.host.requests.pending
  own : ∀ id, t'.pending = some id →
    t.pending = some id ∨ t.host.requests.issued < id ∧ id ≤ t'.host.requests.issued

namespace Spares

variable {t t₁ t₂ : Transport τ}

lemma of_eq (hr : t₁.host.requests = t.host.requests) (hp : t₁.pending = t.pending) :
    t.Spares t₁ where
  issued := Nat.le_of_eq (by rw [hr])
  others id hid _ _ := by rwa [hr]
  own id hid := .inl (hp ▸ hid)

@[refl] lemma refl (t : Transport τ) : t.Spares t := of_eq rfl rfl

lemma trans (h : t.Spares t₁) (k : t₁.Spares t₂) : t.Spares t₂ where
  issued := Nat.le_trans h.issued k.issued
  others id hid hle hne := by
    refine k.others id (h.others id hid hle hne) (Nat.le_trans hle h.issued) fun hown => ?_
    -- A new request of the transport has a number that was not issued before.
    rcases h.own id hown with hold | ⟨hlt, -⟩
    · exact hne hold
    · exact Nat.not_lt_of_le hle hlt
  own id hid := by
    rcases k.own id hid with hold | ⟨hlt, hle⟩
    · rcases h.own id hold with hold | ⟨hlt, hle⟩
      · exact .inl hold
      · exact .inr ⟨hlt, Nat.le_trans hle k.issued⟩
    · exact .inr ⟨Nat.lt_of_le_of_lt h.issued hlt, hle⟩

end Spares

/-- Of all the means of playback only two have to do with requests. -/
lemma Acts.spares {t t' : Transport τ} (h : t.Acts t') : t.Spares t' := by
  induction h with
  | moveTo t frame => exact .of_eq rfl rfl
  | enter t state => exact .of_eq (by rw [host_enter]) (t.pending_enter state)
  | requestTick t =>
    refine ⟨Nat.le_succ _, fun _ hid _ _ => List.mem_append_left _ hid, fun id hid => ?_⟩
    obtain rfl : t.host.requests.issued + 1 = id := Option.some.inj hid
    exact .inr ⟨Nat.lt_succ_self _, Nat.le_refl _⟩
  | cancelTick t =>
    cases hid : t.pending with
    | none => rw [cancelTick_of_none hid]
    | some id =>
      rw [cancelTick_of_some hid]
      refine ⟨?_, fun other hother _ hne => ?_, nofun⟩
      · dsimp only [Host.cancel, FrameRequests.cancel]
        split <;> exact Nat.le_refl _
      · refine FrameRequests.mem_pending_cancel.mpr ⟨hother, ?_⟩
        rintro rfl
        exact hne hid
  | forget t => exact ⟨Nat.le_refl _, fun _ hid _ _ => hid, nofun⟩
  | set => exact .of_eq rfl rfl
  | trans _ _ ih ih' => exact ih.trans ih'

lemma spares_setTimeline (t : Transport τ) (rate : FrameRate) (duration : Frame) :
    t.Spares (t.setTimeline rate duration) := (t.acts_setTimeline rate duration).spares

lemma spares_dispose (t : Transport τ) : t.Spares t.dispose :=
  (Acts.cancelTick t).spares.trans (.of_eq rfl rfl)

lemma spares_callback [Scalar τ] (t : Transport τ) (id : RequestId) (timestamp : τ) :
    t.Spares (t.callback id timestamp).1 := (t.acts_callback id timestamp).spares

/-- Commands to do with playback, and not with who listens. -/
def Command.IsPlayback : Command → Prop
  | .listenFrames _ | .listenState _ | .subscribe _ | .unsubscribe _ | .takeTold | .dispose => False
  | _ => True

lemma obey_callback {t t' : Transport Float} {id : RequestId} {timestamp : Float} :
    t.obey (.callback id timestamp) = .ok t' ↔
      (t.callback id timestamp).1 = t' ∧ ∃ n, (t.callback id timestamp).2 = .ok n := by
  unfold obey
  cases hn : (t.callback id timestamp).2 with
  | error f => simp [hn, Except.map]
  | ok n => simp [hn, Except.map]

lemma acts_obey {t t' : Transport Float} {c : Command} (h : t.obey c = .ok t')
    (hc : c.IsPlayback) : t.Acts t' := by
  cases c with
  | play => cases h; exact t.acts_play
  | pause => cases h; exact t.acts_pause
  | stop => cases h; exact t.acts_stop
  | toggle => cases h; exact t.acts_toggle
  | seek frame => cases h; exact t.acts_seek frame
  | setRate rate => exact acts_setRate h
  | setVolume volume => cases h; exact t.acts_setVolume volume
  | setMuted muted => cases h; exact t.acts_setMuted muted
  | setTimeline rate duration => cases h; exact t.acts_setTimeline rate duration
  | callback id timestamp =>
    obtain ⟨rfl, -⟩ := obey_callback.mp h
    exact t.acts_callback id timestamp
  | _ => exact hc.elim

lemma obey_cases {t t' : Transport Float} {c : Command} (h : t.obey c = .ok t') :
    t.Acts t' ∨ t' = t.dispose ∨
      ∃ onFrame onState subscribers told, t' = { t with onFrame, onState, subscribers, told } := by
  cases c with
  | dispose => cases h; exact .inr (.inl rfl)
  | listenFrames id => cases h; exact .inr (.inr ⟨_, _, _, _, rfl⟩)
  | listenState id => cases h; exact .inr (.inr ⟨_, _, _, _, rfl⟩)
  | subscribe id => cases h; exact .inr (.inr ⟨_, _, _, _, rfl⟩)
  | unsubscribe id => cases h; exact .inr (.inr ⟨_, _, _, _, rfl⟩)
  | takeTold => cases h; exact .inr (.inr ⟨_, _, _, _, rfl⟩)
  | _ => exact .inl (acts_obey h trivial)

/-- **Whatever it is told to do,** a transport lets the requests of others be. -/
lemma spares_obey {t t' : Transport Float} {c : Command} (h : t.obey c = .ok t') : t.Spares t' := by
  rcases obey_cases h with hacts | rfl | ⟨_, _, _, _, rfl⟩
  · exact hacts.spares
  · exact t.spares_dispose
  · exact .of_eq rfl rfl

end Transport

end Montage
