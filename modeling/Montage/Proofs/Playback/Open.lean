import Mathlib.Data.List.Induction
import Montage.Proofs.Playback.Runs

/-!
The one callback that a transport waits for.

A request that a transport waits for is open: the display gave it its number when the transport
asked, and it has been neither called back nor taken back. A transport takes no notice of any other
callback, nor of any callback at all once playback has come to a halt.
-/

namespace Montage

namespace Transport

/-- The callback of a request, or a command that takes back the request of a transport that
plays. -/
def Happening.Ends (id : RequestId) : Happening → Prop
  | .told (.callback called _) => called = id
  | .told .pause | .told .stop | .told .toggle | .told .dispose => True
  | _ => False

/-- A request is open. It was made on a command, when the display gave it its number, and has been
neither called back nor taken back since; so it is pending still, unless the host has taken it or
another has withdrawn it. -/
def IsOpen (t₀ : Transport Float) (hs : List Happening) (t : Transport Float) (id : RequestId) :
    Prop :=
  ∃ before c after t₁ t₂, hs = before ++ .told c :: after ∧
    t₀.meets before = .ok t₁ ∧ t₁.obey c = .ok t₂ ∧
    t₁.host.requests.issued < id ∧ id ≤ t₂.host.requests.issued ∧ (∀ h ∈ after, ¬h.Ends id) ∧
    (id ∈ t.host.requests.pending ∨ .taken ∈ after ∨ .withdrawn id ∈ after)

section

variable {t t' : Transport Float} {h : Happening} {hs : List Happening} {id : RequestId}

/-- As long as it is the transport's, a request that is pending stays pending. -/
lemma Acts.mem_pending {τ : Type} {t t' : Transport τ} (h : t.Acts t')
    (hissued : t.pending = some id → id ≤ t.host.requests.issued)
    (hmem : id ∈ t.host.requests.pending ∨ t.host.requests.issued < id)
    (hid : t'.pending = some id) : id ∈ t'.host.requests.pending := by
  -- A request that is the transport's already is not a new one.
  have hold {t : Transport τ} (hissued : t.pending = some id → id ≤ t.host.requests.issued)
      (hmem : id ∈ t.host.requests.pending ∨ t.host.requests.issued < id)
      (hid : t.pending = some id) : id ∈ t.host.requests.pending :=
    hmem.resolve_right (Nat.not_lt_of_le (hissued hid))
  induction h with
  | moveTo t frame => exact hold hissued hmem hid
  | enter t state =>
    rw [host_enter]
    exact hold hissued hmem (t.pending_enter state ▸ hid)
  | requestTick t =>
    obtain rfl : t.host.requests.issued + 1 = id := Option.some.inj hid
    exact List.mem_append_right _ (List.mem_singleton_self _)
  | cancelTick t =>
    rw [pending_cancelTick] at hid
    cases hid
  | forget t => cases hid
  | set => exact hold hissued hmem hid
  | @trans t t₁ t' h k ih ih' =>
    have hissued₁ : t₁.pending = some id → id ≤ t₁.host.requests.issued := by
      intro hid₁
      rcases h.spares.own id hid₁ with hown | ⟨-, hle⟩
      · exact Nat.le_trans (hissued hown) h.spares.issued
      · exact hle
    refine ih' hissued₁ ?_ hid
    -- The request was there in between, or it is new since then.
    rcases k.spares.own id hid with hid₁ | ⟨hlt, -⟩
    · exact .inl (ih hissued hmem hid₁)
    · exact .inr hlt

lemma mem_pending_obey (hsound : t.Sound) {c : Command} (ok : t.obey c = .ok t')
    (hmem : id ∈ t.host.requests.pending ∨ t.host.requests.issued < id)
    (hid : t'.pending = some id) : id ∈ t'.host.requests.pending := by
  rcases obey_cases ok with hacts | rfl | ⟨_, _, _, _, rfl⟩
  · exact hacts.mem_pending (hsound.issued id) hmem hid
  · rw [pending_dispose] at hid
    cases hid
  · exact (Acts.refl t).mem_pending (hsound.issued id) hmem hid

lemma mem_pending_meet (hsound : t.Sound) (ok : t.meet h = .ok t')
    (hmem : id ∈ t.host.requests.pending) (hid : t'.pending = some id) :
    id ∈ t'.host.requests.pending ∨ h = .taken ∨ h = .withdrawn id := by
  cases h with
  | told c => exact .inl (mem_pending_obey hsound ok (.inl hmem) hid)
  | taken => exact .inr (.inl rfl)
  | asked =>
    cases ok
    exact .inl (List.mem_append_left _ hmem)
  | withdrawn other =>
    cases ok
    by_cases hother : other = id
    · exact .inr (.inr (by rw [hother]))
    · exact .inl (FrameRequests.mem_pending_cancel.mpr ⟨hmem, fun h => hother h.symm⟩)

/-- What ends a request leaves the transport without it. -/
lemma pending_ne_of_ends (hsound : t.Sound) (ok : t.meet h = .ok t') (hid : t.pending = some id)
    (hends : h.Ends id) : t'.pending ≠ some id := by
  have hpause : t.pause.pending = none := by
    rw [pause_of_playing (hsound.playing_of_pending hid), pending_enter, pending_cancelTick]
  cases h with
  | told c =>
    cases c with
    | callback called timestamp =>
      obtain rfl : called = id := hends
      obtain ⟨n, t₁, hcallback, hacts, -, hpending, -, -⟩ :=
        callback_spec hsound.toSteady hsound.bounded hid timestamp
      obtain ⟨rfl, -⟩ := obey_callback.mp ok
      rw [hcallback]
      by_cases hend : t₁.duration ≤ t₁.playhead
      · simp [settle_of_le hend, hpending]
      · -- The next request has another number.
        have hle := Nat.le_trans (hsound.issued called hid) hacts.spares.issued
        rw [settle_of_not_le hend, pending_requestTick, Ne, Option.some.injEq]
        exact Nat.ne_of_gt (Nat.lt_succ_of_le hle)
    | pause => cases ok; simp [hpause]
    | toggle =>
      cases ok
      rw [toggle, if_pos (hsound.playing_of_pending hid), hpause]
      nofun
    | stop => cases ok; simp
    | dispose => cases ok; simp [pending_dispose]
    | _ => exact hends.elim
  | _ => exact hends.elim

/-- **What a transport waits for** is a request that is open. -/
lemma isOpen_of_meets {t₀ : Transport Float} (hsound₀ : t₀.Sound) (hnone : t₀.pending = none)
    (fits : ∀ h ∈ hs, h.Fits) (ok : t₀.meets hs = .ok t) (hid : t.pending = some id) :
    t₀.IsOpen hs t id := by
  -- From the end of the run back: a request is as old as the last happening or was open before it.
  induction hs using List.reverseRecOn generalizing t with
  | nil =>
    cases ok
    rw [hnone] at hid
    cases hid
  | append_singleton hs h ih =>
    obtain ⟨hfits, -⟩ := List.forall_mem_append.mp fits
    obtain ⟨t₁, hmeets, hmeet⟩ := meets_snoc.mp ok
    obtain ⟨_, hmeets', hsound₁, -⟩ := hsound₀.meets hfits
    cases hmeets.symm.trans hmeets'
    rcases own_of_meet hmeet hid with hid₁ | ⟨c, rfl, hobey, hlt, hle⟩
    · -- The request is an older one, and has come through this happening as well.
      obtain ⟨before, c, after, t₂, t₃, rfl, hbefore, hobey, hlt, hle, hopen, hplace⟩ :=
        ih hfits hmeets hid₁
      refine ⟨before, c, after ++ [h], t₂, t₃, by simp, hbefore, hobey, hlt, hle, ?_, ?_⟩
      · intro k hk
        rcases List.mem_append.mp hk with hk | hk
        · exact hopen k hk
        · obtain rfl := List.mem_singleton.mp hk
          exact fun hends => pending_ne_of_ends hsound₁ hmeet hid₁ hends hid
      · simp only [List.mem_append, List.mem_singleton]
        rcases hplace with hmem | htaken | hwithdrawn
        · rcases mem_pending_meet hsound₁ hmeet hmem hid with hmem | rfl | rfl
          · exact .inl hmem
          · exact .inr (.inl (.inr rfl))
          · exact .inr (.inr (.inr rfl))
        · exact .inr (.inl (.inl htaken))
        · exact .inr (.inr (.inl hwithdrawn))
    · exact ⟨hs, c, [], t₁, t, rfl, hmeets, hobey, hlt, hle, nofun,
        .inl (mem_pending_obey hsound₁ hobey (.inr hlt) hid)⟩

/-! Playback that has come to a halt -/

/-- What playback can start with. -/
def Happening.Starts : Happening → Prop
  | .told .play | .told .toggle => True
  | _ => False

/-- Playback comes to a halt: it is told to, or the callback that it waits for brings it to the end
of the timeline. -/
def Happening.Halts (t t' : Transport Float) : Happening → Prop
  | .told .pause | .told .stop | .told .dispose => True
  | .told .toggle => t.state = .playing
  | .told (.callback id _) => t.pending = some id ∧ t'.duration ≤ t'.playhead
  | _ => False

/-- Playback has come to a halt, and has not started since. -/
def IsHalted (t₀ : Transport Float) (hs : List Happening) : Prop :=
  ∃ before h after t₁ t₂, hs = before ++ h :: after ∧
    t₀.meets before = .ok t₁ ∧ t₁.meet h = .ok t₂ ∧ h.Halts t₁ t₂ ∧ ∀ k ∈ after, ¬k.Starts

lemma state_pause_ne (t : Transport Float) : t.pause.state ≠ .playing := by
  by_cases hplaying : t.state = .playing
  · simp [pause_of_playing hplaying]
  · rwa [pause_of_ne hplaying]

lemma state_ne_of_halts (hsound : t.Sound) (ok : t.meet h = .ok t') (hhalts : h.Halts t t') :
    t'.state ≠ .playing := by
  cases h with
  | told c =>
    cases c with
    | pause => cases ok; exact t.state_pause_ne
    | stop => cases ok; simp
    | dispose => cases ok; exact t.state_dispose_ne
    | toggle =>
      cases ok
      have hpause : t.toggle = t.pause := if_pos hhalts
      exact hpause ▸ t.state_pause_ne
    | callback id timestamp =>
      obtain ⟨hid, hend⟩ := hhalts
      obtain ⟨n, t₁, hcallback, -⟩ := callback_spec hsound.toSteady hsound.bounded hid timestamp
      obtain ⟨rfl, -⟩ := obey_callback.mp ok
      rw [hcallback] at hend ⊢
      by_cases hend₁ : t₁.duration ≤ t₁.playhead
      · simp [settle_of_le hend₁]
      · rw [settle_of_not_le hend₁] at hend
        exact absurd hend hend₁
    | _ => exact hhalts.elim
  | _ => exact hhalts.elim

/-- Playback does not start by itself. -/
lemma state_ne_of_meet (ok : t.meet h = .ok t') (hstarts : ¬h.Starts) (hidle : t.state ≠ .playing) :
    t'.state ≠ .playing := by
  cases h with
  | told c =>
    cases c with
    | play => exact absurd trivial hstarts
    | toggle => exact absurd trivial hstarts
    | pause => cases ok; exact t.state_pause_ne
    | stop => cases ok; simp
    | dispose => cases ok; exact t.state_dispose_ne
    | setRate rate =>
      obtain ⟨rate', rfl⟩ := exists_of_setRate ok
      exact hidle
    | setVolume volume =>
      cases ok
      obtain ⟨volume', heq⟩ := t.exists_of_setVolume volume
      rwa [heq]
    | setTimeline rate duration =>
      cases ok
      rwa [(t.setTimeline_spec rate duration).1]
    | callback id timestamp =>
      obtain ⟨rfl, -⟩ := obey_callback.mp ok
      rwa [callback_of_ignored (fun hp => hidle hp.1) timestamp]
    | _ => cases ok; exact hidle
  | _ => cases ok; exact hidle

lemma state_ne_of_meets (ok : t.meets hs = .ok t') (hstarts : ∀ h ∈ hs, ¬h.Starts)
    (hidle : t.state ≠ .playing) : t'.state ≠ .playing := by
  induction hs generalizing t with
  | nil => cases ok; exact hidle
  | cons h hs ih =>
    obtain ⟨hh, hstarts⟩ := List.forall_mem_cons.mp hstarts
    obtain ⟨t₁, hmeet, hmeets⟩ := meets_cons.mp ok
    exact ih hmeets hstarts (state_ne_of_meet hmeet hh hidle)

lemma state_ne_of_isHalted {t₀ : Transport Float} (hsound₀ : t₀.Sound) (fits : ∀ h ∈ hs, h.Fits)
    (ok : t₀.meets hs = .ok t) (hhalted : t₀.IsHalted hs) : t.state ≠ .playing := by
  obtain ⟨before, h, after, t₁, t₂, rfl, hbefore, hmeet, hhalts, hstarts⟩ := hhalted
  obtain ⟨_, hbefore', hsound₁, -⟩ := hsound₀.meets fun k hk => fits k (List.mem_append_left _ hk)
  cases hbefore.symm.trans hbefore'
  obtain ⟨_, hbefore', hrest⟩ := meets_append.mp ok
  cases hbefore.symm.trans hbefore'
  obtain ⟨_, hmeet', hafter⟩ := meets_cons.mp hrest
  cases hmeet.symm.trans hmeet'
  exact state_ne_of_meets hafter hstarts (state_ne_of_halts hsound₁ hmeet hhalts)

end

/-- **A transport waits for its callback as long as it plays.** Whatever it is told and whatever
happens on the display, the playhead is on the timeline, and playback runs if and only if there is
a request. That request is open; a callback of any other number changes nothing and tells nobody
anything, nor does any callback once playback has come to a halt. -/
theorem playing_iff_waiting {config : TransportConfig Float}
    (rates : config.minRate ≤ config.maxRate) {host : Host} {duration : Frame}
    (within : host.playhead ≤ duration) (bounded : duration < Frame.last) (frameRate : FrameRate)
    {hs : List Happening} (fits : ∀ h ∈ hs, h.Fits) :
    ∃ t, (new config host frameRate duration).meets hs = .ok t ∧
      t.playhead ≤ t.duration ∧
      (t.state = .playing ↔ t.pending.isSome = true) ∧
      (∀ id, t.pending = some id → (new config host frameRate duration).IsOpen hs t id) ∧
      ∀ id timestamp,
        t.pending ≠ some id ∨ (new config host frameRate duration).IsHalted hs →
          t.callback id timestamp = (t, .ok 0) := by
  have hsound₀ := Sound.new rates host frameRate bounded
  obtain ⟨t, hmeets, hsound, hwithin⟩ := hsound₀.meets fits
  refine ⟨t, hmeets, hwithin within, hsound.playing,
    fun id hid => isOpen_of_meets hsound₀ rfl fits hmeets hid, ?_⟩
  rintro id timestamp (hother | hhalted)
  · exact callback_of_ignored (fun hp => hother hp.2) timestamp
  · have hidle := state_ne_of_isHalted hsound₀ fits hmeets hhalted
    exact callback_of_ignored (fun hp => hidle hp.1) timestamp

/-- Someone else asks for a callback while the first one of the transport is on its way. -/
def shared : List Happening := [.told .play, .asked, .taken, .told (.callback 1 0.0)]

/-- The transport has made the third request by then, and waits for its callback only. -/
theorem playing_iff_waiting_shared :
    ∃ t, (new .standard {} .fps30 60).meets shared = .ok t ∧ t.state = .playing ∧
      t.pending = some 3 ∧ (new .standard {} .fps30 60).IsOpen shared t 3 ∧
      t.callback 1 40.0 = (t, .ok 0) := by
  have rates : (TransportConfig.standard (τ := Float)).minRate ≤
      (TransportConfig.standard (τ := Float)).maxRate := by decide
  have within : ({} : Host).playhead ≤ 60 := by decide
  have fits : ∀ h ∈ shared, h.Fits := by simp [shared, Happening.Fits, Command.Fits]
  obtain ⟨t, hmeets, -, hplaying, hopen, hignored⟩ :=
    playing_iff_waiting rates within (by decide) .fps30 fits
  have hpending : t.pending = some 3 := by
    have heval : ((new .standard {} .fps30 60).meets shared).map (·.pending) = .ok (some 3) := by
      decide +kernel
    rw [hmeets] at heval
    exact Except.ok.inj heval
  exact ⟨t, hmeets, hplaying.mpr (by rw [hpending]; rfl), hpending, hopen 3 hpending,
    hignored 1 40.0 (.inl (by rw [hpending]; decide))⟩

end Transport

end Montage
