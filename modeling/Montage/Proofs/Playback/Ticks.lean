import Montage.Proofs.Playback.Events

/-!
What a callback says that it has done.

A callback says by how many frames it has gone on, and tells of each of them. That is so unless it
finds the playhead at the end of the timeline, with time enough for a frame: then it says that it
has gone on by one, and tells of the end once more, though the playhead has not moved.
-/

namespace Montage

namespace Transport

section

variable {τ : Type} {t t' : Transport τ}

/-- The playhead has gone on by so many frames, by no more than a callback may, and each of them has
been told of in turn, and at last the state, if it is another than before. -/
structure Reports (t t' : Transport τ) (n : Nat) : Prop where
  moved : t'.playhead.toNat = t.playhead.toNat + n
  limited : n ≤ t.config.maxFramesPerTick.toNat
  told : t'.told = t.told ++ t.telling
    (climb t.playhead n ++ if t'.state = t.state then [] else [.state t'.state])

lemma telling_climb (t : Transport τ) (p : Frame) (n : Nat) :
    t.telling (climb p n) =
      (climb p n).flatMap fun e => (t.onFrame ++ t.subscribers).map fun id => (id, e) := by
  simp only [telling, climb, List.flatMap_map, audience]

variable [Scalar τ]

lemma told_settle_of_le (h : t.state = .playing) (hend : t.duration ≤ t.playhead) :
    t.settle.told = t.told ++ t.telling [.state .paused] := by
  have hne : ({ t with saved := 0.0 } : Transport τ).state ≠ .paused := by
    dsimp only
    rw [h]
    nofun
  rw [settle_of_le hend, enter_of_ne hne, telling_singleton]
  rfl

lemma told_settle (h : t.state = .playing) : t.settle.told =
    t.told ++ t.telling (if t.settle.state = .playing then [] else [.state t.settle.state]) := by
  by_cases hend : t.duration ≤ t.playhead
  · have hstate : t.settle.state = .paused := by
      rw [settle_of_le hend]
      exact state_enter _ _
    rw [told_settle_of_le h hend, hstate]
    rfl
  · rw [settle_of_not_le hend, state_requestTick, if_pos h, telling_nil, List.append_nil]
    rfl

lemma reports_settle (hplaying : t.state = .playing) {k : Nat} (timestamp : τ)
    (hk : k ≤ t.config.maxFramesPerTick.toNat) (hwithin : t.playhead.toNat + k ≤ t.duration.toNat) :
    t.Reports ((advance t.msPerFrame)^[k] (t.save timestamp)).settle k := by
  obtain ⟨saved, heq⟩ := exists_advance_iterate t.msPerFrame (t.save timestamp) k
  have hplayhead := toNat_playhead_advance_iterate t.msPerFrame (t.save timestamp)
    (Nat.lt_of_le_of_lt hwithin t.duration.toNat_lt)
  generalize (advance t.msPerFrame)^[k] (t.save timestamp) = t₁ at heq hplayhead ⊢
  have hstate : t₁.state = t.state := by rw [heq]; rfl
  have htelling : t₁.telling = t.telling := by rw [heq]; rfl
  have htold : t₁.told = t.told ++ t.telling (climb t.playhead k) := by
    rw [heq, telling_climb]
    rfl
  refine ⟨?_, hk, ?_⟩
  · rw [playhead_settle, hplayhead]
    rfl
  · rw [told_settle (hstate.trans hplaying), htelling, htold, hplaying, telling_append,
      List.append_assoc]

omit [Scalar τ] in
lemma reports_self (t : Transport τ) : t.Reports t 0 where
  moved := rfl
  limited := Nat.zero_le _
  told := by rw [if_pos rfl]; exact (List.append_nil _).symm

end

/-- **A callback goes on by as many frames as it says, and tells of each,** whatever has happened
before, unless it finds the playhead at the end of the timeline with time enough for a frame. Then
it says that it has gone on by one frame, and tells of the end once more before it pauses, though
the playhead stays where it is; and where the end is the last frame there is it does not even get as
far as that. -/
theorem reports_iff_not_paysAtEnd {config : TransportConfig Float} {host : Host}
    {frameRate : FrameRate} {duration : Frame} {hs : List Happening} {t : Transport Float}
    (reached : (new config host frameRate duration).meets hs = .ok t) (id : RequestId)
    (timestamp : Float) :
    ((∃ n, (t.callback id timestamp).2 = .ok n ∧ t.Reports (t.callback id timestamp).1 n) ↔
      ¬t.PaysAtEnd id timestamp) ∧
    (t.PaysAtEnd id timestamp → t.duration ≠ Frame.last →
      (t.callback id timestamp).2 = .ok 1 ∧
      (t.callback id timestamp).1.playhead = t.playhead ∧
      (t.callback id timestamp).1.told =
        t.told ++ t.telling [.frame t.playhead, .state .paused]) ∧
    (t.PaysAtEnd id timestamp → t.duration = Frame.last →
      (t.callback id timestamp).2 = .error .overflow) := by
  have hnew : (new config host frameRate duration).Steady := ⟨⟨nofun, nofun⟩, nofun⟩
  have hsteady : t.Steady := steady_meets hnew reached
  by_cases hid : t.pending = some id
  · have hplaying := hsteady.playing_of_pending hid
    rcases awaited_cases hsteady hid timestamp with
      ⟨hnot, k, hk, hwithin, hcallback⟩ | ⟨hpays, hne, saved, hcallback⟩ | ⟨hpays, hlast, hfault⟩
    · rw [hcallback]
      exact ⟨iff_of_true ⟨k, rfl, reports_settle hplaying timestamp hk hwithin⟩ hnot,
        fun hpays => absurd hpays hnot, fun hpays => absurd hpays hnot⟩
    · rw [hcallback]
      refine ⟨iff_of_false ?_ (not_not_intro hpays), fun _ _ => ⟨rfl, ?_, ?_⟩,
        fun _ hlast => absurd hlast hne⟩
      · rintro ⟨n, hn, hreports⟩
        have hmoved := hreports.moved
        obtain rfl : 1 = n := Except.ok.inj hn
        rw [playhead_settle, hpays.2.2.1] at hmoved
        exact absurd hmoved (Nat.ne_of_lt (Nat.lt_succ_self _))
      · rw [playhead_settle, hpays.2.2.1]
        rfl
      · have hend : t.duration ≤ t.duration := UInt64.le_refl _
        refine (told_settle_of_le (t := { t.save timestamp with saved }.moveTo t.duration)
          hplaying hend).trans ?_
        rw [hpays.2.2.1]
        exact List.append_assoc _ _ _
    · refine ⟨iff_of_false ?_ (not_not_intro hpays), fun _ hne => absurd hlast hne,
        fun _ _ => hfault⟩
      rintro ⟨n, hn, -⟩
      rw [hfault] at hn
      cases hn
  · have hnot : ¬t.PaysAtEnd id timestamp := fun hpays => hid hpays.2.1
    rw [callback_of_ignored fun hp => hid hp.2]
    exact ⟨iff_of_true ⟨0, rfl, t.reports_self⟩ hnot, fun hpays => absurd hpays hnot,
      fun hpays => absurd hpays hnot⟩

/-- A transport of ten frames plays, gets its first callback, and is moved to the end. -/
def toTheEnd : List Happening :=
  [.told (.listenFrames 1), .told .play, .told (.callback 1 0.0), .told (.seek 10)]

lemma exists_toTheEnd : ∃ t, (new .standard {} .fps30 10).meets toTheEnd = .ok t ∧
    t.PaysAtEnd 2 100.0 ∧ ¬t.PaysAtEnd 2 10.0 ∧ t.duration = 10 ∧ t.onFrame = [1] ∧
    t.onState = [] ∧ t.subscribers = [] := by
  obtain ⟨t, reached⟩ :=
    exists_of_isOk (x := (new .standard {} .fps30 10).meets toTheEnd) (by decide +kernel)
  have heval : ((new .standard {} .fps30 10).meets toTheEnd).map (fun t => decide
      (t.PaysAtEnd 2 100.0 ∧ ¬t.PaysAtEnd 2 10.0 ∧ t.duration = 10 ∧ t.onFrame = [1] ∧
        t.onState = [] ∧ t.subscribers = [])) = .ok true := by decide +kernel
  rw [reached] at heval
  exact ⟨t, reached, of_decide_eq_true (Except.ok.inj heval)⟩

/-- A callback that comes 10 ms later does nothing and says so. One that comes after 100 ms says
that it has gone on by a frame. -/
theorem reports_iff_not_paysAtEnd_sought :
    ∃ t, (new .standard {} .fps30 10).meets toTheEnd = .ok t ∧
      (∃ n, (t.callback 2 10.0).2 = .ok n ∧ t.Reports (t.callback 2 10.0).1 n) ∧
      t.PaysAtEnd 2 100.0 ∧ (t.callback 2 100.0).2 = .ok 1 ∧
      (t.callback 2 100.0).1.playhead = 10 ∧
      (t.callback 2 100.0).1.told = t.told ++ [(1, .frame 10)] := by
  obtain ⟨t, reached, hpays, hnot, hduration, honFrame, honState, hsubscribers⟩ := exists_toTheEnd
  have hend : t.playhead = 10 := hpays.2.2.1.trans hduration
  obtain ⟨hone, hplayhead, htold⟩ := (reports_iff_not_paysAtEnd reached 2 100.0).2.1 hpays
    (by rw [hduration]; decide)
  refine ⟨t, reached, (reports_iff_not_paysAtEnd reached 2 10.0).1.mpr hnot, hpays, hone,
    hplayhead.trans hend, ?_⟩
  rw [htold, hend]
  simp [telling, audience, honFrame, honState, hsubscribers]

/-- At the end of the timeline a callback says that it has gone on by a frame, though the playhead
has not moved. -/
theorem callback_strays_at_end :
    ¬∀ (duration : Frame) (hs : List Happening) (t : Transport Float),
      (new .standard {} .fps30 duration).meets hs = .ok t →
      ∀ (id : RequestId) (timestamp : Float),
        ∃ n, (t.callback id timestamp).2 = .ok n ∧ t.Reports (t.callback id timestamp).1 n := by
  intro h
  obtain ⟨t, reached, -⟩ := exists_toTheEnd
  obtain ⟨n, hn, hreports⟩ := h 10 toTheEnd t reached 2 100.0
  have heval : ((new .standard {} .fps30 10).meets toTheEnd).map (fun t =>
      ((t.callback 2 100.0).2.toOption, t.playhead, (t.callback 2 100.0).1.playhead)) =
        .ok (some 1, 10, 10) := by decide +kernel
  rw [reached] at heval
  obtain ⟨hone, hbefore, hafter⟩ := Prod.mk.inj (Except.ok.inj heval) |>.imp_right Prod.mk.inj
  have hmoved := hreports.moved
  rw [hbefore, hafter] at hmoved
  obtain rfl : n = 0 := Nat.add_eq_left.mp hmoved.symm
  rw [hn] at hone
  exact absurd (Option.some.inj hone) Nat.zero_ne_one

end Transport

end Montage
