import Mathlib.Data.Rat.Floor
import Mathlib.Tactic.Linarith
import Montage.Proofs.Playback.Steady

/-!
Time is neither lost nor made up.

In exact time, the frames that playback has gone on by and the time that is saved up come to the
time that has passed since the first callback. As many frames have been shown as there has been
time for, as soon as a callback that brings no new time goes on by none; it does not matter how the
time came in, nor how many frames a callback may go on by.
-/

namespace Montage

namespace Transport

/-- The time from the first of some moments to the last. -/
def elapsed (moments : List Rat) : Rat := moments.getLast?.getD 0 - moments.head?.getD 0

/-- Playback from its start on, with callbacks at these moments that have gone on by so many frames
in all and have not come to the end. Whatever else happens leaves the playhead and the clock as
they are. -/
inductive Plays (t₀ : Transport Rat) : List Rat → Nat → Transport Rat → Prop
  | play (idle : t₀.state ≠ .playing) (long : t₀.duration ≠ 0) : Plays t₀ [] 0 t₀.play
  | callback {moments : List Rat} {n m : Nat} {t : Transport Rat} {id : RequestId} {moment : Rat}
      (h : Plays t₀ moments n t) (awaited : t.pending = some id)
      (later : ∀ last ∈ moments.getLast?, last ≤ moment)
      (ok : (t.callback id moment).2 = .ok m)
      (short : (t.callback id moment).1.playhead < (t.callback id moment).1.duration) :
      Plays t₀ (moments ++ [moment]) (n + m) (t.callback id moment).1
  | aside {moments : List Rat} {n : Nat} {t : Transport Rat} {host : Host} {volume : Float32}
      {muted : Bool} {onFrame onState subscribers : List ListenerId}
      {told : List (ListenerId × TransportEvent)}
      (h : Plays t₀ moments n t) (still : host.playhead = t.playhead) :
      Plays t₀ moments n { t with host, volume, muted, onFrame, onState, subscribers, told }

variable {t₀ t : Transport Rat} {moments : List Rat} {n : Nat} {id : RequestId} {moment last : Rat}

/-! The clock -/

lemma elapsed_concat (h : last ∈ moments.getLast?) :
    elapsed (moments ++ [moment]) = elapsed moments + (moment - last) := by
  obtain ⟨before, rfl⟩ := List.getLast?_eq_some_iff.mp h
  have hfirst : (before ++ [last] ++ [moment]).head? = (before ++ [last]).head? :=
    List.head?_append_of_ne_nil _ (by simp)
  simp only [elapsed, hfirst, List.getLast?_concat, Option.getD_some]
  linarith

lemma elapsed_concat_last (h : last ∈ moments.getLast?) :
    elapsed (moments ++ [last]) = elapsed moments := by
  rw [elapsed_concat h, sub_self, add_zero]

lemma elapsed_le_concat (later : ∀ last ∈ moments.getLast?, last ≤ moment) :
    elapsed moments ≤ elapsed (moments ++ [moment]) := by
  cases hlast : moments.getLast? with
  | none =>
    obtain rfl := List.getLast?_eq_none_iff.mp hlast
    simp [elapsed]
  | some last =>
    have hle := later last hlast
    rw [elapsed_concat hlast]
    linarith

lemma positivePart_of_nonneg {x : Rat} (h : 0 ≤ x) : Scalar.positivePart x = x := by
  have hzero : (0.0 : Rat) = 0 := by norm_num
  unfold Scalar.positivePart
  rw [hzero]
  split
  · rfl
  · next hx => exact Rat.le_antisymm h (Rat.not_lt.mp hx)

lemma saved_save (clock : t.lastTimestamp = moments.getLast?)
    (later : ∀ last ∈ moments.getLast?, last ≤ moment) :
    (t.save moment).saved = t.saved + (elapsed (moments ++ [moment]) - elapsed moments) := by
  cases hlast : moments.getLast? with
  | none =>
    obtain rfl := List.getLast?_eq_none_iff.mp hlast
    have hsaved : (t.save moment).saved = t.saved + 0.0 := by
      rw [save, clock]
      rfl
    rw [hsaved]
    norm_num [elapsed]
  | some last =>
    have hsaved : (t.save moment).saved = t.saved + Scalar.positivePart (moment - last) := by
      rw [save, clock, hlast]
    rw [hsaved, positivePart_of_nonneg (sub_nonneg.mpr (later last hlast)), elapsed_concat hlast]
    linarith

lemma slack_pos : (0 : Rat) < slack := by decide +kernel

lemma msPerFrame_eq (t : Transport Rat) : t.msPerFrame =
    1000 * t.frameRate.denominator.toNat / t.frameRate.numerator.toNat / t.rate := by
  have hnumerator : (Scalar.ofInt t.frameRate.numerator.toNat : Rat) =
      t.frameRate.numerator.toNat := Int.cast_natCast _
  have hdenominator : (Scalar.ofInt t.frameRate.denominator.toNat : Rat) =
      t.frameRate.denominator.toNat := Int.cast_natCast _
  rw [msPerFrame, FrameRate.intervalMs, FrameRate.fps, hnumerator, hdenominator, div_div_eq_mul_div]
  norm_num

lemma saved_advance_iterate (ms : Rat) (t : Transport Rat) (k : Nat) :
    ((advance ms)^[k] t).saved = t.saved - k * ms := by
  induction k with
  | zero => simp
  | succ k ih =>
    rw [Function.iterate_succ_apply', Nat.cast_succ]
    show ((advance ms)^[k] t).saved - ms = _
    rw [ih]
    linarith

/-- The accounts of playback. -/
structure Accounts (t₀ : Transport Rat) (moments : List Rat) (n : Nat) (t : Transport Rat) :
    Prop where
  playing : t.state = .playing
  awaits : t.pending.isSome = true
  short : t.playhead < t.duration
  clock : t.lastTimestamp = moments.getLast?
  interval : t.msPerFrame = t₀.msPerFrame
  config : t.config = t₀.config
  duration : t.duration = t₀.duration
  moved : t.playhead.toNat = t₀.play.playhead.toNat + n
  balance : n * t₀.msPerFrame + t.saved = elapsed moments
  owed : -slack ≤ t.saved

/-- A transport starts to play before the end, with no time saved up and no callback so far. -/
lemma exists_play (idle : t₀.state ≠ .playing) (long : t₀.duration ≠ 0) :
    ∃ (host : Host) (told : List (ListenerId × TransportEvent)), t₀.play =
      { t₀ with
        host := host.request.2
        state := .playing
        saved := 0.0
        lastTimestamp := none
        pending := some host.request.1
        told } ∧ host.playhead < t₀.duration := by
  have hstart : ∃ (host : Host) (told : List (ListenerId × TransportEvent)),
      (if t₀.duration ≤ t₀.playhead then t₀.moveTo 0 else t₀) = { t₀ with host, told } ∧
        host.playhead < t₀.duration := by
    split
    · exact ⟨_, _, rfl, UInt64.pos_iff_ne_zero.mpr long⟩
    · next h => exact ⟨t₀.host, t₀.told, rfl, UInt64.not_le.mp h⟩
  obtain ⟨host, told, hstart, hshort⟩ := hstart
  rw [play, if_neg (not_or.mpr ⟨idle, long⟩), hstart]
  exact ⟨host, _, enter_of_ne idle, hshort⟩

namespace Accounts

lemma play (idle : t₀.state ≠ .playing) (long : t₀.duration ≠ 0) :
    Accounts t₀ [] 0 t₀.play := by
  obtain ⟨host, told, hplay, hshort⟩ := exists_play idle long
  have hslack := slack_pos
  rw [hplay]
  refine ⟨rfl, rfl, hshort, rfl, rfl, rfl, rfl, ?_, ?_, ?_⟩
  · rw [hplay]
    rfl
  · norm_num [elapsed]
  · norm_num
    linarith

lemma paid (h : Accounts t₀ moments n t) : n * t₀.msPerFrame ≤ elapsed moments + slack := by
  have hbalance := h.balance
  have howed := h.owed
  linarith

lemma balance_iterate (h : Accounts t₀ moments n t)
    (later : ∀ last ∈ moments.getLast?, last ≤ moment) (k : Nat) :
    (n + k : Nat) * t₀.msPerFrame + ((advance t.msPerFrame)^[k] (t.save moment)).saved =
      elapsed (moments ++ [moment]) := by
  rw [saved_advance_iterate, saved_save h.clock later, ← h.balance, h.interval, Nat.cast_add]
  linarith

lemma isDue_iterate (h : Accounts t₀ moments n t)
    (later : ∀ last ∈ moments.getLast?, last ≤ moment) (k : Nat) :
    IsDue t.msPerFrame ((advance t.msPerFrame)^[k] (t.save moment)) ↔
      (n + (k + 1) : Nat) * t₀.msPerFrame ≤ elapsed (moments ++ [moment]) + slack := by
  rw [← h.balance_iterate later k, IsDue, h.interval, ← Nat.add_assoc, Nat.cast_succ, add_mul,
    one_mul, add_assoc]
  exact (add_le_add_iff_left _).symm

/-- Frames that are paid for and do not come to the end keep the accounts. -/
lemma settle (h : Accounts t₀ moments n t) (later : ∀ last ∈ moments.getLast?, last ≤ moment)
    {m : Nat} (paid : (n + m : Nat) * t₀.msPerFrame ≤ elapsed (moments ++ [moment]) + slack)
    (short : t.playhead.toNat + m < t.duration.toNat) :
    Accounts t₀ (moments ++ [moment]) (n + m)
      ((advance t.msPerFrame)^[m] (t.save moment)).settle := by
  obtain ⟨saved, heq⟩ := exists_advance_iterate t.msPerFrame (t.save moment) m
  have hplayhead := toNat_playhead_advance_iterate t.msPerFrame (t.save moment)
    (Nat.lt_trans short t.duration.toNat_lt)
  have hbalance := h.balance_iterate later m
  rw [heq] at hplayhead hbalance ⊢
  have hshort := UInt64.lt_iff_toNat_lt.mpr (hplayhead.trans_lt short)
  rw [settle_of_not_le (UInt64.not_le.mpr hshort)]
  exact {
    playing := h.playing
    awaits := rfl
    short := hshort
    clock := List.getLast?_concat.symm
    interval := h.interval
    config := h.config
    duration := h.duration
    moved := by
      rw [← Nat.add_assoc, ← h.moved]
      exact hplayhead
    balance := hbalance
    owed := by
      dsimp only at hbalance
      show -slack ≤ saved
      linarith }

/-- **One callback** is paid for, keeps the accounts unless it comes to the end, and goes on by no
frame only if there is no time for the next one. -/
lemma step (h : Accounts t₀ moments n t) (hid : t.pending = some id)
    (later : ∀ last ∈ moments.getLast?, last ≤ moment) :
    ∃ m, (t.callback id moment).2 = .ok m ∧
      (n + m : Nat) * t₀.msPerFrame ≤ elapsed (moments ++ [moment]) + slack ∧
      (t₀.config.maxFramesPerTick.toNat ≠ 0 →
        (m = 0 ↔ elapsed (moments ++ [moment]) + slack < (n + 1) * t₀.msPerFrame)) ∧
      (t.callback id moment).1.playhead.toNat = t₀.play.playhead.toNat + (n + m) ∧
      (t.callback id moment).1.duration = t₀.duration ∧
      ((t.callback id moment).1.playhead < (t.callback id moment).1.duration →
        Accounts t₀ (moments ++ [moment]) (n + m) (t.callback id moment).1) := by
  obtain ⟨m, hcallback, -, hwithin, hdues, hstop⟩ := callback_of_lt h.playing hid h.short moment
  have hpaid : (n + m : Nat) * t₀.msPerFrame ≤ elapsed (moments ++ [moment]) + slack := by
    cases m with
    | zero =>
      rw [Nat.add_zero]
      linarith [h.paid, elapsed_le_concat later]
    | succ k => exact (h.isDue_iterate later k).mp (hdues k (Nat.lt_succ_self k))
  have hzero (limit : t₀.config.maxFramesPerTick.toNat ≠ 0) :
      m = 0 ↔ ¬IsDue t.msPerFrame (t.save moment) := by
    constructor
    · rintro rfl
      have hshort := UInt64.lt_iff_toNat_lt.mp h.short
      rcases hstop with hlimit | hend | hdue
      · exact absurd (h.config ▸ hlimit.symm) limit
      · omega
      · exact hdue
    · intro hdue
      by_contra hne
      exact hdue (hdues 0 (Nat.pos_of_ne_zero hne))
  have hplayhead : ((advance t.msPerFrame)^[m] (t.save moment)).settle.playhead.toNat =
      t.playhead.toNat + m := by
    rw [playhead_settle]
    exact toNat_playhead_advance_iterate _ _ (Nat.lt_of_le_of_lt hwithin t.duration.toNat_lt)
  have hduration : ((advance t.msPerFrame)^[m] (t.save moment)).settle.duration = t.duration := by
    obtain ⟨saved, heq⟩ := exists_advance_iterate t.msPerFrame (t.save moment) m
    rw [duration_settle, heq]
    rfl
  rw [hcallback]
  refine ⟨m, rfl, hpaid, fun limit => ?_, ?_, hduration.trans h.duration, fun hshort => ?_⟩
  · rw [hzero limit, ← Nat.cast_succ, ← not_le]
    exact not_congr (h.isDue_iterate later 0)
  · rw [hplayhead, h.moved, Nat.add_assoc]
  · rw [UInt64.lt_iff_toNat_lt, hplayhead, hduration] at hshort
    exact h.settle later hpaid hshort

end Accounts

lemma Plays.accounts (h : t₀.Plays moments n t) : Accounts t₀ moments n t := by
  induction h with
  | play idle long => exact .play idle long
  | callback _ awaited later ok short ih =>
    obtain ⟨m, hok, -, -, -, -, hkeeps⟩ := ih.step awaited later
    cases ok.symm.trans hok
    exact hkeeps short
  | @aside _ _ t host _ _ _ _ _ _ _ still ih =>
    have hshort : host.playhead < t.duration := still ▸ ih.short
    exact ⟨ih.playing, ih.awaits, hshort, ih.clock, ih.interval, ih.config, ih.duration,
      (congrArg UInt64.toNat still).trans ih.moved, ih.balance, ih.owed⟩

/-- No more than the frames that there was time for have been shown, and all of them as soon as
there is no time for the next. -/
lemma lt_iff_floor_eq {ms time : Rat} (h : n * ms ≤ time) :
    time < (n + 1) * ms ↔ 0 < ms ∧ (n : ℤ) = ⌊time / ms⌋ := by
  constructor
  · intro hlt
    have hms : 0 < ms := by linarith
    refine ⟨hms, (Int.floor_eq_iff.mpr ⟨?_, ?_⟩).symm⟩
    · rw [Int.cast_natCast, le_div_iff₀ hms]
      exact h
    · rw [Int.cast_natCast, div_lt_iff₀ hms]
      exact hlt
  · rintro ⟨hms, hfloor⟩
    have hlt := (Int.floor_eq_iff.mp hfloor.symm).2
    rwa [Int.cast_natCast, div_lt_iff₀ hms] at hlt

lemma le_last (hlast : last ∈ moments.getLast?) : ∀ other ∈ moments.getLast?, other ≤ last := by
  intro other hother
  cases hother.symm.trans hlast
  exact le_refl _

/-- A callback that brings no new time goes on by no frame just when all have been shown. -/
lemma Accounts.step_last (h : Accounts t₀ moments n t)
    (limit : t₀.config.maxFramesPerTick.toNat ≠ 0) (hid : t.pending = some id)
    (hlast : last ∈ moments.getLast?) :
    ∃ m, (t.callback id last).2 = .ok m ∧
      (n + m : Nat) * t₀.msPerFrame ≤ elapsed moments + slack ∧
      (m = 0 ↔ 0 < t₀.msPerFrame ∧ (n : ℤ) = ⌊(elapsed moments + slack) / t₀.msPerFrame⌋) ∧
      (t.callback id last).1.playhead.toNat = t₀.play.playhead.toNat + (n + m) ∧
      (t.callback id last).1.duration = t₀.duration := by
  obtain ⟨m, hok, hpaid, hzero, hmoved, hduration, -⟩ := h.step hid (le_last hlast)
  rw [elapsed_concat_last hlast] at hpaid hzero
  exact ⟨m, hok, hpaid, (hzero limit).trans (lt_iff_floor_eq h.paid), hmoved, hduration⟩

/-- Callbacks that bring no new time show all the frames that there has been time for. -/
lemma Plays.exists_replicate (h : t₀.Plays moments n t)
    (limit : t₀.config.maxFramesPerTick.toNat ≠ 0) (hms : 0 < t₀.msPerFrame)
    (hlast : last ∈ moments.getLast?) {frames : Nat}
    (hframes : (frames : ℤ) = ⌊(elapsed moments + slack) / t₀.msPerFrame⌋)
    (room : t₀.play.playhead.toNat + frames < t₀.duration.toNat) :
    ∃ k t', t₀.Plays (moments ++ List.replicate k last) frames t' := by
  -- On the frames that are still to come: each callback shows one of them at least.
  induction hrest : frames - n using Nat.strongRecOn generalizing moments n t with
  | ind rest ih =>
    by_cases hall : n = frames
    · exact ⟨0, t, by rwa [List.replicate_zero, List.append_nil, ← hall]⟩
    · obtain ⟨id, hid⟩ := Option.isSome_iff_exists.mp h.accounts.awaits
      obtain ⟨m, hok, hpaid, hzero, hmoved, hduration⟩ := h.accounts.step_last limit hid hlast
      have hne : m ≠ 0 := fun hm =>
        hall (Int.ofNat_inj.mp ((hzero.mp hm).2.trans hframes.symm))
      have hle : n + m ≤ frames := by
        rw [← Int.ofNat_le, hframes, Int.le_floor, le_div_iff₀ hms]
        exact hpaid
      have hshort : (t.callback id last).1.playhead < (t.callback id last).1.duration := by
        rw [UInt64.lt_iff_toNat_lt, hmoved, hduration]
        omega
      obtain ⟨k, t', hplays⟩ := ih (frames - (n + m)) (by omega)
        (h.callback hid (le_last hlast) hok hshort) List.getLast?_concat
        (by rw [elapsed_concat_last hlast]; exact hframes) rfl
      refine ⟨k + 1, t', ?_⟩
      rwa [List.append_assoc, List.singleton_append, ← List.replicate_succ] at hplays

/-- **Time is neither lost nor made up** while a transport plays. A frame takes the time that the
frame rate says, divided by the rate of playback. The frames shown so far and the time saved up come
to the time that has passed, and the time saved up falls short by no more than the slack. A callback
that brings no new time goes on by none if and only if all frames have been shown that there has
been time for; and callbacks of that kind get so far, unless the timeline ends before. -/
theorem shows_frames_of_elapsed (plays : t₀.Plays moments n t)
    (limit : 1 ≤ t₀.config.maxFramesPerTick) :
    let ms : Rat := 1000 * t₀.frameRate.denominator.toNat / t₀.frameRate.numerator.toNat / t₀.rate
    n * ms + t.saved = elapsed moments ∧ -slack ≤ t.saved ∧
    t.playhead.toNat = t₀.play.playhead.toNat + n ∧
    ∃ id, t.pending = some id ∧
      (∀ moment, ∃ m ≤ t₀.config.maxFramesPerTick.toNat, (t.callback id moment).2 = .ok m) ∧
      ∀ last ∈ moments.getLast?,
        ((t.callback id last).2 = .ok 0 ↔
          0 < ms ∧ (n : ℤ) = ⌊(elapsed moments + slack) / ms⌋) ∧
        ∀ frames : Nat, 0 < ms → (frames : ℤ) = ⌊(elapsed moments + slack) / ms⌋ →
          t₀.play.playhead.toNat + frames < t₀.duration.toNat →
          ∃ k t', t₀.Plays (moments ++ List.replicate k last) frames t' := by
  intro ms
  have hms : t₀.msPerFrame = ms := msPerFrame_eq t₀
  rw [← hms]
  have haccounts := plays.accounts
  have hlimit : t₀.config.maxFramesPerTick.toNat ≠ 0 := by
    rw [UInt32.le_iff_toNat_le] at limit
    exact Nat.ne_of_gt limit
  obtain ⟨id, hid⟩ := Option.isSome_iff_exists.mp haccounts.awaits
  refine ⟨haccounts.balance, haccounts.owed, haccounts.moved, id, hid, fun moment => ?_,
    fun last hlast => ⟨?_, fun frames hms hframes room =>
      plays.exists_replicate hlimit hms hlast hframes room⟩⟩
  · obtain ⟨m, hcallback, hm, -⟩ := callback_of_lt haccounts.playing hid haccounts.short moment
    exact ⟨m, haccounts.config ▸ hm, congrArg Prod.snd hcallback⟩
  · obtain ⟨m, hok, -, hzero, -⟩ := haccounts.step_last hlimit hid hlast
    rw [hok, Except.ok.injEq, hzero]

/-- A timeline of a hundred frames at 30000/1001 frames per second, to be played at double speed. -/
def drop : Transport Rat := { (new .standard {} .fps2997 100 : Transport Rat) with rate := 2 }

lemma setRate_drop : (new .standard {} .fps2997 100).setRate 2 = .ok drop :=
  setRate_of_clamp rfl (by decide +kernel) (by decide +kernel)

/-- It plays through a stall of a little less than three frames, and has gone on by two of them. -/
def dropStalled : Transport Rat := ((drop.play.callback 1 0).1.callback 2 50.0499995).1

/-- The third frame comes with a callback that brings no new time, and is half a nanosecond early;
after that there is no time for another. At normal speed there would have been time for one frame
only. -/
theorem shows_frames_of_elapsed_drop : (new .standard {} .fps2997 100).setRate 2 = .ok drop ∧
    ∃ t id, drop.Plays [0, 50.0499995, 50.0499995] 3 t ∧ t.pending = some id ∧
      3 * (1001 / 60) + t.saved = 50.0499995 ∧ t.saved < 0 ∧
      (t.callback id 50.0499995).2 = .ok 0 := by
  have hplay : drop.Plays [] 0 drop.play := .play (by decide) (by decide)
  have hfirst : drop.Plays ([] ++ [0]) (0 + 0) (drop.play.callback 1 0).1 :=
    hplay.callback (by decide +kernel) (by simp) (by decide +kernel) (by decide +kernel)
  have hstalled : drop.Plays ([0] ++ [50.0499995]) (0 + 2) dropStalled :=
    Plays.callback hfirst (by decide +kernel) (by norm_num) (by decide +kernel) (by decide +kernel)
  have hplays : drop.Plays ([0, 50.0499995] ++ [50.0499995]) (2 + 1)
      (dropStalled.callback 3 50.0499995).1 :=
    Plays.callback hstalled (by decide +kernel) (by simp) (by decide +kernel) (by decide +kernel)
  obtain ⟨hbalance, -, -, id, hid, -, hlast⟩ := shows_frames_of_elapsed hplays (by decide)
  have helapsed : elapsed ([0, 50.0499995] ++ [50.0499995]) = 50.0499995 := by
    norm_num [elapsed]
  have hinterval : (1000 * drop.frameRate.denominator.toNat / drop.frameRate.numerator.toNat /
      drop.rate : Rat) = 1001 / 60 := by decide +kernel
  rw [helapsed, hinterval] at hbalance hlast
  refine ⟨setRate_drop, _, id, hplays, hid, hbalance, ?_, ?_⟩
  · norm_num at hbalance
    linarith
  · refine (hlast 50.0499995 (by simp)).1.mpr ⟨by norm_num, ?_⟩
    have hslack : (slack : Rat) = 1e-6 := rfl
    rw [hslack, eq_comm, Int.floor_eq_iff]
    norm_num

end Transport

end Montage
