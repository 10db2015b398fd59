import Mathlib.Algebra.Ring.Nat
import Montage.Preview.Player
import Montage.Proofs.Playback.Ticks
import Montage.Proofs.Preview.Solitude

/-!
What the summary of a run counts.

A player counts the frames that it has been told of. The transport tells of each frame that a
callback goes on to; but it tells of the first frame as well when playback starts anew from the end,
and by then the player listens. So the summary counts the frames that the callbacks have gone on by,
and one more if playback has started anew.
-/

namespace Montage

open Player (listener countFrames)

namespace Transport

section

variable {t t' : Transport Float}

lemma countFrames_append (told told' : List (ListenerId × TransportEvent)) :
    countFrames (told ++ told') = countFrames told + countFrames told' := List.countP_append

/-- All that happens is told to the player, and to nobody else. -/
def IsHeard (t : Transport Float) : Prop := t.audience = fun _ => [listener]

lemma IsHeard.countFrames_telling (h : t.IsHeard) (es : List TransportEvent) :
    countFrames (t.telling es) = es.countP TransportEvent.isFrame := by
  induction es with
  | nil => rfl
  | cons e es ih =>
    have hhead : countFrames ((t.audience e).map fun id => (id, e)) =
        [e].countP TransportEvent.isFrame := by
      rw [h]
      cases e <;> rfl
    rw [telling, List.flatMap_cons, countFrames_append, hhead, ← telling, ih]
    exact List.countP_append.symm

lemma countP_climb (p : Frame) (n : Nat) : (climb p n).countP TransportEvent.isFrame = n := by
  have hall : ∀ e ∈ climb p n, e.isFrame = true := by
    intro e he
    obtain ⟨i, -, rfl⟩ := List.mem_map.mp he
    rfl
  rw [List.countP_eq_length.mpr hall, climb, List.length_map, List.length_range]

/-- The player alone listens, and there is something left to play as long as playback runs. -/
structure InRun (t : Transport Float) : Prop where
  heard : t.IsHeard
  before : t.state = .playing → t.playhead < t.duration

/-- **A callback** meets no fault, and the player is told of as many frames as it goes on by. -/
lemma InRun.callback (h : t.InRun) (id : RequestId) (timestamp : Float) :
    ∃ n, (t.callback id timestamp).2 = .ok n ∧ (t.callback id timestamp).1.InRun ∧
      (t.callback id timestamp).1.playhead.toNat = t.playhead.toNat + n ∧
      countFrames (t.callback id timestamp).1.told = countFrames t.told + n := by
  by_cases hawaited : t.state = .playing ∧ t.pending = some id
  · obtain ⟨hplaying, hid⟩ := hawaited
    obtain ⟨k, hcallback, hk, hwithin, -⟩ :=
      callback_of_lt hplaying hid (h.before hplaying) timestamp
    have hreports := reports_settle hplaying timestamp hk hwithin
    have hacts := (t.acts_save timestamp).trans (acts_advance_iterate t.msPerFrame _ k)
    rw [hcallback]
    generalize (advance t.msPerFrame)^[k] (t.save timestamp) = t₁ at hreports hacts ⊢
    obtain ⟨es, hlogs⟩ := (hacts.trans t₁.acts_settle).logs
    refine ⟨k, rfl, ⟨hlogs.audience_eq.trans h.heard, ?_⟩, hreports.moved, ?_⟩
    · by_cases hend : t₁.duration ≤ t₁.playhead
      · rw [settle_of_le hend, state_enter]
        nofun
      · rw [settle_of_not_le hend]
        exact fun _ => UInt64.not_le.mp hend
    · have hstate : (if t₁.settle.state = t.state then [] else
          [TransportEvent.state t₁.settle.state]).countP TransportEvent.isFrame = 0 := by
        split <;> rfl
      rw [hreports.told, countFrames_append, h.heard.countFrames_telling, List.countP_append,
        countP_climb, hstate, Nat.add_zero]
  · rw [callback_of_ignored hawaited timestamp]
    exact ⟨0, rfl, h, rfl, rfl⟩

/-- Playback is to begin with the first frame again, for the playhead is at the end. -/
def Restarts (t : Transport Float) : Prop := t.duration ≠ 0 ∧ t.duration ≤ t.playhead

instance : Decidable t.Restarts := inferInstanceAs (Decidable (_ ∧ _))

/-- At the first frame again, if there is no other to begin with. -/
def rewound (t : Transport Float) : Transport Float :=
  if t.duration ≤ t.playhead then t.moveTo 0 else t

lemma play_eq (hidle : t.state ≠ .playing) (hzero : t.duration ≠ 0) : t.play =
    ({ t.rewound with saved := 0.0, lastTimestamp := none } : Transport Float).requestTick.enter
      .playing :=
  if_neg (not_or.mpr ⟨hidle, hzero⟩)

lemma rewound_spec (h : t.IsHeard) (hzero : t.duration ≠ 0) :
    t.rewound.state = t.state ∧ t.rewound.IsHeard ∧ t.rewound.playhead < t.rewound.duration ∧
      t.rewound.playhead = (if t.Restarts then 0 else t.playhead) ∧
      countFrames t.rewound.told = countFrames t.told + if t.Restarts then 1 else 0 := by
  by_cases hend : t.duration ≤ t.playhead
  · have hrestarts : t.Restarts := ⟨hzero, hend⟩
    have hrewound : t.rewound = t.moveTo 0 := if_pos hend
    have htold : (t.moveTo 0).told = t.told ++ t.telling [.frame 0] := by
      rw [telling_singleton]
      rfl
    rw [hrewound, htold, countFrames_append, h.countFrames_telling, if_pos hrestarts,
      if_pos hrestarts]
    exact ⟨rfl, h, UInt64.pos_iff_ne_zero.mpr hzero, rfl, rfl⟩
  · have hnot : ¬t.Restarts := fun h => hend h.2
    have hrewound : t.rewound = t := if_neg hend
    rw [hrewound, if_neg hnot, if_neg hnot]
    exact ⟨rfl, h, UInt64.not_le.mp hend, rfl, rfl⟩

lemma IsHeard.enter_playing (h : t.IsHeard) (hne : t.state ≠ .playing)
    (hbefore : t.playhead < t.duration) : (t.enter .playing).InRun ∧
      (t.enter .playing).playhead = t.playhead ∧
      countFrames (t.enter .playing).told = countFrames t.told := by
  have htold : (t.enter .playing).told = t.told ++ t.telling [.state .playing] := by
    rw [enter_of_ne hne, telling_singleton]
    rfl
  refine ⟨⟨?_, fun _ => ?_⟩, playhead_enter _ _, ?_⟩
  · rw [enter_of_ne hne]
    exact h
  · rw [playhead_enter, duration_enter]
    exact hbefore
  · rw [htold, countFrames_append, h.countFrames_telling]
    rfl

/-- **To play.** The player is told of the first frame if playback begins with it again. -/
lemma InRun.play (h : t.InRun) (hidle : t.state ≠ .playing) :
    t.play.InRun ∧ t.play.playhead = (if t.Restarts then 0 else t.playhead) ∧
      countFrames t.play.told = countFrames t.told + if t.Restarts then 1 else 0 := by
  by_cases hzero : t.duration = 0
  · have hplay : t.play = t := if_pos (.inr hzero)
    have hnot : ¬t.Restarts := fun hend => hend.1 hzero
    rw [hplay, if_neg hnot, if_neg hnot]
    exact ⟨h, rfl, rfl⟩
  · obtain ⟨hstate, hheard, hbefore, hplayhead, hcount⟩ := rewound_spec h.heard hzero
    rw [play_eq hidle hzero]
    generalize t.rewound = t₁ at hstate hheard hbefore hplayhead hcount
    obtain ⟨hrun, hsame, htold⟩ := IsHeard.enter_playing
      (t := ({ t₁ with saved := 0.0, lastTimestamp := none } : Transport Float).requestTick)
      hheard (hstate ▸ hidle) hbefore
    exact ⟨hrun, hsame.trans hplayhead, htold.trans hcount⟩

end

end Transport

namespace Player

/-! ### Runs that keep count of what the transport says -/

/-- Serves a callback. -/
def serve (timestamp : Float) (p : Player) (id : RequestId) : Except PreviewError Player := do
  let (session, refreshed) := p.session.callback id timestamp
  return { session, stats := ← p.stats.add refreshed }

lemma serveAll_eq (timestamp : Float) (ids : List RequestId) (p : Player) :
    serveAll timestamp ids p = ids.foldlM (serve timestamp) p := rfl

/-- Serves a callback, and keeps the number of frames that it has gone on by. -/
def serveTallied (timestamp : Float) (x : Player × List Nat) (id : RequestId) :
    Except PreviewError (Player × List Nat) := do
  let n ← fault (x.1.session.preview.transport.callback id timestamp).2
  return (← serve timestamp x.1 id, x.2 ++ [n])

/-- The time that a tick has come at, in milliseconds. -/
def stamp (started : Nat) (s : Session) : Float := secondsOfMs (s.now - started) * 1000.0

/-- Serves the callbacks of a tick, and keeps count of them. -/
def serveTickTallied (started : Nat) (t : Ticker) (x : Player × List Nat) :
    Except PreviewError (Ticker × Player × List Nat) := do
  let s := x.1.session.sleepUntil t.wakeMs
  let y ← s.requests.pending.foldlM (serveTallied (stamp started s))
    ({ x.1 with session := Session.Use.apply s .take }, x.2)
  return (t.next (s.now * 1000000), y)

def loopTallied (started deadline : Nat) : Nat → Ticker → Player × List Nat →
    Except PreviewError (Player × List Nat)
  | 0, _, x => .ok x
  | fuel + 1, t, x =>
    if x.1.nowNanos < deadline && x.1.isBusy then do
      let (t, x) ← serveTickTallied started t x
      loopTallied started deadline fuel t x
    else .ok x

/-- Plays a timeline, and keeps for each callback that is served by how many frames it has gone on
as the transport says. -/
def playTallied (d : Document) (config : PreviewConfig) (options : PlayOptions) :
    Except PreviewError (Player × List Nat) := do
  let p ← begin options (.new config {} d.snapshot d.assetTable)
  let deadline ← fault (p.deadlineAfter options.seconds)
  let ticker ← fault (Ticker.start p.nowNanos options.refreshHz)
  let ticks := (deadline - p.nowNanos) / ticker.period + 2
  let (p, ns) ← loopTallied p.session.now deadline ticks ticker (p, [])
  return (p.finish, ns)

section

variable {started deadline : Nat} {timestamp : Float} {x y : Player × List Nat}

lemma map_serveTallied (timestamp : Float) (x : Player × List Nat) (id : RequestId) :
    (serveTallied timestamp x id).map (·.1) = serve timestamp x.1 id := by
  unfold serveTallied
  cases hn : (x.1.session.preview.transport.callback id timestamp).2 with
  | error f =>
    rw [serve, Session.callback_of_fault hn]
    rfl
  | ok n =>
    show Except.map _ (serve timestamp x.1 id >>= _) = _
    cases serve timestamp x.1 id <;> rfl

lemma map_foldlM_serveTallied (timestamp : Float) (ids : List RequestId) (x : Player × List Nat) :
    (ids.foldlM (serveTallied timestamp) x).map (·.1) = serveAll timestamp ids x.1 := by
  rw [serveAll_eq]
  induction ids generalizing x with
  | nil => rfl
  | cons id ids ih =>
    rw [List.foldlM_cons, List.foldlM_cons, ← map_serveTallied, map_of_bind, bind_of_map]
    exact bind_congr fun y => ih y

lemma serveTick_eq (started : Nat) (t : Ticker) (p : Player) {s : Session}
    (h : p.session.sleepUntil t.wakeMs = s) : p.serveTick started t =
      serveAll (stamp started s) s.requests.pending
        { p with session := Session.Use.apply s .take } >>= fun q =>
          .ok (t.next (s.now * 1000000), q) := by
  rw [serveTick, h]
  rfl

lemma map_serveTickTallied (started : Nat) (t : Ticker) (x : Player × List Nat) :
    (serveTickTallied started t x).map (fun y => (y.1, y.2.1)) = x.1.serveTick started t := by
  rw [serveTickTallied, serveTick_eq started t x.1 rfl, map_of_bind,
    ← map_foldlM_serveTallied _ _ (_, x.2), bind_of_map]
  rfl

lemma map_loopTallied (started deadline fuel : Nat) (t : Ticker) (x : Player × List Nat) :
    (loopTallied started deadline fuel t x).map (·.1) = loop started deadline fuel t x.1 := by
  induction fuel generalizing t x with
  | zero => rfl
  | succ fuel ih =>
    rw [loopTallied, loop]
    split
    · rw [← map_serveTickTallied, map_of_bind, bind_of_map]
      exact bind_congr fun y => ih y.1 y.2
    · rfl

lemma map_playTallied (d : Document) (config : PreviewConfig) (options : PlayOptions) :
    (playTallied d config options).map (·.1) = play d config options := by
  rw [playTallied, play, map_of_bind]
  refine bind_congr fun p => ?_
  rw [map_of_bind]
  refine bind_congr fun deadline => ?_
  rw [map_of_bind]
  refine bind_congr fun ticker => ?_
  dsimp only
  rw [map_of_bind, ← map_loopTallied _ _ _ _ (p, []), bind_of_map]
  rfl

end

end Player

namespace Session

/-- Where a run has got to that began on a frame, when the player had been told of some frames
before: the callbacks since then have gone on by `ns`. -/
structure Tallies (first : Frame) (before : Nat) (s : Session) (ns : List Nat) : Prop where
  cues : s.cues = []
  inRun : s.preview.transport.InRun
  moved : s.preview.playhead.toNat = first.toNat + ns.sum
  counted : countFrames s.preview.transport.told = ns.sum + before

namespace Tallies

variable {first : Frame} {before : Nat} {s s' : Session} {ns : List Nat}

lemma attends (h : s.Tallies first before ns) (ha : s.Attends s') :
    s'.Tallies first before ns := by
  have htransport := ha.transport
  refine ⟨ha.cues, ⟨?_, ?_⟩, ?_, ?_⟩
  · rw [htransport]
    exact h.inRun.heard
  · intro hplaying
    rw [htransport] at hplaying ⊢
    show s'.preview.playhead < s.preview.transport.duration
    rw [ha.playhead]
    exact h.inRun.before hplaying
  · rw [ha.playhead]
    exact h.moved
  · rw [htransport]
    exact h.counted

lemma callback (h : s.Tallies first before ns) (id : RequestId) (timestamp : Float) :
    ∃ n, (s.preview.transport.callback id timestamp).2 = .ok n ∧
      (s.callback id timestamp).1.Tallies first before (ns ++ [n]) := by
  obtain ⟨n, hn, hrun, hmoved, hcounted⟩ := h.inRun.callback id timestamp
  have hcalled : (s.called id timestamp).Tallies first before (ns ++ [n]) := by
    refine ⟨h.cues, hrun, ?_, ?_⟩
    · rw [List.sum_append, List.sum_singleton, ← Nat.add_assoc, ← h.moved]
      exact hmoved
    · rw [List.sum_append, List.sum_singleton, Nat.add_right_comm, ← h.counted]
      exact hcounted
  rw [callback_of_advanced hn]
  exact ⟨n, hn, hcalled.attends (attends_refresh h.cues)⟩

lemma take (h : s.Tallies first before ns) : (Use.apply s .take).Tallies first before ns :=
  h.attends ⟨h.cues, rfl, rfl⟩

lemma play (h : s.Tallies first before ns) (hidle : s.preview.transport.state ≠ .playing) :
    (s.modify fun p => p.modifyTransport Transport.play).Tallies
      (if s.preview.transport.Restarts then 0 else s.preview.playhead)
      (countFrames s.preview.transport.told + if s.preview.transport.Restarts then 1 else 0) [] := by
  obtain ⟨hrun, hplayhead, hcount⟩ := h.inRun.play hidle
  refine ⟨h.cues, hrun, congrArg UInt64.toNat hplayhead, ?_⟩
  rw [List.sum_nil, Nat.zero_add]
  exact hcount

end Tallies

end Session

/-- Playback begins with the first frame again, for it is asked to begin at the end. -/
def PlayOptions.Restarts (options : PlayOptions) (duration : Frame) : Prop :=
  duration ≠ 0 ∧ duration ≤ options.start

instance {options : PlayOptions} {duration : Frame} : Decidable (options.Restarts duration) :=
  inferInstanceAs (Decidable (_ ∧ _))

/-- The frame that playback begins on. -/
def PlayOptions.first (options : PlayOptions) (duration : Frame) : Frame :=
  if duration ≤ options.start then 0 else options.start

/-- The frame to which a seek goes before that. -/
def PlayOptions.target (options : PlayOptions) (duration : Frame) : Frame :=
  if duration ≤ options.start then duration else options.start

lemma PlayOptions.le_target_iff {options : PlayOptions} {duration : Frame} :
    duration ≤ options.target duration ↔ duration ≤ options.start := by
  rw [target]
  split
  · next hend => exact iff_of_true (UInt64.le_refl _) hend
  · rfl

lemma PlayOptions.first_eq (options : PlayOptions) (duration : Frame) :
    options.first duration =
      if options.Restarts duration then 0 else options.target duration := by
  by_cases hend : duration ≤ options.start
  · rw [first, target, if_pos hend, if_pos hend]
    by_cases hzero : duration = 0
    · rw [if_neg fun h => h.1 hzero, hzero]
    · rw [if_pos ⟨hzero, hend⟩]
  · rw [first, target, if_neg hend, if_neg hend, if_neg fun h => hend h.2]

namespace Player

variable {first : Frame} {before started deadline : Nat} {timestamp : Float}
  {x y : Player × List Nat}

lemma session_serve {p q : Player} {id : RequestId} (ok : serve timestamp p id = .ok q) :
    q.session = (p.session.callback id timestamp).1 := by
  obtain ⟨stats, -, hq⟩ := bind_eq_ok.mp ok
  cases hq
  rfl

lemma tallies_serve {id : RequestId} (h : x.1.session.Tallies first before x.2)
    (ok : serveTallied timestamp x id = .ok y) : y.1.session.Tallies first before y.2 := by
  obtain ⟨n, hn, ok⟩ := bind_eq_ok.mp ok
  obtain ⟨p, hp, hy⟩ := bind_eq_ok.mp ok
  cases hy
  obtain ⟨m, hm, htallies⟩ := h.callback id timestamp
  rw [hm] at hn
  cases hn
  rw [session_serve hp]
  exact htallies

lemma tallies_serveAll {ids : List RequestId} (h : x.1.session.Tallies first before x.2)
    (ok : ids.foldlM (serveTallied timestamp) x = .ok y) :
    y.1.session.Tallies first before y.2 := by
  induction ids generalizing x with
  | nil => cases ok; exact h
  | cons id ids ih =>
    rw [List.foldlM_cons] at ok
    obtain ⟨z, hz, ok⟩ := bind_eq_ok.mp ok
    exact ih (tallies_serve h hz) ok

lemma tallies_serveTick {t t' : Ticker} (h : x.1.session.Tallies first before x.2)
    (ok : serveTickTallied started t x = .ok (t', y)) : y.1.session.Tallies first before y.2 := by
  obtain ⟨z, hz, hy⟩ := bind_eq_ok.mp ok
  cases hy
  exact tallies_serveAll (h.attends (Session.attends_sleepUntil h.cues t.wakeMs)).take hz

/-- **The run.** -/
lemma tallies_loop {fuel : Nat} {t : Ticker} (h : x.1.session.Tallies first before x.2)
    (ok : loopTallied started deadline fuel t x = .ok y) :
    y.1.session.Tallies first before y.2 := by
  induction fuel generalizing t x with
  | zero => cases ok; exact h
  | succ fuel ih =>
    rw [loopTallied] at ok
    split at ok
    · obtain ⟨⟨t', z⟩, hz, ok⟩ := bind_eq_ok.mp ok
      exact ih (tallies_serveTick h hz) ok
    · cases ok
      exact h

lemma tallies_play {options : PlayOptions} {duration : Frame} {s : Session}
    (h : s.Tallies (options.target duration) 0 []) (hidle : s.preview.transport.state ≠ .playing)
    (hduration : s.preview.transport.duration = duration) :
    (s.modify fun p => p.modifyTransport Transport.play).Tallies (options.first duration)
      (if options.Restarts duration then 1 else 0) [] := by
  have hplayhead : s.preview.transport.playhead = options.target duration :=
    UInt64.toNat.inj h.moved
  have hrestarts : s.preview.transport.Restarts ↔ options.Restarts duration := by
    rw [Transport.Restarts, PlayOptions.Restarts, hduration, hplayhead, PlayOptions.le_target_iff]
  have hfirst : (if options.Restarts duration then 0 else s.preview.playhead) =
      options.first duration := by
    rw [options.first_eq duration, ← hplayhead]
    rfl
  have hplay := h.play hidle
  have hcounted : countFrames s.preview.transport.told = 0 := h.counted
  simpa only [hrestarts, hfirst, hcounted, Nat.zero_add] using hplay

lemma tallies_refresh_play {options : PlayOptions} {duration : Frame} {s : Session}
    (h : s.Tallies (options.target duration) 0 []) (hidle : s.preview.transport.state ≠ .playing)
    (hduration : s.preview.transport.duration = duration) :
    (s.refresh.1.modify fun p => p.modifyTransport Transport.play).Tallies (options.first duration)
      (if options.Restarts duration then 1 else 0) [] := by
  have hattends := Session.attends_refresh h.cues
  have htransport := hattends.transport
  generalize s.refresh.1 = s' at hattends htransport ⊢
  refine tallies_play (h.attends hattends) ?_ ?_
  · rw [htransport]
    exact hidle
  · rw [htransport]
    exact hduration

/-- Where a start has got to when it is about to evaluate the first frame. -/
def sought (options : PlayOptions) (t : Transport Float) (p : Preview) : Session where
  preview := { p with transport := (t.seek options.start).subscribe listener }

lemma session_begin {options : PlayOptions} {p : Preview} {q : Player}
    (ok : begin options p = .ok q) : ∃ t, p.transport.setRate options.rate = .ok t ∧
      q.session = (sought options t p).refresh.1.modify fun p =>
        p.modifyTransport Transport.play := by
  unfold begin at ok
  split at ok
  · cases ok
  · next t ht =>
    refine ⟨t, ht, ?_⟩
    change (PlaySummary.add {} (sought options t p).refresh.2 >>= fun stats =>
      .ok { session := (sought options t p).refresh.1.modify fun p =>
        p.modifyTransport Transport.play, stats }) = .ok q at ok
    generalize (sought options t p).refresh = refreshed at ok ⊢
    obtain ⟨stats, -, hq⟩ := bind_eq_ok.mp ok
    cases hq
    rfl

/-- **The start.** -/
lemma tallies_begin {options : PlayOptions} {config : PreviewConfig} {backend : Backend}
    {snapshot : Snapshot} {assets : AssetTable} {p : Player}
    (ok : begin options (.new config backend snapshot assets) = .ok p) :
    p.session.Tallies (options.first snapshot.duration)
      (if options.Restarts snapshot.duration then 1 else 0) [] := by
  obtain ⟨t, ht, hsession⟩ := session_begin ok
  obtain ⟨rate, rfl⟩ := Transport.exists_of_setRate ht
  rw [hsession]
  refine tallies_refresh_play ⟨rfl, ⟨?_, nofun⟩, rfl, rfl⟩ nofun rfl
  funext e
  cases e <;> rfl

/-- **The summary of a run.** Its last frame is the one that playback has begun on and as many
frames further as the callbacks have gone on by. It counts just these frames, and the first one as
well if playback has started anew for having been asked to start at the end or after it. -/
theorem play_summary (d : Document) (config : PreviewConfig) (options : PlayOptions) :
    (playTallied d config options).map (·.1) = play d config options ∧
      ∀ p ns, playTallied d config options = .ok (p, ns) →
        p.stats.finalFrame.toNat = (options.first d.snapshot.duration).toNat + ns.sum ∧
        p.stats.framesAdvanced =
          ns.sum + if options.Restarts d.snapshot.duration then 1 else 0 := by
  refine ⟨map_playTallied d config options, fun p ns ok => ?_⟩
  obtain ⟨p₀, hbegin, ok⟩ := bind_eq_ok.mp ok
  obtain ⟨deadline, -, ok⟩ := bind_eq_ok.mp ok
  obtain ⟨ticker, -, ok⟩ := bind_eq_ok.mp ok
  obtain ⟨⟨q, ms⟩, hloop, hp⟩ := bind_eq_ok.mp ok
  cases hp
  have htallies := tallies_loop (tallies_begin hbegin) hloop
  exact ⟨htallies.moved, htallies.counted⟩

/-- A timeline of two frames is asked to play from its end. -/
def twoFrames : Document := { duration := some 2 }

def fromTheEnd : PlayOptions := { start := 2, seconds := 0.2, refreshHz := 25.0 }

lemma exists_fromTheEnd : ∃ p ns, playTallied twoFrames {} fromTheEnd = .ok (p, ns) ∧
    ns = [0, 0, 0, 1, 1, 0] ∧ p.stats.framesAdvanced = 3 := by
  obtain ⟨⟨p, ns⟩, hplay, hcounts⟩ := exists_of_any (x := playTallied twoFrames {} fromTheEnd)
    (p := fun x => decide (x.2 = [0, 0, 0, 1, 1, 0] ∧ x.1.stats.framesAdvanced = 3))
    (by decide +kernel)
  exact ⟨p, ns, hplay, of_decide_eq_true hcounts⟩

/-- Two frames are played, beginning with the first, and three are counted. -/
theorem play_summary_fromTheEnd : ∃ p, playTallied twoFrames {} fromTheEnd =
    .ok (p, [0, 0, 0, 1, 1, 0]) ∧ p.stats.finalFrame.toNat = 2 ∧ p.stats.framesAdvanced = 3 := by
  obtain ⟨p, ns, hplay, rfl, -⟩ := exists_fromTheEnd
  exact ⟨p, hplay, (play_summary twoFrames {} fromTheEnd).2 p _ hplay⟩

/-- The summary does not always count what the callbacks have gone on by. -/
theorem play_summary_miscounts :
    ¬∀ (d : Document) (config : PreviewConfig) (options : PlayOptions) (p : Player) (ns : List Nat),
      playTallied d config options = .ok (p, ns) →
        p.stats.framesAdvanced = ns.sum ∧
        p.stats.framesAdvanced =
          p.stats.finalFrame.toNat - (options.first d.snapshot.duration).toNat := by
  intro h
  obtain ⟨p, ns, hplay, rfl, hthree⟩ := exists_fromTheEnd
  have htwo : p.stats.framesAdvanced = 2 := (h _ _ _ p _ hplay).1
  rw [hthree] at htwo
  exact absurd htwo (by decide)

end Player

end Montage
