import Montage.Preview.Session
import Montage.Proofs.Preview.Sync

/-!
When a preview that is refreshed without an evaluation is in sync.

A preview remembers the inputs of the evaluation that was applied last, and skips an evaluation for
the same inputs. As long as no evaluation has been superseded since, all layers are still on
elements of their own. An evaluation that is superseded may have bound slots anew by then, and what
is remembered stays: when the playhead comes back, the next refresh skips the evaluation although
layers are on the elements of others.
-/

namespace Montage

/-- The playhead has stayed where it was until the layers were staged. -/
def Evaluation.isApplied : Evaluation → Bool
  | applied _ => true
  | superseded .. => false

namespace Session

/-- The scene as far as an evaluation of the frame under the playhead takes it. -/
def evaluated (s : Session) : Scene :=
  s.scene.evaluate s.preview.snapshot s.preview.assets s.preview.inputs.playback

/-- The refresh comes to an end. -/
def Returns (s : Session) : Prop :=
  s.preview.isCurrent = true ∨ s.evaluated.result?.isSome = true

/-- The last outcome that tells of an evaluation. -/
def lastEvaluation (log : List Refreshed) : Option Refreshed :=
  log.reverse.find? fun
    | .ok none => false
    | _ => true

/-- The sessions that a preview goes through, with the outcomes of its refreshes. The transport may
be used in any way at any time, and cues move the playhead while a refresh waits; nobody else has
a hand in the pool. -/
inductive Reached : Session → List Refreshed → Prop
  | new (config : PreviewConfig) (backend : Backend) {snapshot : Snapshot} (assets : AssetTable)
      (distinct : snapshot.DistinctClips) :
      Reached { preview := .new config backend snapshot assets } []
  | transport {s : Session} {log : List Refreshed} (h : Reached s log)
      (f : Transport Float → Transport Float) :
      Reached (s.modify fun p => p.modifyTransport f) log
  | timeline {s : Session} {log : List Refreshed} (h : Reached s log) {snapshot : Snapshot}
      {p : Preview} (distinct : snapshot.DistinctClips)
      (ok : s.preview.setTimeline snapshot = .ok p) : Reached { s with preview := p } log
  | assets {s : Session} {log : List Refreshed} (h : Reached s log) (assets : AssetTable) :
      Reached (s.modify fun p => p.setAssets assets) log
  | viewport {s : Session} {log : List Refreshed} (h : Reached s log) (v : Viewport) :
      Reached (s.modify fun p => p.setViewport v) log
  /-- The playhead is to be moved after so many milliseconds. -/
  | give {s : Session} {log : List Refreshed} (h : Reached s log) (moves : List (Nat × Frame)) :
      Reached (s.give (moves.map fun m => { delay := m.1, playhead := some m.2 })) log
  | finishCues {s : Session} {log : List Refreshed} (h : Reached s log) : Reached s.finishCues log
  | settle {s : Session} {log : List Refreshed} (h : Reached s log) : Reached s.settle log
  | sleepUntil {s : Session} {log : List Refreshed} (h : Reached s log) (due : Nat) :
      Reached (s.sleepUntil due) log
  /-- The compositor takes a callback of the display. -/
  | callback {s : Session} {log : List Refreshed} (h : Reached s log) (id : RequestId) :
      Reached (s.modify fun p => { p with compositor := (p.compositor.callback id).2 }) log
  | refresh {s : Session} {log : List Refreshed} (h : Reached s log) (returns : s.Returns) :
      Reached s.refresh.1 (log ++ [s.refresh.2])
  | dispose {s : Session} {log : List Refreshed} (h : Reached s log) :
      Reached (s.modify Preview.dispose) log

/-- What a callback of the display does before the preview is refreshed. -/
def called (s : Session) (id : RequestId) (timestamp : Float) : Session :=
  (s.modify fun p => p.modifyTransport fun t => (t.callback id timestamp).1).modify fun p =>
    { p with compositor := (p.compositor.callback id).2 }

lemma Reached.called {s : Session} {log : List Refreshed} (h : Reached s log) (id : RequestId)
    (timestamp : Float) : Reached (s.called id timestamp) log :=
  (h.transport _).callback id

lemma callback_of_advanced {s : Session} {id : RequestId} {timestamp : Float} {n : Nat}
    (h : (s.preview.transport.callback id timestamp).2 = .ok n) :
    s.callback id timestamp = (s.called id timestamp).refresh := by
  simp only [callback, h]
  rfl

/-- What holds of every session, with the outcomes of its refreshes. -/
structure Sound (s : Session) (log : List Refreshed) : Prop where
  settled : s.preview.compositor.Settled
  distinct : s.preview.snapshot.DistinctClips
  cues : CueTask.AllMove s.cues
  sync : ∀ report, lastEvaluation log = some (.ok (some (.applied report))) →
    s.preview.compositor.InSync

variable {s : Session} {log : List Refreshed} {c : Compositor}

lemma Sound.congr {s' : Session} (h : s.Sound log)
    (hp : s'.preview.compositor.pool = s.preview.compositor.pool)
    (ht : s'.preview.compositor.tree = s.preview.compositor.tree)
    (hl : s'.preview.compositor.target.layers = s.preview.compositor.target.layers)
    (hd : s'.preview.snapshot.DistinctClips) (hc : s'.cues = s.cues) : s'.Sound log where
  settled := h.settled.congr hp ht hl
  distinct := hd
  cues := hc ▸ h.cues
  sync report hr := (h.sync report hr).congr hp ht hl

lemma Sound.ofScene (h : s.Sound log) (scene : Scene)
    (hs : scene.Rests s.preview.compositor) : (s.ofScene scene).Sound log where
  settled := h.settled.of_kept hs.rig.kept hs.rig.idle
  distinct := h.distinct
  cues := hs.cues
  sync report hr := (h.sync report hr).of_rests hs.rig

lemma Sound.rests (h : s.Sound log) : s.scene.Rests s.preview.compositor := by
  have hrig : s.preview.rig.Rests s.preview.rig.compositor := .refl h.settled.calm
  exact ⟨rfl, hrig, h.cues⟩

lemma Sound.flush (h : s.Sound log) (id : RequestId) :
    (s.modify fun p => { p with compositor := (p.compositor.callback id).2 }).Sound log := by
  have hcleared : Compositor.Settled { s.preview.compositor with pendingFlush := none } :=
    h.settled.congr rfl rfl rfl
  refine ⟨?_, h.distinct, h.cues, fun report hr => ?_⟩
  · dsimp only [modify, Compositor.callback]
    split
    · exact hcleared.flush
    · exact h.settled
  · have hsync := h.sync report hr
    dsimp only [modify, Compositor.callback]
    split
    · exact Compositor.InSync.flush (hsync.congr rfl rfl rfl) hcleared
    · exact hsync

lemma Sound.give (h : s.Sound log) (moves : List (Nat × Frame)) :
    (s.give (moves.map fun m => { delay := m.1, playhead := some m.2 })).Sound log := by
  have hmoves : ∀ q ∈ moves.map fun m => ({ delay := m.1, playhead := some m.2 } : Cue),
      q.OnlyMoves := by
    intro q hq
    obtain ⟨m, -, rfl⟩ := List.mem_map.mp hq
    exact ⟨rfl, rfl⟩
  obtain ⟨hrests, hcues⟩ := CueTask.startAll_rests h.rests.rig hmoves
  refine h.ofScene { rig := _, cues := _ } ⟨rfl, hrests, fun t ht => ?_⟩
  rcases List.mem_append.mp ht with ht | ht
  · exact h.cues t ht
  · exact hcues t ht

lemma Sound.dispose (h : s.Sound log) : (s.modify Preview.dispose).Sound log := by
  let r : Rig := (s.preview.modifyTransport Transport.dispose).rig
  have hr : r.compositor.Settled := h.settled
  exact ⟨hr.dispose, h.distinct, h.cues, fun report hlast => (h.sync report hlast).dispose hr⟩

lemma lastEvaluation_concat (log : List Refreshed) (o : Refreshed) :
    lastEvaluation (log ++ [o]) =
      match o with
      | .ok none => lastEvaluation log
      | _ => some o := by
  unfold lastEvaluation
  rw [List.reverse_append, List.reverse_singleton, List.singleton_append]
  rcases o with e | (_ | evaluation) <;> rfl

lemma refresh_of_current (h : s.preview.isCurrent = true) : s.refresh = (s, .ok none) := by
  rw [Session.refresh, if_pos h]

lemma refresh_of_not_current {result : Except PreviewError Evaluation}
    (h : s.preview.isCurrent = false) (hresult : s.evaluated.result? = some result) :
    s.refresh = ((s.ofScene s.evaluated).modify fun p => p.remember s.preview.inputs result,
      result.map some) := by
  unfold evaluated at hresult ⊢
  simp only [Session.refresh, h, hresult]
  rfl

lemma refresh_of_endless (h : s.preview.isCurrent = false) (hresult : s.evaluated.result? = none) :
    s.refresh = (s.ofScene s.evaluated, .ok none) := by
  unfold evaluated at hresult ⊢
  simp only [Session.refresh, h, hresult]
  rfl

lemma Returns.refresh_cases (h : s.Returns) :
    s.preview.isCurrent = true ∧ s.refresh = (s, .ok none) ∨
      s.preview.isCurrent = false ∧ ∃ result, s.evaluated.result? = some result ∧
        s.refresh = ((s.ofScene s.evaluated).modify fun p => p.remember s.preview.inputs result,
          result.map some) := by
  cases hcurrent : s.preview.isCurrent with
  | true => exact .inl ⟨rfl, refresh_of_current hcurrent⟩
  | false =>
    have hover : s.evaluated.result?.isSome = true := h.resolve_left (by simp [hcurrent])
    obtain ⟨result, hresult⟩ := Option.isSome_iff_exists.mp hover
    exact .inr ⟨rfl, result, hresult, refresh_of_not_current hcurrent hresult⟩

lemma Sound.refresh (h : s.Sound log) (hr : s.Returns) :
    s.refresh.1.Sound (log ++ [s.refresh.2]) := by
  rcases hr.refresh_cases with ⟨-, hrefresh⟩ | ⟨-, result, hresult, hrefresh⟩
  · rw [hrefresh]
    refine ⟨h.settled, h.distinct, h.cues, fun report hlast => h.sync report ?_⟩
    rw [lastEvaluation_concat] at hlast
    exact hlast
  · rw [hrefresh]
    have hcalm : s.scene.rig.pool.Calm := h.settled.calm
    have hscene : s.evaluated.Evaluates s.preview.compositor
        (s.preview.snapshot.activeAt s.preview.playhead).ids :=
      Scene.evaluates_evaluate hcalm h.cues
    generalize s.evaluated = scene at hresult hscene ⊢
    obtain ⟨⟨step, hstep, hfine⟩, hcues⟩ := hscene
    obtain rfl : step = .ended result := by
      simp only [Scene.result?, hstep] at hresult
      split at hresult
      · next heq =>
        cases heq
        cases hresult
        rfl
      · simp at hresult
    rcases result with e | (report | ⟨frame, current⟩)
    · refine ⟨h.settled.of_kept hfine.1 hfine.2, h.distinct, hcues, fun report hlast => ?_⟩
      rw [lastEvaluation_concat] at hlast
      simp [Except.map] at hlast
    · obtain ⟨r, layers, ⟨hkept, hidle⟩, hrig, -, hsublist, hown⟩ := hfine
      have hnodup := (h.distinct.ids s.preview.playhead).sublist hsublist
      obtain ⟨hsettled, hsync⟩ :=
        Compositor.settled_stage report.frame (h.settled.of_kept hkept hidle) hnodup hown
      rw [← hrig] at hsettled hsync
      exact ⟨hsettled, h.distinct, hcues, fun _ _ => hsync⟩
    · refine ⟨h.settled.of_kept hfine.1 hfine.2, h.distinct, hcues, fun report hlast => ?_⟩
      rw [lastEvaluation_concat] at hlast
      simp [Except.map] at hlast

lemma Reached.sound (h : Reached s log) : s.Sound log := by
  induction h with
  | @new config backend snapshot assets distinct =>
    refine ⟨⟨⟨.new _ _, rfl, fun t r stage hw => ?_⟩, fun id => .none, ?_⟩, distinct, ?_, ?_⟩
    · cases hw
    · intro frame layers hstaged
      cases hstaged
    · exact fun t ht => absurd ht List.not_mem_nil
    · intro report hr
      cases hr
  | transport _ f ih => exact ih.congr rfl rfl rfl ih.distinct rfl
  | timeline _ distinct ok ih =>
    unfold Preview.setTimeline at ok
    split at ok
    · cases ok
      exact ih.congr rfl rfl rfl distinct rfl
    · simp at ok
  | assets _ _ ih => exact ih.congr rfl rfl rfl ih.distinct rfl
  | viewport _ _ ih => exact ih.congr rfl rfl rfl ih.distinct rfl
  | give _ moves ih => exact ih.give moves
  | finishCues _ ih =>
    have hrun : Scene.Rests _ (Scene.machine.runUntil (fun s => s.cues.all CueTask.isDone) _) :=
      Machine.runUntil_of (fun h _ hs => h.goes ih.settled.calm.quiet hs) ih.rests
    exact ih.ofScene _ ⟨hrun.step, hrun.rig, fun t ht => absurd ht List.not_mem_nil⟩
  | settle _ ih =>
    exact ih.ofScene _
      (Scene.machine.settle_of (fun h hs => h.goes ih.settled.calm.quiet hs) ih.rests)
  | sleepUntil _ due ih =>
    exact ih.ofScene _
      (Scene.machine.sleepUntil_of (fun h hs => h.goes ih.settled.calm.quiet hs) ih.rests)
  | callback _ id ih => exact ih.flush id
  | refresh _ hr ih => exact ih.refresh hr
  | dispose _ ih => exact ih.dispose

/-- What is remembered is of an evaluation that was applied. -/
lemma Reached.applied_mem (h : Reached s log) (ha : s.preview.applied.isSome = true) :
    ∃ report, .ok (some (.applied report)) ∈ log := by
  induction h with
  | new => simp [Preview.new] at ha
  | timeline _ _ ok _ =>
    unfold Preview.setTimeline at ok
    split at ok
    · cases ok
      simp at ha
    · simp at ok
  | assets => simp [modify, Preview.setAssets] at ha
  | viewport => simp [modify, Preview.setViewport] at ha
  | dispose => simp [modify, Preview.dispose] at ha
  | @refresh s log _ hr ih =>
    have hbefore (o : Refreshed) : s.preview.applied.isSome = true →
        ∃ report, .ok (some (.applied report)) ∈ log ++ [o] := by
      intro hs
      obtain ⟨report, hmem⟩ := ih hs
      exact ⟨report, List.mem_append_left _ hmem⟩
    rcases hr.refresh_cases with ⟨-, hrefresh⟩ | ⟨-, result, -, hrefresh⟩
    · rw [hrefresh] at ha ⊢
      exact hbefore _ ha
    · rw [hrefresh] at ha ⊢
      rcases result with e | (report | ⟨frame, current⟩)
      · exact hbefore _ ha
      · exact ⟨report, List.mem_append_right _ (List.mem_singleton.mpr rfl)⟩
      · exact hbefore _ ha
  | transport _ _ ih => exact ih ha
  | give _ _ ih => exact ih ha
  | finishCues _ ih => exact ih ha
  | settle _ ih => exact ih ha
  | sleepUntil _ _ ih => exact ih ha
  | callback _ _ ih => exact ih ha

lemma lastEvaluation_ne_none (log : List Refreshed) : lastEvaluation log ≠ some (.ok none) := by
  intro h
  have hfound := List.find?_some h
  simp at hfound

/-- Once an evaluation has been applied, the last one is one of three. -/
lemma lastEvaluation_of_mem {report : Report} (h : .ok (some (.applied report)) ∈ log) :
    (∃ report, lastEvaluation log = some (.ok (some (.applied report)))) ∨
      (∃ frame current, lastEvaluation log = some (.ok (some (.superseded frame current)))) ∨
        ∃ e, lastEvaluation log = some (.error e) := by
  have hsome : (lastEvaluation log).isSome = true := by
    rw [lastEvaluation, List.find?_isSome]
    exact ⟨_, List.mem_reverse.mpr h, rfl⟩
  obtain ⟨o, ho⟩ := Option.isSome_iff_exists.mp hsome
  rw [ho]
  rcases o with e | (_ | (report | ⟨frame, current⟩))
  · exact .inr (.inr ⟨e, rfl⟩)
  · exact absurd ho (lastEvaluation_ne_none log)
  · exact .inl ⟨report, rfl⟩
  · exact .inr (.inl ⟨frame, current, rfl⟩)

lemma Returns.refresh_eq_none_iff (h : s.Returns) :
    s.refresh.2 = .ok none ↔ s.preview.isCurrent = true := by
  rcases h.refresh_cases with ⟨hcurrent, hrefresh⟩ | ⟨hcurrent, result, -, hrefresh⟩
  · simp [hrefresh, hcurrent]
  · have hne : (result.map some : Refreshed) ≠ .ok none := by
      cases result <;> simp [Except.map]
    simp [hrefresh, hcurrent, hne]

lemma Returns.applied_of_superseded {frame current : Frame} (h : s.Returns)
    (hs : s.refresh.2 = .ok (some (.superseded frame current))) :
    s.refresh.1.preview.applied = s.preview.applied := by
  rcases h.refresh_cases with ⟨-, hrefresh⟩ | ⟨-, result, -, hrefresh⟩
  · rw [hrefresh]
  · rw [hrefresh] at hs ⊢
    rcases result with e | (report | ⟨frame, current⟩)
    · rfl
    · simp [Except.map] at hs
    · rfl

/-- **When a refresh that skips the evaluation is right.** A refresh skips the evaluation for the
inputs that are remembered. Then what is staged, or is on the output, is on elements of its own, and
so is the output after what is staged is written, unless the last evaluation was superseded or
failed. After an evaluation that was superseded a refresh still skips the next one if the playhead
is back where it was. -/
theorem refresh_skips_in_sync (h : Reached s log) (returns : s.Returns) :
    (s.refresh.2 = .ok none ↔ s.preview.isCurrent = true) ∧
    (s.refresh.2 = .ok none →
      (∀ frame current, lastEvaluation log ≠ some (.ok (some (.superseded frame current)))) →
      (∀ e, lastEvaluation log ≠ some (.error e)) →
      s.refresh.1.preview.compositor.InSync ∧ s.refresh.1.preview.compositor.flush.2.InSync) ∧
    ∀ frame current, s.refresh.2 = .ok (some (.superseded frame current)) →
      ∀ move : Transport Float → Transport Float,
        let moved := s.refresh.1.modify fun p => p.modifyTransport move
        moved.Returns →
          (moved.refresh.2 = .ok none ↔
            (s.preview.applied == some moved.preview.inputs) = true) := by
  refine ⟨returns.refresh_eq_none_iff, fun hnone hnot hok => ?_, fun frame current hs move => ?_⟩
  · have hcurrent := returns.refresh_eq_none_iff.mp hnone
    have happlied : s.preview.applied.isSome = true := by
      unfold Preview.isCurrent at hcurrent
      cases hs : s.preview.applied with
      | none => simp [hs] at hcurrent
      | some inputs => rfl
    obtain ⟨report, hmem⟩ := h.applied_mem happlied
    rw [refresh_of_current hcurrent]
    rcases lastEvaluation_of_mem hmem with ⟨report, hlast⟩ | ⟨frame, current, hlast⟩ | ⟨e, hlast⟩
    · have hsync := h.sound.sync report hlast
      exact ⟨hsync, hsync.flush h.sound.settled⟩
    · exact absurd hlast (hnot frame current)
    · exact absurd hlast (hok e)
  · intro moved hmoved
    have hsame : moved.preview.applied = s.preview.applied := returns.applied_of_superseded hs
    rw [hmoved.refresh_eq_none_iff, Preview.isCurrent, hsame]

/-- A preview of two shots with a single element. -/
def shots : Session :=
  { preview := .new { pool := { poolSize := 1 } } {} .shots .shots }

/-- The first shot is shown. -/
def shotsShown : Session := shots.refresh.1

/-- The playhead moves to the second shot, and it is to move back while the element loads it. -/
def shotsLeft : Session :=
  (shotsShown.modify fun p => p.modifyTransport fun t => t.seek 30).give
    ([(10, 0)].map fun m => { delay := m.1, playhead := some m.2 })

def shotsBack : Session := shotsLeft.refresh.1

lemma reached_shotsShown : Reached shotsShown [shots.refresh.2] := by
  have hdistinct : Snapshot.shots.DistinctClips := Snapshot.distinctClips_ofClips _ _ _
  have hreturns : shots.Returns := .inr (by decide +kernel)
  exact .refresh (.new _ _ _ hdistinct) hreturns

lemma applied_of_isApplied (h : s.refresh.2.toOption.join.any Evaluation.isApplied = true) :
    ∃ report, s.refresh.2 = .ok (some (.applied report)) := by
  rcases hr : s.refresh.2 with e | _ | report | _ <;> rw [hr] at h
  · cases h
  · cases h
  · exact ⟨report, rfl⟩
  · cases h

lemma applied_shots : ∃ report, shots.refresh.2 = .ok (some (.applied report)) :=
  applied_of_isApplied (by decide +kernel)

lemma returns_shotsLeft : shotsLeft.Returns := .inr (by decide +kernel)

lemma reached_shotsLeft : Reached shotsLeft [shots.refresh.2] :=
  (reached_shotsShown.transport _).give _

lemma superseded_shotsLeft :
    ∃ frame current, shotsLeft.refresh.2 = .ok (some (.superseded frame current)) := by
  have hsuperseded : shotsLeft.refresh.2.toOption.join.any (!·.isApplied) = true := by
    decide +kernel
  rcases hr : shotsLeft.refresh.2 with e | _ | _ | ⟨frame, current⟩ <;> rw [hr] at hsuperseded
  · cases hsuperseded
  · cases hsuperseded
  · cases hsuperseded
  · exact ⟨frame, current, rfl⟩

/-- The first shot is not evaluated again right after it is shown, and nor is it when the playhead
has been away. -/
theorem refresh_skips_in_sync_shots :
    (shotsShown.refresh.2 = .ok none ∧ shotsShown.refresh.1.preview.compositor.InSync ∧
      shotsShown.preview.compositor.tree.staged.any
        (fun s => s.2.any fun l => l.slot = some 0) = true) ∧
    (shotsBack.modify fun p => p.modifyTransport id).refresh.2 = .ok none := by
  have hskips : shotsShown.preview.isCurrent = true := by decide +kernel
  have hstaged : shotsShown.preview.compositor.tree.staged.any
      (fun s => s.2.any fun l => l.slot = some 0) = true := by
    decide +kernel
  obtain ⟨report, happlied⟩ := applied_shots
  have hlast : lastEvaluation [shots.refresh.2] = some (.ok (some (.applied report))) := by
    rw [happlied]
    rfl
  obtain ⟨hiff, hsync, -⟩ := refresh_skips_in_sync reached_shotsShown (.inl hskips)
  have hnone := hiff.mpr hskips
  obtain ⟨hin, -⟩ := hsync hnone (by simp [hlast]) (by simp [hlast])
  obtain ⟨frame, current, hs⟩ := superseded_shotsLeft
  have hback : (shotsBack.modify fun p => p.modifyTransport id).Returns := .inl (by decide +kernel)
  have hsame : (shotsLeft.preview.applied ==
      some (shotsBack.modify fun p => p.modifyTransport id).preview.inputs) = true := by
    decide +kernel
  obtain ⟨-, -, hagain⟩ := refresh_skips_in_sync reached_shotsLeft returns_shotsLeft
  exact ⟨⟨hnone, hin, hstaged⟩, (hagain frame current hs id hback).mpr hsame⟩

/-- The playhead is back on the first shot, and a refresh skips the evaluation, although the element
of the layer that is staged plays the second. -/
theorem refresh_skips_out_of_sync : ∃ log frame current,
    Reached shotsBack (log ++ [.ok (some (.superseded frame current))]) ∧ shotsBack.Returns ∧
      shotsBack.refresh.2 = .ok none ∧ ¬ shotsBack.refresh.1.preview.compositor.InSync := by
  obtain ⟨frame, current, hs⟩ := superseded_shotsLeft
  have hreached : Reached shotsBack ([shots.refresh.2] ++ [shotsLeft.refresh.2]) :=
    .refresh reached_shotsLeft returns_shotsLeft
  rw [hs] at hreached
  have hcurrent : shotsBack.preview.isCurrent = true := by decide +kernel
  refine ⟨_, frame, current, hreached, .inl hcurrent, ?_⟩
  rw [refresh_of_current hcurrent]
  refine ⟨rfl, fun hsync => ?_⟩
  have hother : shotsBack.preview.compositor.tree.staged.any (fun s => s.2.any fun l =>
      l.slot = some 0 && (shotsBack.preview.pool.slot 0).asset != some l.asset) = true := by
    decide +kernel
  obtain ⟨⟨f, layers⟩, hstaged, hany⟩ := Option.any_eq_true _ _ |>.mp hother
  obtain ⟨l, hl, hslot⟩ := List.any_eq_true.mp hany
  simp only [Bool.and_eq_true, decide_eq_true_eq, bne_iff_ne] at hslot
  simp only [Compositor.InSync, hstaged] at hsync
  exact hslot.2 (hsync l hl 0 hslot.1).2

end Session

end Montage
