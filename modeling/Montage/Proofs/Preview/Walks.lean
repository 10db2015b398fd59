import Montage.Proofs.Pool.Answers
import Montage.Proofs.Preview.Drawing
import Montage.Proofs.Preview.Journeys

/-!
A pass from clip to clip, when nobody else makes a request.

For each clip that needs an element the pass makes one request, and goes on with what comes of it.
While it waits, loads in advance have their turns, time passes and the playhead moves. So the way of
a pass is a walk over its clips, with an answer of the pool for each of those that need an element.
-/

namespace Montage

lemma Element.follow_ok {e : Element} (h : e.source ≠ none) (now : Nat) (playing : Bool)
    (rate : Float) : (e.follow now playing rate).2 = .ok () := by
  obtain ⟨e', he', hsource⟩ : ∃ e', (if rateSlack < Scalar.abs (e.rate - rate) then
      e.setRate now rate else e) = e' ∧ e'.source ≠ none := by
    refine ⟨_, rfl, ?_⟩
    split <;> exact h
  unfold follow
  dsimp only
  rw [he']
  split
  · next hpaused =>
    obtain ⟨url, hurl⟩ := Option.ne_none_iff_exists'.mp hsource
    rw [isPaused, Option.isNone_iff_eq_none] at hpaused
    simp only [play, hurl, hpaused]
  · rfl
  · rfl

namespace Pass

/-- A pass as it is carried on, with nothing but loads in advance beside it while it waits. -/
inductive Proceeds (r : Rig) (s : Step) : Rig → Step → Prop
  | refl : Proceeds r s r s
  | beside {r' : Rig} {p : Pass} {item : PassItem} {asset : MediaAsset} {rest : List PassItem}
      {e : Pool.Event} (h : Proceeds r s r' (.waits p item asset rest)) (he : e.Beside r'.pool) :
      Proceeds r s (r'.modifyPool fun pool => e.apply pool) (.waits p item asset rest)
  | move {r' : Rig} {p : Pass} {item : PassItem} {asset : MediaAsset} {rest : List PassItem}
      (h : Proceeds r s r' (.waits p item asset rest)) (frame : Frame) :
      Proceeds r s (r'.movePlayhead frame) (.waits p item asset rest)
  | resume {r' : Rig} {s' : Step} (h : Proceeds r s r' s') :
      Proceeds r s (Pass.resume r' s').1 (Pass.resume r' s').2

lemma Proceeds.wake {r r' : Rig} {s s' : Step} (h : Proceeds r s r' s') (hs : s'.isWaiting = true)
    (a : Agenda) : Proceeds r s
      (Pass.resume (r'.modifyPool fun pool => Pool.Event.apply pool (.schedule a)) s').1
      (Pass.resume (r'.modifyPool fun pool => Pool.Event.apply pool (.schedule a)) s').2 := by
  cases s' with
  | waits => exact (h.beside (e := .schedule a) trivial).resume
  | ended => cases hs

/-- What the pass asks of the pool for a clip. -/
def request (p : Pass) (asset : MediaAsset) (target : Float) : Request :=
  ⟨asset, target, p.playback.isPlaying, p.pinned⟩

/-- A clip needs an element, for its asset and at a time. -/
structure Wants (p : Pass) (item : PassItem) (asset : MediaAsset) (target : Float) : Prop where
  found : p.assets.find? item.active.clip.asset = some asset
  needed : asset.needsElement = true
  time : p.snapshot.rate.secondsOf item.active.sourceFrame = .ok target

/-- A pass that began with `p₀` on the way over its clips, with the answers of the pool so far. -/
inductive Walk (r₀ : Rig) (p₀ : Pass) (all : List PassItem) :
    List Answer → Rig → Pass → List PassItem → Prop
  | start : Walk r₀ p₀ all [] r₀ p₀ all
  | unknown {as : List Answer} {r : Rig} {p : Pass} {item : PassItem} {rest : List PassItem}
      (walk : Walk r₀ p₀ all as r p (item :: rest))
      (none : p.assets.find? item.active.clip.asset = none) :
      Walk r₀ p₀ all as r (p.fail item (.unknownAsset item.active.clip.asset)) rest
  | plain {as : List Answer} {r : Rig} {p : Pass} {item : PassItem} {rest : List PassItem}
      {asset : MediaAsset} (walk : Walk r₀ p₀ all as r p (item :: rest))
      (found : p.assets.find? item.active.clip.asset = some asset)
      (needless : asset.needsElement = false) :
      Walk r₀ p₀ all as r ((p.use asset).addLayer item asset none) rest
  | serve {as : List Answer} {r r' : Rig} {p : Pass} {item : PassItem} {rest : List PassItem}
      {asset : MediaAsset} {target : Float} {h : Handle}
      (walk : Walk r₀ p₀ all as r p (item :: rest)) (wants : p.Wants item asset target)
      (answers : r.pool.Answers (p.request asset target) (.ok h) r'.pool) (drifts : r.Drifts r')
      (still : r'.host.playhead = p.frame) :
      Walk r₀ p₀ all (as ++ [⟨item.zIndex, .ok h⟩]) ((p.use asset).serve r' item asset h).1
        ((p.use asset).serve r' item asset h).2 rest
  | refuse {as : List Answer} {r r' : Rig} {p : Pass} {item : PassItem} {rest : List PassItem}
      {asset : MediaAsset} {target : Float} {e : MediaError}
      (walk : Walk r₀ p₀ all as r p (item :: rest)) (wants : p.Wants item asset target)
      (answers : r.pool.Answers (p.request asset target) (.error e) r'.pool)
      (other : e ≠ .disposed) (drifts : r.Drifts r') (still : r'.host.playhead = p.frame) :
      Walk r₀ p₀ all (as ++ [⟨item.zIndex, .error e⟩]) r' ((p.use asset).fail item e) rest

variable {r₀ r r' : Rig} {p₀ p : Pass} {all items rest : List PassItem} {as : List Answer}
  {item : PassItem} {asset : MediaAsset}

/-! ### From the functions to the walk -/

/-- A pass that waits for the element of a clip is on its way. -/
def AsksFor (r₀ : Rig) (p₀ : Pass) (all : List PassItem) (r : Rig) (q : Pass) (item : PassItem)
    (asset : MediaAsset) (rest : List PassItem) : Prop :=
  ∃ as r₁ p target, Walk r₀ p₀ all as r₁ p (item :: rest) ∧ p.Wants item asset target ∧
    q = p.use asset ∧ (r₁.pool.take .main (p.request asset target)).Carries r.pool ∧ r₁.Drifts r

/-- A pass has been given up on its way, perhaps after one more answer of the pool. -/
def GivenUp (r₀ : Rig) (p₀ : Pass) (all : List PassItem) (r : Rig) : Prop :=
  ∃ as r₁ p items, Walk r₀ p₀ all as r₁ p items ∧ (r.pool = r₁.pool ∨
    ∃ asset target result, r₁.pool.Answers (p.request asset target) result r.pool)

/-- A pass is on its way, or has come to the end of it. -/
def Step.Walked (r₀ : Rig) (p₀ : Pass) (all : List PassItem) (r : Rig) : Step → Prop
  | waits p item asset rest => AsksFor r₀ p₀ all r p item asset rest
  | ended (.ok (.applied report)) => ∃ as r₁ p, Walk r₀ p₀ all as r₁ p [] ∧
      r = (p.finish r₁).1 ∧ report = (p.finish r₁).2
  | ended _ => GivenUp r₀ p₀ all r

/-- After a wait, given that the clips that are left go well. -/
lemma AsksFor.resume (h : AsksFor r₀ p₀ all r p item asset rest)
    (hrun : ∀ {as r p}, Walk r₀ p₀ all as r p rest →
      (p.run r rest).2.Walked r₀ p₀ all (p.run r rest).1) :
    (Pass.resume r (.waits p item asset rest)).2.Walked r₀ p₀ all
      (Pass.resume r (.waits p item asset rest)).1 := by
  obtain ⟨as, r₁, p₁, target, hwalk, hwants, rfl, hcarries, hdrifts⟩ := h
  dsimp only [Pass.resume]
  split
  · next hnone =>
    exact ⟨as, r₁, p₁, target, hwalk, hwants, rfl, hcarries.turn hnone, hdrifts.modifyPool _⟩
  · next result hresult =>
    let r' := (r.modifyPool fun pool => pool.resume TaskId.main).modifyPool fun pool =>
      pool.forget TaskId.main
    have hanswers : r₁.pool.Answers (p₁.request asset target) result r'.pool :=
      ⟨r.pool, hcarries, hresult, rfl⟩
    have hdrifts' : r₁.Drifts r' := (hdrifts.modifyPool _).modifyPool _
    have hover : GivenUp r₀ p₀ all r' := ⟨as, r₁, p₁, _, hwalk, .inr ⟨asset, target, _, hanswers⟩⟩
    by_cases hstill : r'.host.playhead = (p₁.use asset).frame
    · rcases result with e | hd
      · by_cases he : e = .disposed
        · subst he
          rw [receive_disposed hstill]
          exact hover
        · rw [receive_error hstill he]
          exact hrun (.refuse hwalk hwants hanswers he hdrifts' hstill)
      · rw [receive_ok hstill]
        exact hrun (.serve hwalk hwants hanswers hdrifts' hstill)
    · rw [receive_moved hstill]
      exact hover

/-- **A pass walks from clip to clip.** -/
lemma Walk.run (h : Walk r₀ p₀ all as r p items) :
    (p.run r items).2.Walked r₀ p₀ all (p.run r items).1 := by
  induction items generalizing as r p with
  | nil => exact ⟨as, r, p, h, rfl, rfl⟩
  | cons item rest ih =>
    unfold Pass.run
    split
    · next hnone => exact ih (.unknown h hnone)
    · next asset hfound =>
      dsimp only
      split
      · next hneeded =>
        split
        · exact ⟨as, r, p, _, h, .inl rfl⟩
        · next target htime =>
          have hasks : AsksFor r₀ p₀ all (r.modifyPool fun pool => pool.take TaskId.main
              (p.request asset target)) (p.use asset) item asset rest :=
            ⟨as, r, p, target, h, ⟨hfound, hneeded, htime⟩, rfl, .refl, ⟨rfl, rfl⟩⟩
          exact hasks.resume ih
      · next hneedless => exact ih (.plain h hfound (by simpa using hneedless))

lemma Step.Walked.resume {s : Step} (h : s.Walked r₀ p₀ all r) :
    (Pass.resume r s).2.Walked r₀ p₀ all (Pass.resume r s).1 := by
  cases s with
  | waits p item asset rest => exact AsksFor.resume h fun hwalk => hwalk.run
  | ended result => exact h

lemma walked_evaluate (r : Rig) (snapshot : Snapshot) (assets : AssetTable)
    (playback : PlaybackState) :
    (r.evaluate snapshot assets playback).2.Walked r (start r snapshot assets playback).1
      (start r snapshot assets playback).2 (r.evaluate snapshot assets playback).1 := by
  unfold Rig.evaluate
  split
  · exact ⟨[], r, _, _, .start, .inl rfl⟩
  · split
    · exact ⟨[], r, _, _, .start, .inl rfl⟩
    · exact Walk.start.run

/-- **A pass is on its walk** whatever goes on beside it. -/
lemma Proceeds.walked {s s' : Step} (h : Proceeds r s r' s')
    (hs : s.Walked r₀ p₀ all r) : s'.Walked r₀ p₀ all r' := by
  induction h with
  | refl => exact hs
  | beside _ he ih =>
    obtain ⟨as, r₁, p, target, hwalk, hwants, hq, hcarries, hdrifts⟩ := ih
    exact ⟨as, r₁, p, target, hwalk, hwants, hq, hcarries.beside he, hdrifts.modifyPool _⟩
  | move _ frame ih =>
    obtain ⟨as, r₁, p, target, hwalk, hwants, hq, hcarries, hdrifts⟩ := ih
    exact ⟨as, r₁, p, target, hwalk, hwants, hq, hcarries, hdrifts.movePlayhead frame⟩
  | resume _ ih => exact ih.resume

lemma Wants.trail {target : Float} {result : Except MediaError Handle} (rest : List PassItem)
    (wants : p.Wants item asset target)
    (answers : r.pool.Answers (p.request asset target) result r'.pool) (drifts : r.Drifts r') :
    ∃ r₁, Trail r (.clips p (item :: rest)) [] r₁
        (.step (.waits (p.use asset) item asset rest)) ∧
      r₁.pool.result? .main = some result ∧
        r' = r₁.modifyPool fun pool => pool.forget TaskId.main := by
  obtain ⟨c, -, hresult, hpool⟩ := answers
  let r₁ := r'.modifyPool fun _ => c.resume .main
  have hask : Turn r (.clips p (item :: rest)) [] _
      (.step (.waits (p.use asset) item asset rest)) :=
    .ask rest wants.found wants.needed wants.time
  have hdrifts : (r.modifyPool fun pool => pool.take TaskId.main (p.request asset target)).Drifts
      r₁ := ⟨congrArg (fun c' => c'.modifyPool fun _ => c.resume .main) drifts.compositor,
    drifts.requests⟩
  refine ⟨r₁, (Trail.single hask).snoc (.drift hdrifts), hresult, ?_⟩
  have hsame : r' = r'.modifyPool fun _ => r'.pool := rfl
  rw [hsame, hpool]
  rfl

/-- **A walk leaves a trail.** -/
lemma Walk.trail (h : Walk r₀ p₀ all as r p items) :
    Trail r₀ (.clips p₀ all) as r (.clips p items) := by
  induction h with
  | start => exact .refl
  | @unknown as r p item rest _ hnone ih => simpa using ih.snoc (.unknown rest hnone)
  | @plain as r p item rest asset _ found needless ih =>
    have hplain := ih.snoc (.plain rest found needless)
    rwa [List.append_nil] at hplain
  | @serve as r r' p item rest asset target hd _ wants answers drifts still ih =>
    obtain ⟨r₁, htrail, hresult, rfl⟩ := wants.trail rest answers drifts
    have hserve := (ih.trans htrail).snoc (.serve hresult still)
    rwa [List.append_nil] at hserve
  | @refuse as r r' p item rest asset target e _ wants answers other drifts still ih =>
    obtain ⟨r₁, htrail, hresult, rfl⟩ := wants.trail rest answers drifts
    have hrefuse := (ih.trans htrail).snoc (.refuse hresult other still)
    rwa [List.append_nil] at hrefuse

/-- An evaluation that is applied has walked over all its clips. -/
structure Walks (r : Rig) (p₀ : Pass) (all : List PassItem) (answers : List Answer) (r₁ : Rig)
    (p : Pass) (r' : Rig) (report : Report) : Prop where
  walk : Walk r p₀ all answers r₁ p []
  rig : r' = (p.finish r₁).1
  report : report = (p.finish r₁).2

variable {snapshot : Snapshot} {assets : AssetTable} {playback : PlaybackState} {report : Report}

lemma Proceeds.walks (h : Proceeds (r.evaluate snapshot assets playback).1
      (r.evaluate snapshot assets playback).2 r' (.ended (.ok (.applied report)))) :
    ∃ answers r₁ p, Walks r (start r snapshot assets playback).1
      (start r snapshot assets playback).2 answers r₁ p r' report := by
  obtain ⟨as, r₁, p, hwalk, hr, hreport⟩ := h.walked (walked_evaluate r snapshot assets playback)
  exact ⟨as, r₁, p, hwalk, hr, hreport⟩

lemma Walks.trail {answers : List Answer} {r₁ : Rig} (h : Walks r p₀ all answers r₁ p r' report) :
    Trail r (.clips p₀ all) answers r' (.step (.ended (.ok (.applied report)))) := by
  have hfinish := h.walk.trail.snoc (.finish p)
  rw [List.append_nil, ← h.rig, ← h.report] at hfinish
  exact hfinish

/-! ### What a clip that has got its element brings about -/

lemma pool_serve (p : Pass) (r : Rig) (item : PassItem) (asset : MediaAsset) (h : Handle) :
    (p.serve r item asset h).1.pool =
      r.pool.modifyElement h.slot (p.attune item asset r.pool.now) :=
  r.pool.modifyElement_const h.slot (p.attune item asset r.pool.now)

@[simp] lemma report_addLayer (p : Pass) (item : PassItem) (asset : MediaAsset)
    (slot : Option Nat) : (p.addLayer item asset slot).report = p.report := by
  unfold addLayer
  split <;> rfl

@[simp] lemma pinned_addLayer (p : Pass) (item : PassItem) (asset : MediaAsset)
    (slot : Option Nat) : (p.addLayer item asset slot).pinned = p.pinned := by
  unfold addLayer
  split <;> rfl

@[simp] lemma pinned_serve (p : Pass) (r : Rig) (item : PassItem) (asset : MediaAsset)
    (h : Handle) : (p.serve r item asset h).2.pinned = h.slot :: p.pinned := by
  unfold serve
  dsimp only
  rw [pinned_addLayer]
  split
  · split <;> rfl
  · rfl

lemma sync_ok {e : Element} (h : e.source ≠ none) (p : Pass) (item : PassItem) (asset : MediaAsset)
    (now : Nat) : (p.sync item asset e now).2 = .ok () := by
  obtain ⟨e', he', hsource⟩ : ∃ e', (if asset.carriesAudio then
      e.setGain p.playback.volume (p.playback.isMutedOn item.active.track) else e) = e' ∧
        e'.source ≠ none := by
    refine ⟨_, rfl, ?_⟩
    split
    · rw [(e.tame_setGain _ _).source]
      exact h
    · exact h
  unfold sync
  dsimp only
  rw [he']
  exact Element.follow_ok hsource _ _ _

lemma failures_serve {r : Rig} {h : Handle} (hs : (r.pool.element h.slot).source ≠ none) (p : Pass)
    (item : PassItem) (asset : MediaAsset) :
    (p.serve r item asset h).2.report.failures = p.report.failures := by
  unfold serve
  dsimp only
  rw [report_addLayer, show (sync _ item asset _ _).2 = .ok () from sync_ok hs _ item asset _]
  dsimp only
  split <;> rfl

/-! ### What stays on the way -/

lemma Walk.kin (h : Walk r₀ p₀ all as r p items) : p₀.Kin p := by
  induction h with
  | start => exact .refl _
  | unknown _ _ ih => exact ih.trans (kin_fail _ _ _)
  | @plain _ _ p item _ asset _ _ _ ih =>
    exact (ih.trans (p.kin_use asset)).trans (kin_addLayer _ item asset none)
  | @serve _ _ r' p item _ asset _ h _ _ _ _ _ ih =>
    exact (ih.trans (p.kin_use asset)).trans (kin_serve _ r' item asset h)
  | @refuse _ _ _ p _ _ asset _ _ _ _ _ _ _ _ ih =>
    exact (ih.trans (p.kin_use asset)).trans (kin_fail _ _ _)

lemma Walk.suffix (h : Walk r₀ p₀ all as r p items) : items <:+ all := by
  induction h with
  | start => exact List.suffix_rfl
  | unknown _ _ ih => exact (List.suffix_cons _ _).trans ih
  | plain _ _ _ ih => exact (List.suffix_cons _ _).trans ih
  | serve _ _ _ _ _ ih => exact (List.suffix_cons _ _).trans ih
  | refuse _ _ _ _ _ _ ih => exact (List.suffix_cons _ _).trans ih

lemma Walk.alone (h : Walk r₀ p₀ all as r p items) (hp : r₀.pool.Alone)
    (idle : r₀.pool.work? .main = none) : r.pool.Alone ∧ r.pool.work? .main = none := by
  induction h with
  | start => exact ⟨hp, idle⟩
  | unknown _ _ ih => exact ih
  | plain _ _ _ ih => exact ih
  | serve _ _ answers _ _ ih =>
    obtain ⟨⟨hsince, hidle⟩, -⟩ := answers.since ih.1 ih.2
    rw [pool_serve]
    exact ⟨hsince.alone.modifyElement _ _, hidle⟩
  | refuse _ _ answers _ _ _ ih =>
    obtain ⟨⟨hsince, hidle⟩, -⟩ := answers.since ih.1 ih.2
    exact ⟨hsince.alone, hidle⟩

end Pass

/-! ### As loads and seeks end -/

/-- A pass and the rig after so many loads and seeks. -/
def Rig.wakes (x : Rig × Pass.Step) : Nat → Rig × Pass.Step
  | 0 => x
  | n + 1 => Pass.resume ((Rig.wakes x n).1.modifyPool fun pool =>
      Pool.Event.apply pool (.schedule { now := 20 * (n + 1) })) (Rig.wakes x n).2

lemma Rig.proceeds_wakes {x : Rig × Pass.Step} {n : Nat}
    (h : ∀ k < n, (Rig.wakes x k).2.isWaiting = true) :
    Pass.Proceeds x.1 x.2 (Rig.wakes x n).1 (Rig.wakes x n).2 := by
  induction n with
  | zero => exact .refl
  | succ n ih =>
    exact (ih fun k hk => h k (Nat.lt_succ_of_lt hk)).wake (h n (Nat.lt_succ_self n)) _

/-! ### On the clock -/

namespace Scene

variable {c : Compositor} {all : List ClipId} {s s' : Scene} {r₀ : Rig} {s₀ : Pass.Step}

/-- A pass is carried on in the scene. -/
structure CarriesOn (r₀ : Rig) (s₀ : Pass.Step) (c : Compositor) (all : List ClipId) (s : Scene) :
    Prop where
  evaluates : s.Evaluates c all
  proceeds : ∃ step, s.step = some step ∧ Pass.Proceeds r₀ s₀ s.rig step

lemma CarriesOn.goes (hc : c.pool.Quiet) (h : s.CarriesOn r₀ s₀ c all)
    (hstop : s.result?.isSome = false) (hs : machine.Goes s s') : s'.CarriesOn r₀ s₀ c all := by
  refine ⟨h.evaluates.goes hc hstop hs, ?_⟩
  obtain ⟨step, hstep, hproceeds⟩ := h.proceeds
  obtain ⟨step', hstep', hfine⟩ := h.evaluates.step
  obtain rfl : step = step' := Option.some.inj (hstep.symm.trans hstep')
  cases step with
  | ended result => simp [result?, hstep] at hstop
  | waits p item asset rest =>
    -- The work of other tasks is that of the background, as long as the compositor is kept.
    let P : Rig → Prop := fun r => r.Kept c ∧ Pass.Proceeds r₀ s₀ r (.waits p item asset rest)
    have hagenda : ∀ {r : Rig} {a : Agenda}, a.started = r.pool.agenda.started → P r →
        P (r.setAgenda a) := by
      intro r a ha hr
      rw [Rig.setAgenda_eq (Nat.le_of_eq ha.symm)]
      exact ⟨hr.1.background (e := .schedule a) trivial, hr.2.beside (e := .schedule a) trivial⟩
    obtain ⟨a, ha, hcases⟩ := goes_cases hs
    have hstart : P (s.rig.setAgenda a) := hagenda ha ⟨hfine.kept, hproceeds⟩
    rcases hcases with rfl | ⟨step, hsome, rfl⟩ | ⟨t, ht, rfl⟩
    · exact ⟨_, hstep, hstart.2⟩
    · obtain rfl : step = .waits p item asset rest := Option.some.inj (hsome.symm.trans hstep)
      exact ⟨_, rfl, hstart.2.resume⟩
    · have hbeside := hstart.1.background_resume hc ht
      obtain ⟨hP, -⟩ := CueTask.resume_of (P := P) (fun frame h => ⟨h.1.host _, h.2.move frame⟩)
        hagenda t h.evaluates.cues ⟨hstart.1.background hbeside, hstart.2.beside hbeside⟩
      unfold resume
      rw [if_neg ht]
      exact ⟨_, hstep, hP.2⟩

/-- **An evaluation on the clock** is carried on with loads in advance beside it. -/
lemma proceeds_evaluate (snapshot : Snapshot) (assets : AssetTable) (playback : PlaybackState)
    (hc : s.rig.pool.Calm) (hcues : CueTask.AllMove s.cues) :
    ∃ step, (s.evaluate snapshot assets playback).step = some step ∧
      Pass.Proceeds (s.rig.evaluate snapshot assets playback).1
        (s.rig.evaluate snapshot assets playback).2
        (s.evaluate snapshot assets playback).rig step := by
  have hfine : (s.rig.evaluate snapshot assets playback).2.Fine _ _ _ :=
    Pass.fine_evaluate hc.ordered hc.idle
  have hstart : CarriesOn (s.rig.evaluate snapshot assets playback).1
      (s.rig.evaluate snapshot assets playback).2 s.rig.compositor
      (snapshot.activeAt s.rig.host.playhead).ids { s with
        rig := (s.rig.evaluate snapshot assets playback).1
        step := some (s.rig.evaluate snapshot assets playback).2 } :=
    ⟨⟨⟨_, rfl, hfine⟩, hcues⟩, _, rfl, .refl⟩
  exact (machine.runUntil_of (fun h hstop hs => h.goes hc.quiet hstop hs) hstart).proceeds

end Scene

end Montage
