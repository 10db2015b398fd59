import Montage.Proofs.Preview.Journeys

/-!
What the layers of a preview play.

Slots are bound to assets by id. An asset that is given another url is loaded from there when a slot
is bound to it the next time; a slot that stays bound to it goes on playing what it was loaded from.
-/

namespace Montage

namespace Pool

/-- The url that the element of a slot plays, or is to play when a load in advance under way is
over. -/
inductive Plays (p : Pool) (i : Nat) (url : String) : Prop
  | loaded (prepared : (p.slot i).prepared = true) (source : (p.element i).source = some url)
  | warms {t : TaskId} {w : Warmup} {stage : Warmup.Stage}
      (work : p.work? t = some (.warmup w stage)) (slot : w.slot = i)
      (generation : w.generation = (p.slot i).generation) (url : w.url = url)

/-- A slot that is bound anew plays what the table has, and any other what it did. -/
def Renews (p : Pool) (assets : AssetTable) (i g : Nat) (a : AssetId) (url : String) : Prop :=
  ((p.slot i).generation < g → ∃ m, assets.find? a = some m ∧ m.url = url) ∧
    (g = (p.slot i).generation → (p.slot i).asset = some a ∧ p.Plays i url)

variable {p q : Pool} {assets : AssetTable}

lemma Calm.obeys_renews (hp : p.Calm)
    (hslots : ∀ i, (p.slot i).prepared = true → ∃ a url, (p.slot i).asset = some a ∧
      (p.element i).source = some url) : p.Obeys (p.Renews assets) where
  slots i hprep := by
    obtain ⟨a, url, ha, hs⟩ := hslots i hprep
    exact ⟨a, url, ha, hs, fun hlt => absurd hlt (Nat.lt_irrefl _), fun _ => ⟨ha, .loaded hprep hs⟩⟩
  loads t w i g hw hstake := by
    obtain ⟨hle, hsame⟩ := hp.ordered.good.owned.loading ((stake_of_work? hw).trans hstake)
    refine ⟨fun hlt => absurd hle (Nat.not_le.mpr hlt), fun hg => ⟨(hsame hg.symm).2, ?_⟩⟩
    cases w with
    | request r stage =>
      obtain rfl := hp.quiet t r stage hw
      simp [hp.idle] at hw
    | warmup w stage =>
      have hwarm : w.slot = i ∧ w.generation = g := by
        cases stage with
        | unstarted | loading =>
          have heq : Stake.loading w.slot w.generation w.asset = .loading i g w.asset := hstake
          cases heq
          exact ⟨rfl, rfl⟩
        | done => cases hstake
      exact .warms hw hwarm.1 (hwarm.2.trans hg) rfl
  asks t r stage hw := by
    obtain rfl := hp.quiet t r stage hw
    simp [hp.idle] at hw

lemma Onward.renews (h : p.Onward assets q) (hp : p.Calm) (hv : p.account.Vacant)
    (hslots : ∀ i, (p.slot i).prepared = true → ∃ a url, (p.slot i).asset = some a ∧
      (p.element i).source = some url) : q.Obeys (p.Renews assets) := by
  obtain ⟨es, rfl, hes⟩ := h
  refine (hp.obeys_renews hslots).run hp.ordered hv es (fun e he => (hes e he).gentle)
    fun e he a url ho i g hg => ⟨fun _ => (hes e he).offers a url ho, fun heq => ?_⟩
  exact absurd heq (Nat.ne_of_gt hg)

end Pool

namespace Session

variable {s : Session} {log : List Refreshed}

/-- What an evaluation that is applied stages. -/
lemma Reached.staged {report : Report} (h : Reached s log) (returns : s.Returns)
    (applied : s.refresh.2 = .ok (some (.applied report))) :
    ∃ layers, s.refresh.1.preview.compositor.HasStaged report.frame layers ∧
      layers.length = report.layers ∧ ∀ l ∈ layers, l.IsOwn s.refresh.1.preview.pool := by
  rcases returns.refresh_cases with ⟨-, hrefresh⟩ | ⟨-, result, hresult, hrefresh⟩
  · rw [hrefresh] at applied
    cases applied
  rw [hrefresh] at applied ⊢
  have hcalm : s.scene.rig.pool.Calm := h.sound.settled.calm
  have hscene : s.evaluated.Evaluates s.preview.compositor
      (s.preview.snapshot.activeAt s.preview.playhead).ids :=
    Scene.evaluates_evaluate hcalm h.sound.cues
  generalize s.evaluated = scene at hresult hscene ⊢
  obtain ⟨⟨step, hstep, hfine⟩, -⟩ := hscene
  obtain rfl : result = .ok (.applied report) := by
    rcases result with e | evaluation
    · cases applied
    · cases applied
      rfl
  obtain rfl : step = .ended (.ok (.applied report)) := by
    simp only [Scene.result?, hstep] at hresult
    split at hresult
    · next heq =>
      cases heq
      cases hresult
      rfl
    · cases hresult
  obtain ⟨r, layers, -, hrig, hlength, -, hown⟩ := hfine
  have hstaged := r.hasStaged_stage report.frame layers
  have hpool := r.pool_stage report.frame layers
  rw [← hrig] at hstaged hpool
  refine ⟨layers, hstaged, hlength, fun l hl => ?_⟩
  have hshown : ((s.ofScene scene).modify fun p =>
      p.remember s.preview.inputs (.ok (.applied report))).preview.pool = scene.rig.pool := rfl
  rw [hshown, hpool]
  exact hown l hl

lemma Reached.source_of_prepared (h : Reached s log) {i : Nat}
    (hprep : (s.preview.pool.slot i).prepared = true) :
    ∃ a url, (s.preview.pool.slot i).asset = some a ∧
      (s.preview.pool.element i).source = some url := by
  obtain ⟨config, backend, es, hpool, gentle⟩ := h.exists_run
  rw [hpool] at hprep ⊢
  obtain ⟨a, url, ha, hs, -⟩ := (Pool.Ordered.new config backend).source_of_prepared
    (Pool.vacant_new config backend) (Pool.not_prepared_new config backend) es gentle hprep
  exact ⟨a, url, ha, hs⟩

lemma Reached.vacant (h : Reached s log) : s.preview.pool.account.Vacant := by
  obtain ⟨config, backend, es, hpool, -⟩ := h.exists_run
  rw [hpool]
  exact (Pool.Ordered.new config backend).vacant (Pool.vacant_new config backend) es

end Session

/-- **What handles and layers play.**

- A request that is over with a handle gives an element that was loaded for its asset, in a step
  after which its slot has not been bound anew. The element was loaded from a url that some request
  or some table of a load in advance has had for the asset; so it plays the url of the request if
  all of them have agreed.
- After the assets of a preview are set, each layer that an evaluation stages plays what the new
  assets have, if its slot was bound since; if not, it plays what it did, or what was being loaded
  in advance. -/
theorem sources_of_assets :
    (∀ config backend es t r stage h, (∀ e ∈ es, e.Gentle) →
      let p := (Pool.new config backend).run es
      let q := p.resume t
      p.work? t = some (.request r stage) → p.result? t = none → q.result? t = some (.ok h) →
        ∃ url, (q.element h.slot).source = some url ∧
          (Pool.new config backend).Once (es ++ [.resume t])
            (Pool.Event.Loads h.slot (q.slot h.slot).generation r.asset.id url) ∧
          ((∀ e ∈ es, ∀ url', e.Offers r.asset.id url' → url' = r.asset.url) →
            (q.element h.slot).source = some r.asset.url)) ∧
    ∀ s log assets s' report, Session.Reached s log →
      (s.modify fun p => p.setAssets assets).Leads s' → s'.Returns →
        s'.refresh.2 = .ok (some (.applied report)) →
          let p := s.preview.pool
          let q := s'.refresh.1.preview.pool
          ∃ layers, s'.refresh.1.preview.compositor.HasStaged report.frame layers ∧
            layers.length = report.layers ∧
            ∀ l ∈ layers, ∀ i, l.slot = some i → q.Shows i l.asset ∧
              ∃ url, (q.element i).source = some url ∧
                ((p.slot i).generation ≠ (q.slot i).generation →
                  ∃ m, assets.find? l.asset = some m ∧ m.url = url) ∧
                ((p.slot i).generation = (q.slot i).generation →
                  (p.slot i).asset = some l.asset ∧ p.Plays i url) := by
  constructor
  · intro config backend es t r stage h gentle p q hw hresult hok
    obtain ⟨url, hsource, honce, e, he, hoffers⟩ :=
      Pool.source_of_handle config backend gentle hw hresult hok
    exact ⟨url, hsource, honce, fun hagree => hagree e he url hoffers ▸ hsource⟩
  · intro s log assets s' report h hleads returns happlied p q
    have hset : Session.Reached (s.modify fun p => p.setAssets assets) log := h.assets assets
    obtain ⟨log', h'⟩ := hset.leads hleads
    obtain ⟨layers, hstaged, hlength, hown⟩ := h'.staged returns happlied
    have honward : p.Onward assets q := (hset.onward (hleads.snoc .refresh returns)).1
    have hobeys := honward.renews h.sound.settled.calm h.vacant fun i => h.source_of_prepared
    refine ⟨layers, hstaged, hlength, fun l hl i hi => ⟨hown l hl i hi, ?_⟩⟩
    obtain ⟨hprep, hasset⟩ := hown l hl i hi
    obtain ⟨a, url, ha, hsource, hnew, hold⟩ := hobeys.slots i hprep
    obtain rfl : l.asset = a := Option.some.inj (hasset.symm.trans ha)
    have hle : (p.slot i).generation ≤ (q.slot i).generation := by
      obtain ⟨es, hq, -⟩ := honward
      rw [hq]
      exact h.sound.settled.calm.ordered.generation_le es i
    exact ⟨url, hsource, fun hne => hnew (Nat.lt_of_le_of_ne hle hne), fun heq => hold heq.symm⟩

/-- The shots, the first of them at another url. -/
def AssetTable.movedShots : AssetTable :=
  ⟨[.video ⟨"first"⟩ "moved.mp4" 20.0, .video ⟨"second"⟩ "second.mp4" 20.0]⟩

/-- The first shot has moved. -/
def Session.move (s : Session) : Session := s.modify fun p => p.setAssets .movedShots

/-- The report of an evaluation that is applied. -/
def Evaluation.report? : Evaluation → Option Report
  | applied report => some report
  | superseded .. => none

/-- A request for a shot, and a preview whose first shot moves before it is shown. -/
theorem sources_of_assets_shots :
    (((Pool.single 0).run [.request (Pool.shot 0.0), .resume 1]).element 0).source =
      some "shot.mp4" ∧
    ∃ layers, Session.shots.move.refresh.1.preview.compositor.HasStaged 0 layers ∧
      layers.length = 1 ∧ ∀ l ∈ layers, l.slot = some 0 →
        (Session.shots.move.refresh.1.preview.pool.element 0).source = some "moved.mp4" := by
  obtain ⟨hhandles, hlayers⟩ := sources_of_assets
  constructor
  · have hgentle : ∀ e ∈ [Pool.Event.request (Pool.shot 0.0)], e.Gentle := fun e he => by
      rw [List.mem_singleton.mp he]
      trivial
    obtain ⟨url, -, -, hsource⟩ := hhandles { poolSize := 1 } { loadMs := 0 }
      [.request (Pool.shot 0.0)] 1 (Pool.shot 0.0) .unstarted ⟨⟨"shot"⟩, 0, false⟩ hgentle rfl rfl
      (by decide +kernel)
    refine hsource fun e he url' ho => ?_
    rw [List.mem_singleton.mp he] at ho
    exact ho.2.symm
  · have hreached : Session.Reached Session.shots [] :=
      .new _ _ _ (Snapshot.distinctClips_ofClips _ _ _)
    have hreturns : Session.shots.move.Returns := .inr (by decide +kernel)
    obtain ⟨report, happlied⟩ :=
      Session.applied_of_isApplied (s := Session.shots.move) (by decide +kernel)
    have hreport : (Session.shots.move.refresh.2.toOption.join.bind Evaluation.report?).map
        (fun report => (report.frame, report.layers)) = some (0, 1) := by
      decide +kernel
    rw [happlied] at hreport
    obtain ⟨hframe, hone⟩ := Prod.mk.inj (Option.some.inj hreport)
    obtain ⟨layers, hstaged, hlength, hown⟩ :=
      hlayers Session.shots [] .movedShots _ report hreached .refl hreturns happlied
    rw [hframe] at hstaged
    refine ⟨layers, hstaged, hlength.trans hone, fun l hl hslot => ?_⟩
    obtain ⟨⟨-, hasset⟩, url, hsource, hnew, -⟩ := hown l hl 0 hslot
    have hfirst : (Session.shots.move.refresh.1.preview.pool.slot 0).asset = some ⟨"first"⟩ := by
      decide +kernel
    have hbound : (Session.shots.preview.pool.slot 0).generation ≠
        (Session.shots.move.refresh.1.preview.pool.slot 0).generation := by
      decide +kernel
    obtain ⟨m, hm, rfl⟩ := hnew hbound
    have hmoved : (AssetTable.movedShots.find? ⟨"first"⟩).map (·.url) = some "moved.mp4" := by
      decide +kernel
    rw [← Option.some.inj (hasset.symm.trans hfirst), hm] at hmoved
    exact hsource.trans hmoved

/-- **An element that was loaded from elsewhere**: a request is served by the element that was
loaded for an earlier one, from another url; and a shot that moves after it was shown is still
played from where it was when it is shown again. -/
theorem source_of_other_url :
    (let moved : Request := { Pool.shot 0.0 with asset := .video ⟨"shot"⟩ "moved.mp4" 10.0 }
     let p := (Pool.single 0).run [.request (Pool.shot 0.0), .resume 1, .request moved]
     p.work? 2 = some (.request moved .unstarted) ∧
       (p.resume 2).result? 2 = some (.ok ⟨moved.asset.id, 0, false⟩) ∧
       ((p.resume 2).element 0).source = some "shot.mp4") ∧
    Session.Reached Session.shotsShown [Session.shots.refresh.2] ∧
    ∃ report layers, Session.shotsShown.move.refresh.2 = .ok (some (.applied report)) ∧
      Session.shotsShown.move.refresh.1.preview.compositor.HasStaged report.frame layers ∧
      (∃ l ∈ layers, l.slot = some 0 ∧
        (AssetTable.movedShots.find? l.asset).map (·.url) = some "moved.mp4") ∧
      (Session.shotsShown.move.refresh.1.preview.pool.element 0).source = some "first.mp4" := by
  refine ⟨⟨by with_unfolding_all rfl, by decide +kernel, by decide +kernel⟩,
    Session.reached_shotsShown, ?_⟩
  obtain ⟨report, happlied⟩ :=
    Session.applied_of_isApplied (s := Session.shotsShown.move) (by decide +kernel)
  have hreached : Session.Reached Session.shotsShown.move _ := Session.reached_shotsShown.assets _
  obtain ⟨layers, hstaged, -, -⟩ :=
    hreached.staged (.inr (by decide +kernel)) happlied
  refine ⟨report, layers, happlied, hstaged, ?_, by decide +kernel⟩
  have htree : Session.shotsShown.move.refresh.1.preview.compositor.config.batchWrites = true ∧
      Session.shotsShown.move.refresh.1.preview.compositor.tree.staged.any (fun s =>
        s.2.any fun l => l.slot = some 0 &&
          (AssetTable.movedShots.find? l.asset).map (·.url) == some "moved.mp4") = true := by
    decide +kernel
  obtain ⟨hbatch, hany⟩ := htree
  rw [Compositor.HasStaged, hbatch, if_pos rfl] at hstaged
  rw [hstaged, Option.any_some] at hany
  obtain ⟨l, hl, hslot⟩ := List.any_eq_true.mp hany
  simp only [Bool.and_eq_true, decide_eq_true_eq, beq_iff_eq] at hslot
  exact ⟨l, hl, hslot.1, hslot.2⟩

end Montage
