import Montage.Proofs.Pool.Sources
import Montage.Proofs.Preview.Refreshes

/-!
The media pool of a preview on its way.

All that a preview does with its pool are events that offer assets as its table has them, and it
gives no element a source of its own. So what holds of runs of a pool holds of the pools of
previews, as long as their assets stay the same.
-/

namespace Montage

namespace Element

variable {e e' : Element}

lemma tame_setGain (e : Element) (volume : Float32) (muted : Bool) :
    e.Tame (e.setGain volume muted) := by
  obtain ⟨e', he'⟩ : ∃ e', (if volumeSlack < Scalar.abs (e.volume - volume) then e.setVolume volume
      else e) = e' := ⟨_, rfl⟩
  have hvolume : e.Tame e' := by
    rw [← he']
    split <;> exact ⟨rfl, fun _ h => h⟩
  refine hvolume.trans ?_
  unfold setGain
  dsimp only
  rw [he']
  split
  · exact .refl _
  · exact ⟨rfl, fun _ h => h⟩

lemma tame_play {now : Nat} (h : e.play now = .ok e') : e.Tame e' := by
  unfold play at h
  split at h
  · cases h
  · next hs _ =>
    cases h
    exact ⟨rfl, fun hnone => absurd (hs.symm.trans hnone) (Option.some_ne_none _)⟩
  · cases h
    exact .refl _

lemma tame_follow (e : Element) (now : Nat) (playing : Bool) (rate : Float) :
    e.Tame (e.follow now playing rate).1 := by
  obtain ⟨e', he'⟩ : ∃ e', (if rateSlack < Scalar.abs (e.rate - rate) then e.setRate now rate
      else e) = e' := ⟨_, rfl⟩
  have hrate : e.Tame e' := by
    rw [← he']
    split
    · exact ⟨rfl, (Tame.setPosition e now (e.time now)).paused⟩
    · exact .refl _
  refine hrate.trans ?_
  unfold follow
  dsimp only
  rw [he']
  split
  · split
    · next h => exact tame_play h
    · exact .refl _
  · exact .pause _ _
  · exact .refl _

end Element

namespace Pool

/-- The event gives no element another source from outside, and offers assets as the table has
them. -/
structure Event.From (assets : AssetTable) (e : Event) : Prop where
  gentle : e.Gentle
  offers : ∀ a url, e.Offers a url → ∃ m, assets.find? a = some m ∧ m.url = url

/-- The pool has come from another with events that offer assets as the table has them. -/
def Onward (assets : AssetTable) (p q : Pool) : Prop :=
  ∃ es, q = p.run es ∧ ∀ e ∈ es, e.From assets

lemma modifyElement_const (p : Pool) (i : Nat) (f : Element → Element) :
    (p.modifyElement i fun _ => f (p.element i)) = p.modifyElement i f := by
  have hslots : p.slots.modify i (fun s => { s with element := f (p.element i) }) =
      p.slots.modify i fun s => { s with element := f s.element } := by
    refine List.ext_getElem (by simp) fun j hj hj' => ?_
    simp only [List.getElem_modify]
    split
    · next hij =>
      subst hij
      have hlt : i < p.slots.length := by simpa using hj
      simp [element, slot, List.getElem?_eq_getElem hlt]
    · rfl
  simp only [modifyElement, modifySlot, hslots]

namespace Onward

variable {assets : AssetTable} {p q q' : Pool} {e : Event}

lemma refl (p : Pool) : p.Onward assets p := ⟨[], rfl, fun _ he => absurd he List.not_mem_nil⟩

lemma trans (h : p.Onward assets q) (h' : q.Onward assets q') : p.Onward assets q' := by
  obtain ⟨es, rfl, hes⟩ := h
  obtain ⟨es', rfl, hes'⟩ := h'
  exact ⟨es ++ es', (run_append _ _ _).symm,
    fun e he => (List.mem_append.mp he).elim (hes e) (hes' e)⟩

lemma event (h : p.Onward assets q) (he : e.From assets) : p.Onward assets (e.apply q) :=
  h.trans ⟨[e], rfl, fun _ he' => List.mem_singleton.mp he' ▸ he⟩

lemma quiet (h : p.Onward assets q) (gentle : e.Gentle) (hnone : ∀ a url, ¬e.Offers a url) :
    p.Onward assets (e.apply q) :=
  h.event ⟨gentle, fun a url ho => absurd ho (hnone a url)⟩

end Onward

end Pool

variable {assets : AssetTable} {p₀ : Pool} {r : Rig}

lemma Rig.onward_setAgenda {a : Agenda} (ha : r.pool.agenda.started ≤ a.started)
    (h : p₀.Onward assets r.pool) : p₀.Onward assets (r.setAgenda a).pool := by
  rw [Rig.setAgenda_eq ha]
  exact h.quiet (e := .schedule a) trivial fun _ _ ho => ho

namespace Pass

variable {p : Pass} {item : PassItem} {asset : MediaAsset} {rest items : List PassItem}

/-- A pass that waits uses the assets. -/
def Step.Uses (assets : AssetTable) : Step → Prop
  | waits p .. => p.assets = assets
  | ended _ => True

/-- The pool has gone on, and the pass uses the assets. -/
structure Goes (p₀ : Pool) (assets : AssetTable) (out : Rig × Step) : Prop where
  pool : p₀.Onward assets out.1.pool
  uses : out.2.Uses assets

lemma assets_addLayer (p : Pass) (item : PassItem) (asset : MediaAsset) (slot : Option Nat) :
    (p.addLayer item asset slot).assets = p.assets := by
  unfold addLayer
  split <;> rfl

/-- What a pass does to the element that it is given. -/
def attune (p : Pass) (item : PassItem) (asset : MediaAsset) (now : Nat) (e : Element) : Element :=
  (p.sync item asset e now).1

lemma tame_attune (p : Pass) (item : PassItem) (asset : MediaAsset) (now : Nat) (e : Element) :
    e.Tame (p.attune item asset now e) := by
  unfold attune sync
  dsimp only
  split
  · exact (e.tame_setGain _ _).trans (Element.tame_follow _ _ _ _)
  · exact e.tame_follow _ _ _

lemma onward_serve (p : Pass) (item : PassItem) (asset : MediaAsset) (hd : Handle)
    (h : p₀.Onward assets r.pool) :
    p₀.Onward assets (p.serve r item asset hd).1.pool ∧
      (p.serve r item asset hd).1.pool.work = r.pool.work ∧
        (p.serve r item asset hd).2.assets = p.assets := by
  have hpool : (p.serve r item asset hd).1.pool =
      Pool.Event.apply r.pool (.element hd.slot (p.attune item asset r.pool.now)) :=
    r.pool.modifyElement_const hd.slot (p.attune item asset r.pool.now)
  refine ⟨?_, ?_, ?_⟩
  · rw [hpool]
    exact h.quiet (tame_attune p item asset r.pool.now) fun _ _ ho => ho
  · rw [hpool]
    rfl
  · unfold serve
    dsimp only
    rw [assets_addLayer]
    split
    · split <;> rfl
    · rfl

lemma onward_receive (p : Pass) (item : PassItem) (asset : MediaAsset)
    (result : Except MediaError Handle) (h : p₀.Onward assets r.pool) :
    p₀.Onward assets (p.receive r item asset result).1.pool ∧
      (p.receive r item asset result).1.pool.work = r.pool.work ∧
        ∀ p', (p.receive r item asset result).2 = .inl p' → p'.assets = p.assets := by
  unfold receive
  split
  · split
    · next hd =>
      obtain ⟨hpool, hwork, hassets⟩ := onward_serve p item asset hd h
      refine ⟨hpool, hwork, fun p' hp' => ?_⟩
      cases hp'
      exact hassets
    · exact ⟨h, rfl, fun p' hp' => by cases hp'⟩
    · refine ⟨h, rfl, fun p' hp' => ?_⟩
      cases hp'
      rfl
  · exact ⟨h, rfl, fun p' hp' => by cases hp'⟩

lemma onward_finish (h : p₀.Onward assets r.pool) (hp : p.assets = assets) :
    p₀.Onward assets (p.finish r).1.pool := by
  have hpaused := h.quiet (e := .pauseExcept p.activeAssets) trivial fun _ _ ho => ho
  have hloaded := hpaused.event (e := .preload
    (p.snapshot.upcoming p.frame r.compositor.config.preloadHorizon) p.assets)
    ⟨trivial, fun a url ho => hp ▸ ho⟩
  have hpool : (p.finish r).1.pool = _ := Rig.pool_stage _ p.frame p.layers
  rw [hpool]
  exact hloaded

/-- The main task carries on its request, and the pass goes on if it is over. -/
lemma goes_step (h : p₀.Onward assets r.pool) (hp : p.assets = assets)
    (hrun : ∀ {r' p'}, p₀.Onward assets r'.pool → p'.assets = assets →
      r'.pool.work? .main = none → Goes p₀ assets (run r' p' rest)) :
    Goes p₀ assets (resume r (.waits p item asset rest)) := by
  have hresumed : p₀.Onward assets (r.pool.resume TaskId.main) :=
    h.quiet (e := .resume TaskId.main) trivial fun _ _ ho => ho
  dsimp only [resume, Rig.pool_modifyPool]
  split
  · exact ⟨hresumed, hp⟩
  · next result hresult =>
    have hover : (r.pool.resume TaskId.main).isOver TaskId.main = true := by
      simp [Pool.isOver, hresult]
    have hforgot := hresumed.quiet (e := .collect TaskId.main) trivial fun _ _ ho => ho
    rw [Pool.Event.apply, if_pos hover] at hforgot
    obtain ⟨hpool, hwork, hassets⟩ := onward_receive p item asset result
      (r := (r.modifyPool fun pool => pool.resume .main).modifyPool fun pool => pool.forget .main)
      hforgot
    split
    · next r' p' hreceive =>
      rw [hreceive] at hpool hwork hassets
      refine hrun hpool ((hassets p' rfl).trans hp) ?_
      rw [Pool.work?, hwork]
      have hidle := (r.pool.resume TaskId.main).work?_forget .main .main
      rwa [if_pos rfl] at hidle
    · next r' result' hreceive =>
      rw [hreceive] at hpool
      exact ⟨hpool, trivial⟩

/-- **A pass uses its pool** for the assets that it has, up to its next wait or its end. -/
lemma goes_run (h : p₀.Onward assets r.pool) (hp : p.assets = assets)
    (idle : r.pool.work? .main = none) : Goes p₀ assets (run r p items) := by
  induction items generalizing r p with
  | nil => exact ⟨onward_finish h hp, trivial⟩
  | cons item rest ih =>
    unfold run
    split
    · exact ih h hp idle
    · next asset hfind =>
      dsimp only
      split
      · split
        · exact ⟨h, trivial⟩
        · next target _ =>
          have hid := AssetTable.id_of_find? hfind
          have hcall : p₀.Onward assets (r.pool.take TaskId.main
              ⟨asset, target, p.playback.isPlaying, p.pinned⟩) := by
            have hcall := h.event (e := .call ⟨asset, target, p.playback.isPlaying, p.pinned⟩)
              ⟨trivial, fun a url ho => ⟨asset, by rw [← ho.1, hid, ← hp, hfind], ho.2⟩⟩
            simpa only [Pool.Event.apply, idle, Option.isNone_none, if_true] using hcall
          exact goes_step (p := { p with activeAssets := asset.id :: p.activeAssets })
            (r := r.modifyPool fun pool => pool.take TaskId.main
              ⟨asset, target, p.playback.isPlaying, p.pinned⟩) hcall hp ih
      · exact ih h ((assets_addLayer _ item asset none).trans hp) idle

lemma goes_resume {s : Step} (h : p₀.Onward assets r.pool) (hs : s.Uses assets) :
    Goes p₀ assets (resume r s) := by
  cases s with
  | waits p item asset rest => exact goes_step h hs goes_run
  | ended result => exact ⟨h, trivial⟩

lemma goes_evaluate (snapshot : Snapshot) (playback : PlaybackState)
    (h : p₀.Onward assets r.pool) (idle : r.pool.work? .main = none) :
    Goes p₀ assets (r.evaluate snapshot assets playback) := by
  unfold Rig.evaluate
  split
  · exact ⟨h, trivial⟩
  · split
    · exact ⟨h, trivial⟩
    · exact goes_run h rfl idle

end Pass

namespace Scene

variable {s s' : Scene}

/-- The pool has gone on with the assets, and cues only move the playhead. -/
structure Uses (p₀ : Pool) (assets : AssetTable) (s : Scene) : Prop where
  pool : p₀.Onward assets s.rig.pool
  step : ∀ step, s.step = some step → step.Uses assets
  cues : CueTask.AllMove s.cues

lemma Uses.goes (h : s.Uses p₀ assets) (hs : machine.Goes s s') : s'.Uses p₀ assets := by
  obtain ⟨a, ha, hcases⟩ := goes_cases hs
  have hagenda : p₀.Onward assets (s.rig.setAgenda a).pool :=
    Rig.onward_setAgenda (Nat.le_of_eq ha.symm) h.pool
  rcases hcases with rfl | ⟨step, hsome, rfl⟩ | ⟨t, ht, rfl⟩
  · exact ⟨hagenda, h.step, h.cues⟩
  · obtain ⟨hpool, huses⟩ := Pass.goes_resume hagenda (h.step step hsome)
    refine ⟨hpool, fun step' hstep' => ?_, h.cues⟩
    cases hstep'
    exact huses
  · have hresumed := hagenda.quiet (e := .resume t) trivial fun _ _ ho => ho
    obtain ⟨hpool, hmoves⟩ := CueTask.resume_of (P := fun r => p₀.Onward assets r.pool)
      (r := (s.rig.setAgenda a).modifyPool fun pool => pool.resume t) (fun _ h => h)
      (fun ha h => Rig.onward_setAgenda (Nat.le_of_eq ha.symm) h) t h.cues hresumed
    unfold resume
    rw [if_neg ht]
    exact ⟨hpool, h.step, hmoves⟩

lemma uses_evaluate {snapshot : Snapshot} {playback : PlaybackState}
    (h : p₀.Onward assets s.rig.pool) (hcues : CueTask.AllMove s.cues)
    (idle : s.rig.pool.work? .main = none) :
    (s.evaluate snapshot assets playback).Uses p₀ assets := by
  obtain ⟨hpool, huses⟩ := Pass.goes_evaluate snapshot playback h idle
  refine machine.runUntil_of (fun h _ hs => h.goes hs) ⟨hpool, fun step hstep => ?_, hcues⟩
  cases hstep
  exact huses

end Scene

lemma CueTask.onward_startAll (h : p₀.Onward assets r.pool) (cues : List Cue) :
    p₀.Onward assets (startAll r cues).1.pool := by
  induction cues generalizing r with
  | nil => exact h
  | cons q cues ih => exact ih (Rig.onward_setAgenda (Nat.le_succ _) h)

namespace Session

/-- What a preview may be used for while its assets stay the same. -/
inductive Op where
  | transport (f : Transport Float → Transport Float)
  | timeline (snapshot : Snapshot)
  | viewport (v : Viewport)
  /-- The playhead is to be moved after so many milliseconds. -/
  | give (moves : List (Nat × Frame))
  | finishCues
  | settle
  | sleepUntil (due : Nat)
  | callback (id : RequestId)
  | refresh
  | dispose

def Op.apply (s : Session) : Op → Session
  | transport f => s.modify fun p => p.modifyTransport f
  | timeline snapshot =>
    match s.preview.setTimeline snapshot with
    | .ok p => { s with preview := p }
    | .error _ => s
  | viewport v => s.modify fun p => p.setViewport v
  | give moves => s.give (moves.map fun m => { delay := m.1, playhead := some m.2 })
  | finishCues => s.finishCues
  | settle => s.settle
  | sleepUntil due => s.sleepUntil due
  | callback id => s.modify fun p => { p with compositor := (p.compositor.callback id).2 }
  | refresh => s.refresh.1
  | dispose => s.modify Preview.dispose

/-- A timeline has its clips under different ids, and a refresh comes to an end. -/
def Op.Fits (s : Session) : Op → Prop
  | timeline snapshot => snapshot.DistinctClips
  | refresh => s.Returns
  | _ => True

/-- Sessions that a preview goes through while its assets stay the same. -/
inductive Leads (s : Session) : Session → Prop
  | refl : Leads s s
  | snoc {s' : Session} (h : Leads s s') (o : Op) (fits : o.Fits s') : Leads s (o.apply s')

variable {s s' : Session} {log : List Refreshed}

lemma setTimeline_eq {snapshot : Snapshot} {p : Preview}
    (h : s.preview.setTimeline snapshot = .ok p) :
    p.compositor = s.preview.compositor ∧ p.assets = s.preview.assets := by
  unfold Preview.setTimeline at h
  split at h
  · cases h
    exact ⟨rfl, rfl⟩
  · cases h

lemma Reached.op (h : Reached s log) (o : Op) (fits : o.Fits s) :
    ∃ log', Reached (o.apply s) log' := by
  cases o with
  | transport f => exact ⟨_, h.transport f⟩
  | timeline snapshot =>
    simp only [Op.apply]
    split
    · next p hp => exact ⟨_, h.timeline fits hp⟩
    · exact ⟨_, h⟩
  | viewport v => exact ⟨_, h.viewport v⟩
  | give moves => exact ⟨_, h.give moves⟩
  | finishCues => exact ⟨_, h.finishCues⟩
  | settle => exact ⟨_, h.settle⟩
  | sleepUntil due => exact ⟨_, h.sleepUntil due⟩
  | callback id => exact ⟨_, h.callback id⟩
  | refresh => exact ⟨_, h.refresh fits⟩
  | dispose => exact ⟨_, h.dispose⟩

lemma Reached.leads (h : Reached s log) (hs : s.Leads s') : ∃ log', Reached s' log' := by
  induction hs with
  | refl => exact ⟨log, h⟩
  | snoc _ o fits ih =>
    obtain ⟨log', h'⟩ := ih
    exact h'.op o fits

lemma uses_scene (h : Reached s log) : s.scene.Uses s.preview.pool s.preview.assets :=
  ⟨.refl _, fun _ hstep => absurd hstep (Option.some_ne_none _).symm, h.sound.cues⟩

/-- The pool goes on with the assets that the preview has. -/
lemma Reached.onward_op (h : Reached s log) (o : Op) (fits : o.Fits s) :
    s.preview.pool.Onward s.preview.assets (o.apply s).preview.pool ∧
      (o.apply s).preview.assets = s.preview.assets := by
  have huses := uses_scene h
  cases o with
  | transport | viewport => exact ⟨.refl _, rfl⟩
  | timeline snapshot =>
    simp only [Op.apply]
    split
    · next p hp =>
      obtain ⟨hcompositor, hassets⟩ := setTimeline_eq hp
      refine ⟨?_, hassets⟩
      rw [Preview.pool, Preview.pool, hcompositor]
      exact .refl _
    · exact ⟨.refl _, rfl⟩
  | give moves => exact ⟨CueTask.onward_startAll (.refl _) _, rfl⟩
  | finishCues =>
    have hrun : Scene.Uses _ _ (Scene.machine.runUntil (fun s => s.cues.all CueTask.isDone) _) :=
      Machine.runUntil_of (fun h _ hs => h.goes hs) huses
    exact ⟨hrun.pool, rfl⟩
  | settle => exact ⟨(Machine.settle_of (fun h hs => h.goes hs) huses).pool, rfl⟩
  | sleepUntil due => exact ⟨(Machine.sleepUntil_of (fun h hs => h.goes hs) huses).pool, rfl⟩
  | callback id =>
    refine ⟨?_, rfl⟩
    show s.preview.pool.Onward _ (s.preview.compositor.callback id).2.pool
    rw [Compositor.pool_callback]
    exact .refl _
  | refresh =>
    rcases Returns.refresh_cases fits with ⟨-, hrefresh⟩ | ⟨-, result, -, hrefresh⟩
    · rw [Op.apply, hrefresh]
      exact ⟨.refl _, rfl⟩
    · have hscene : s.evaluated.Uses s.preview.pool s.preview.assets :=
        Scene.uses_evaluate (.refl _) h.sound.cues h.sound.settled.calm.idle
      rw [Op.apply, hrefresh]
      rcases result with e | (report | ⟨frame, current⟩) <;> exact ⟨hscene.pool, rfl⟩
  | dispose =>
    refine ⟨?_, rfl⟩
    show s.preview.pool.Onward _ (s.preview.modifyTransport Transport.dispose).rig.dispose.pool
    rw [Compositor.pool_dispose]
    split
    · exact .refl _
    · exact (Pool.Onward.refl _).quiet (e := .dispose) trivial fun _ _ ho => ho

lemma Reached.onward (h : Reached s log) (hs : s.Leads s') :
    s.preview.pool.Onward s.preview.assets s'.preview.pool ∧
      s'.preview.assets = s.preview.assets := by
  induction hs with
  | refl => exact ⟨.refl _, rfl⟩
  | snoc hs o fits ih =>
    obtain ⟨log', h'⟩ := h.leads hs
    obtain ⟨hpool, hassets⟩ := h'.onward_op o fits
    rw [ih.2] at hpool hassets
    exact ⟨ih.1.trans hpool, hassets⟩

/-- **The pool of a preview** has come from a new one, and nobody has given its elements sources
from outside. -/
lemma Reached.exists_run (h : Reached s log) : ∃ config backend es,
    s.preview.pool = (Pool.new config backend).run es ∧ ∀ e ∈ es, e.Gentle := by
  have hop : ∀ {s : Session} {log : List Refreshed}, Reached s log → ∀ o : Op, o.Fits s →
      (∃ config backend es, s.preview.pool = (Pool.new config backend).run es ∧
        ∀ e ∈ es, e.Gentle) → ∃ config backend es,
          (o.apply s).preview.pool = (Pool.new config backend).run es ∧ ∀ e ∈ es, e.Gentle := by
    rintro s log h o fits ⟨config, backend, es, hpool, hes⟩
    obtain ⟨⟨es', hpool', hes'⟩, -⟩ := h.onward_op o fits
    refine ⟨config, backend, es ++ es', ?_, fun e he => ?_⟩
    · rw [hpool', hpool, Pool.run_append]
    · exact (List.mem_append.mp he).elim (hes e) fun he => (hes' e he).gentle
  induction h with
  | new config backend =>
    exact ⟨config.pool, backend, [], rfl, fun _ he => absurd he List.not_mem_nil⟩
  | transport h f ih => exact hop h (.transport f) trivial ih
  | @timeline s log h snapshot p distinct ok ih =>
    have hnext := hop h (.timeline snapshot) distinct ih
    simp only [Op.apply, ok] at hnext
    exact hnext
  | assets _ _ ih => exact ih
  | viewport h v ih => exact hop h (.viewport v) trivial ih
  | give h moves ih => exact hop h (.give moves) trivial ih
  | finishCues h ih => exact hop h .finishCues trivial ih
  | settle h ih => exact hop h .settle trivial ih
  | sleepUntil h due ih => exact hop h (.sleepUntil due) trivial ih
  | callback h id ih => exact hop h (.callback id) trivial ih
  | refresh h returns ih => exact hop h .refresh returns ih
  | dispose h ih => exact hop h .dispose trivial ih

end Session

end Montage
