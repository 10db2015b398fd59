import Montage.Proofs.Output.Presence
import Montage.Proofs.Pool.Closing
import Montage.Proofs.Preview.Callbacks

/-!
A preview that is disposed of.

Whatever has gone before, the transport and the compositor take back their requests, the output is
emptied and the media are let go of. Nothing of that is undone by what comes later, whether it is
work that was under way, a cue or a callback that was given before, or anything that the preview is
still used for.
-/

namespace Montage

/-! Before -/

namespace Compositor

variable {c d : Compositor}

/-- The output shows just what the compositor has on record. -/
def Records (c : Compositor) : Prop := c.tree.PresentOn c.target

lemma Records.congr (h : c.Records) (ht : d.tree = c.tree)
    (hl : d.target.layers = c.target.layers) : d.Records := by
  intro id
  rw [ht, hl]
  exact h id

lemma Records.flush (h : c.Records) : c.flush.2.Records := by
  rcases hstaged : c.tree.staged with _ | ⟨frame, layers⟩
  · rw [flush_of_none hstaged]
    exact h
  · obtain ⟨b, hcommit, hflush⟩ := flush_of_staged hstaged
    have hnext := LayerTree.PresentOn.commit h hcommit
    intro id
    rw [hflush, tree_write, layers_write]
    exact hnext id

lemma Records.callback (h : c.Records) (id : RequestId) : (c.callback id).2.Records := by
  unfold Compositor.callback
  split
  · exact Records.flush (c := { c with pendingFlush := none }) h
  · exact h

@[simp] lemma disposed_write (c : Compositor) (b : Batch) : (c.write b).disposed = c.disposed := by
  rw [write_eq]

@[simp] lemma disposed_flush (c : Compositor) : c.flush.2.disposed = c.disposed := by
  unfold flush
  split
  · rfl
  · exact disposed_write _ _

@[simp] lemma disposed_callback (c : Compositor) (id : RequestId) :
    (c.callback id).2.disposed = c.disposed := by
  unfold callback
  split
  · exact disposed_flush _
  · rfl

/-- The compositor is in use, and the output shows what it has on record. -/
structure IsOpen (c : Compositor) : Prop where
  alive : c.disposed = false
  records : c.Records

lemma IsOpen.congr (h : c.IsOpen) (hd : d.disposed = c.disposed) (ht : d.tree = c.tree)
    (hl : d.target.layers = c.target.layers) : d.IsOpen :=
  ⟨hd.trans h.alive, h.records.congr ht hl⟩

/-- The compositor is disposed of, with all that belongs to it. -/
structure IsShut (c : Compositor) : Prop where
  disposed : c.disposed = true
  flush : c.pendingFlush = none
  tree : c.tree = {}
  layers : c.target.layers = .empty
  pool : c.pool.Closed

/-- **Whatever was staged,** nothing is left on the output. -/
lemma IsOpen.isShut_closed (h : c.IsOpen) : c.closed.IsShut where
  disposed := rfl
  flush := pendingFlush_write _ _
  tree := tree_closed c
  layers := by
    have hclosed : c.closed.target.layers = (c.target.apply c.tree.clear.1).layers :=
      layers_write _ _
    rw [hclosed]
    exact LayerTree.PresentOn.clear h.records
  pool := by
    rw [pool_closed]
    exact c.pool.closed_dispose

end Compositor

namespace Rig

variable {r r' : Rig}

lemma Drifts.isOpen (h : r.Drifts r') (hr : r.compositor.IsOpen) : r'.compositor.IsOpen := by
  rw [h.compositor]
  exact hr.congr rfl rfl rfl

lemma isOpen_stage (h : r.compositor.IsOpen) (frame : Frame) (layers : List Layer) :
    (r.stage frame layers).compositor.IsOpen := by
  have hstaged : Compositor.IsOpen
      { r.compositor with tree := r.compositor.tree.stage frame layers } :=
    ⟨h.alive, h.records⟩
  unfold stage
  dsimp only
  split
  · unfold requestFlush
    split
    · exact hstaged
    · exact hstaged.congr rfl rfl rfl
  · exact ⟨(Compositor.disposed_flush _).trans h.alive, hstaged.records.flush⟩

lemma Works.isOpen (h : r.Works r') (hr : r.compositor.IsOpen) : r'.compositor.IsOpen := by
  cases h with
  | drifts h => exact h.isOpen hr
  | stages h frame layers => exact isOpen_stage (h.isOpen hr) frame layers

/-! Afterwards -/

/-- The pool and the playhead drift, and a pool that is disposed of stays so. -/
structure Fades (r r' : Rig) : Prop where
  drifts : r.Drifts r'
  pool : r.pool.StaysClosed r'.pool

namespace Fades

variable {r₁ : Rig}

lemma refl (h : r.pool.Closed) : r.Fades r := ⟨.refl r, .refl h⟩

lemma trans (h : r.Fades r₁) (k : r₁.Fades r') : r.Fades r' :=
  ⟨h.drifts.trans k.drifts, h.pool.trans k.pool⟩

lemma modifyPool (h : r.Fades r₁) {f : Pool → Pool}
    (hf : r₁.pool.Closed → r₁.pool.StaysClosed (f r₁.pool)) : r.Fades (r₁.modifyPool f) :=
  ⟨h.drifts.modifyPool f, h.pool.trans (hf h.pool.closed)⟩

lemma event (h : r.Fades r₁) (e : Pool.Event) : r.Fades (r₁.modifyPool fun pool => e.apply pool) :=
  h.modifyPool fun hclosed => hclosed.event e

lemma setAgenda (h : r.Fades r₁) (a : Agenda) : r.Fades (r₁.setAgenda a) :=
  h.modifyPool fun hclosed => hclosed.setAgenda a

lemma movePlayhead (h : r.Fades r₁) (frame : Frame) : r.Fades (r₁.movePlayhead frame) :=
  ⟨h.drifts.movePlayhead frame, h.pool⟩

lemma act (h : r.Fades r₁) (c : Cue) : r.Fades (c.act r₁) := by
  obtain ⟨delay, playhead, pool, release⟩ := c
  have hmove : r.Fades (Cue.act ⟨delay, playhead, none, none⟩ r₁) := by
    cases playhead with
    | none => exact h
    | some frame => exact h.movePlayhead frame
  have hpool : r.Fades (Cue.act ⟨delay, playhead, pool, none⟩ r₁) := by
    cases pool with
    | none => exact hmove
    | some cue =>
      cases cue with
      | reset => exact hmove.event .reset
      | dispose => exact hmove.event .dispose
  cases release with
  | none => exact hpool
  | some asset => exact hpool.event (.release asset)

lemma poll (h : r.Fades r₁) (task : TaskId) (c : Cue) (stage : Cue.Stage) :
    r.Fades (c.poll task r₁ stage).1 := by
  have hwaiting : ∀ {r₁ : Rig} due, r.Fades r₁ → r.Fades (c.pollWaiting r₁ due).1 := by
    intro r₁ due h
    unfold Cue.pollWaiting
    split
    · exact h.act c
    · exact h
  cases stage with
  | unstarted => exact hwaiting _ (h.setAgenda _)
  | waiting due => exact hwaiting due h
  | done => exact h

lemma resume (h : r.Fades r₁) (task : TaskId) (ts : List CueTask) :
    r.Fades (CueTask.resume r₁ task ts).1 := by
  induction ts with
  | nil => exact h
  | cons t ts ih =>
    unfold CueTask.resume
    split
    · exact h.poll task t.cue t.stage
    · exact ih

lemma startAll (h : r.Fades r₁) (cues : List Cue) : r.Fades (CueTask.startAll r₁ cues).1 := by
  induction cues generalizing r₁ with
  | nil => exact h
  | cons c cues ih => exact ih (h.setAgenda _)

end Fades

end Rig

namespace Scene

variable {r : Rig} {s s' : Scene}

/-- A scene without an evaluation, after a pool was disposed of. -/
structure Fades (r : Rig) (s : Scene) : Prop where
  step : s.step = none
  rig : r.Fades s.rig

lemma Fades.goes (h : Fades r s) (hs : machine.Goes s s') : Fades r s' := by
  obtain ⟨a, -, hcases⟩ := goes_cases hs
  have hagenda : r.Fades (s.rig.setAgenda a) := h.rig.setAgenda a
  rcases hcases with rfl | ⟨step, hsome, -⟩ | ⟨t, ht, rfl⟩
  · exact ⟨h.step, hagenda⟩
  · rw [h.step] at hsome
    cases hsome
  · unfold resume
    rw [if_neg ht]
    exact ⟨h.step, (hagenda.event (.resume t)).resume t s.cues⟩

end Scene

namespace Preview

variable {p q q' : Preview}

/-- The preview is disposed of, and it remembers nothing. -/
structure IsShut (p : Preview) : Prop where
  compositor : p.compositor.IsShut
  applied : p.applied = none

/-- The later preview is disposed of, and its pool has no handles but old ones. -/
structure StaysShut (p q : Preview) : Prop where
  shut : q.IsShut
  handles : ∀ t h, q.pool.HasHandle t h → p.pool.HasHandle t h

namespace StaysShut

lemma refl (h : p.IsShut) : p.StaysShut p := ⟨h, fun _ _ hh => hh⟩

lemma trans (h : p.StaysShut q) (k : q.StaysShut q') : p.StaysShut q' :=
  ⟨k.shut, fun t hd hh => h.handles t hd (k.handles t hd hh)⟩

lemma of_pool (h : p.IsShut) (hpool : p.pool.StaysClosed q.pool)
    (hd : q.compositor.disposed = p.compositor.disposed)
    (hf : q.compositor.pendingFlush = p.compositor.pendingFlush)
    (ht : q.compositor.tree = p.compositor.tree)
    (hl : q.compositor.target = p.compositor.target) (ha : q.applied = none) : p.StaysShut q where
  shut := {
    compositor := {
      disposed := hd.trans h.compositor.disposed
      flush := hf.trans h.compositor.flush
      tree := ht.trans h.compositor.tree
      layers := (congrArg (·.layers) hl).trans h.compositor.layers
      pool := hpool.closed }
    applied := ha }
  handles := hpool.handles

lemma fades (h : p.IsShut) {r : Rig} (hr : p.rig.Fades r) : p.StaysShut (p.setRig r) := by
  have hcompositor : r.compositor = { p.compositor with pool := r.pool } := hr.drifts.compositor
  exact of_pool h hr.pool (congrArg (·.disposed) hcompositor)
    (congrArg (·.pendingFlush) hcompositor) (congrArg (·.tree) hcompositor)
    (congrArg (·.target) hcompositor) h.applied

end StaysShut

/-- The preview is in use, or it is disposed of. -/
def Stands (p : Preview) : Prop := p.compositor.IsOpen ∨ p.IsShut

lemma compositor_dispose (p : Preview) : p.dispose.compositor =
    if p.compositor.disposed then p.compositor else p.compositor.closed :=
  Compositor.compositor_dispose (p.modifyTransport Transport.dispose).rig

/-- **Disposing of a preview.** -/
lemma Stands.dispose (h : p.Stands) : p.dispose.IsShut := by
  refine ⟨?_, rfl⟩
  rw [compositor_dispose]
  rcases h with hopen | hshut
  · rw [if_neg (by simp [hopen.alive])]
    exact hopen.isShut_closed
  · rw [if_pos hshut.compositor.disposed]
    exact hshut.compositor

/-- Neither part has left a request behind. -/
lemma Stands.requests_dispose (h : p.Stands) : ∀ id ∈ p.dispose.transport.host.requests.pending,
    id ∈ p.transport.host.requests.pending ∧ ∀ part, p.request? part ≠ some id := by
  intro id hid
  have hrig : id ∈ (p.modifyTransport Transport.dispose).rig.dispose.host.requests.pending := hid
  obtain ⟨hmem, hflush⟩ :
      id ∈ p.transport.dispose.host.requests.pending ∧ p.request? .compositor ≠ some id := by
    rcases h with hopen | hshut
    · obtain ⟨-, -, hpending⟩ :=
        Rig.requests_dispose (p.modifyTransport Transport.dispose).rig hopen.alive
      exact hpending id hrig
    · have hsame : (p.modifyTransport Transport.dispose).rig.dispose =
          (p.modifyTransport Transport.dispose).rig := if_pos hshut.compositor.disposed
      rw [hsame] at hrig
      refine ⟨hrig, fun heq => ?_⟩
      cases hshut.compositor.flush.symm.trans heq
  rcases p.transport.tidies_dispose id hmem with hown | ⟨hold, hne⟩
  · cases p.transport.pending_dispose.symm.trans hown
  · refine ⟨hold, fun part => ?_⟩
    cases part with
    | transport => exact hne
    | compositor => exact hflush

end Preview

namespace Session

variable {s : Session}

/-- **A refresh** of a preview that is disposed of fails, and changes nothing. -/
lemma refresh_of_isShut (h : s.preview.IsShut) : s.refresh = (s, .error .disposed) := by
  have hcurrent : s.preview.isCurrent = false := by
    rw [Preview.isCurrent, h.applied]
    rfl
  have hbegun : s.scene.rig.evaluate s.preview.snapshot s.preview.assets
      s.preview.inputs.playback = (s.preview.rig, .ended (.error .disposed)) :=
    if_pos h.compositor.disposed
  have hevaluated : s.evaluated = { s.scene with step := some (.ended (.error .disposed)) } := by
    unfold evaluated Scene.evaluate
    rw [hbegun]
    exact Scene.machine.runUntil_of_stop rfl
  have hresult : s.evaluated.result? = some (.error .disposed) := by
    rw [hevaluated]
    rfl
  rw [refresh_of_not_current hcurrent hresult, hevaluated]
  rfl

/-- **A callback** reaches the transport only. -/
lemma callback_of_isShut (h : s.preview.IsShut) (id : RequestId) (timestamp : Float) :
    (s.callback id timestamp).1 =
        s.modify (fun p => p.modifyTransport fun t => (t.callback id timestamp).1) ∧
      ∀ n, (s.preview.transport.callback id timestamp).2 = .ok n →
        (s.callback id timestamp).2 = .error .disposed := by
  cases hadvanced : (s.preview.transport.callback id timestamp).2 with
  | error f =>
    rw [callback_of_fault hadvanced]
    exact ⟨rfl, fun n hn => by cases hn⟩
  | ok n =>
    have hcalled : s.called id timestamp =
        s.modify fun p => p.modifyTransport fun t => (t.callback id timestamp).1 := by
      have hflush : s.preview.compositor.pendingFlush ≠ some id := by
        rw [h.compositor.flush]
        simp
      unfold called
      simp only [modify, Preview.modifyTransport, Compositor.callback_of_ne hflush]
    have hshut : (s.called id timestamp).preview.IsShut := by
      rw [hcalled]
      exact ⟨h.compositor, h.applied⟩
    rw [callback_of_advanced hadvanced, refresh_of_isShut hshut]
    exact ⟨hcalled, fun _ _ => rfl⟩

/-- **One use** of a preview that is disposed of. -/
lemma staysShut_use (h : s.preview.IsShut) (u : Use) :
    s.preview.StaysShut (u.apply s).preview := by
  have hpool : s.preview.pool.StaysClosed s.preview.pool := .refl h.compositor.pool
  have hfades : Scene.Fades s.preview.rig s.scene := ⟨rfl, .refl h.compositor.pool⟩
  cases u with
  | command c => exact .of_pool h hpool rfl rfl rfl rfl h.applied
  | setTimeline snapshot =>
    dsimp only [Use.apply, modify]
    rcases setTimeline_cases s.preview snapshot with heq | heq
    · rw [heq]
      exact .refl h
    · rw [heq]
      exact .of_pool h hpool rfl rfl rfl rfl rfl
  | setAssets | setViewport => exact .of_pool h hpool rfl rfl rfl rfl rfl
  | movePlayhead | take => exact .of_pool h hpool rfl rfl rfl rfl h.applied
  | pool e => exact .of_pool h (h.compositor.pool.event e) rfl rfl rfl rfl h.applied
  | give cues =>
    exact .fades h ((Rig.Fades.refl (r := s.preview.rig) h.compositor.pool).startAll cues)
  | finishCues =>
    exact .fades h (Scene.machine.runUntil_of (fun hs _ hgoes => hs.goes hgoes) hfades).rig
  | settle => exact .fades h (Scene.machine.settle_of (fun hs hgoes => hs.goes hgoes) hfades).rig
  | sleepUntil due =>
    exact .fades h (Scene.machine.sleepUntil_of (fun hs hgoes => hs.goes hgoes) hfades).rig
  | callback id timestamp =>
    dsimp only [Use.apply]
    rw [(callback_of_isShut h id timestamp).1]
    exact .of_pool h hpool rfl rfl rfl rfl h.applied
  | refresh =>
    dsimp only [Use.apply]
    rw [refresh_of_isShut h]
    exact .refl h
  | dispose =>
    have hcompositor : s.preview.dispose.compositor = s.preview.compositor := by
      rw [Preview.compositor_dispose, if_pos h.compositor.disposed]
    have hsame : s.preview.pool.StaysClosed s.preview.dispose.pool := by
      rw [Preview.pool, Preview.pool, hcompositor]
      exact hpool
    exact .of_pool h hsame (congrArg (·.disposed) hcompositor)
      (congrArg (·.pendingFlush) hcompositor) (congrArg (·.tree) hcompositor)
      (congrArg (·.target) hcompositor) rfl

/-- **One use** of any preview. -/
lemma stands_use (h : s.preview.Stands) (u : Use) : (u.apply s).preview.Stands := by
  rcases h with hopen | hshut
  · have hdrifts : ∀ {r : Rig} {cues : List CueTask}, s.preview.rig.Drifts r →
        Preview.Stands (Session.preview { preview := s.preview.setRig r, cues }) :=
      fun hr => .inl (hr.isOpen hopen)
    cases u with
    | command | setAssets | movePlayhead | pool | take => exact .inl (hopen.congr rfl rfl rfl)
    | setViewport v => exact .inl (hopen.congr rfl rfl rfl)
    | setTimeline snapshot =>
      dsimp only [Use.apply, modify]
      rcases setTimeline_cases s.preview snapshot with heq | heq
      · rw [heq]
        exact .inl hopen
      · rw [heq]
        exact .inl (hopen.congr rfl rfl rfl)
    | give cues => exact hdrifts (CueTask.drifts_startAll _ cues)
    | finishCues => exact hdrifts ((Orderly.idles s).runUntil _).rig
    | settle => exact hdrifts (Orderly.idles s).settle.rig
    | sleepUntil due => exact hdrifts ((Orderly.idles s).sleepUntil due).rig
    | callback id timestamp =>
      dsimp only [Use.apply]
      cases hadvanced : (s.preview.transport.callback id timestamp).2 with
      | error f =>
        rw [callback_of_fault hadvanced]
        exact .inl hopen
      | ok n =>
        have hcalled : (s.called id timestamp).preview.compositor.IsOpen :=
          ⟨(Compositor.disposed_callback _ id).trans hopen.alive, hopen.records.callback id⟩
        rw [callback_of_advanced hadvanced]
        exact .inl ((s.called id timestamp).works_refresh.1.isOpen hcalled)
    | refresh => exact .inl (s.works_refresh.1.isOpen hopen)
    | dispose => exact .inr (Preview.Stands.dispose (.inl hopen))
  · exact .inr (staysShut_use hshut u).shut

lemma stands_uses (h : s.preview.Stands) (us : List Use) : (s.uses us).preview.Stands := by
  induction us using List.reverseRecOn with
  | nil => exact h
  | append_singleton us u ih =>
    rw [uses_concat]
    exact stands_use ih u

/-- **Any number of uses.** -/
lemma staysShut_uses (h : s.preview.IsShut) (us : List Use) :
    s.preview.StaysShut (s.uses us).preview := by
  induction us using List.reverseRecOn with
  | nil => exact .refl h
  | append_singleton us u ih =>
    rw [uses_concat]
    exact ih.trans (staysShut_use ih.shut u)

lemma stands_new (config : PreviewConfig) (backend : Backend) (snapshot : Snapshot)
    (assets : AssetTable) : (Preview.new config backend snapshot assets).Stands :=
  .inl ⟨rfl, fun _ => Iff.rfl⟩

/-- **Disposing of a preview is final.** Take any preview, whatever it has been used for. When it is
disposed of, neither transport nor compositor has a request at the display, and what is pending
there was asked for by neither. From then on, whatever the preview and its pool are still used for,
and whatever work was under way, the output is empty, no slot is bound, and the compositor waits for
no callback. Every refresh fails and leaves the session as it is, and with a callback only the
transport moves. The pool loads nothing in advance, a new request to it fails at once, and no handle
comes of a request that was not there before. -/
theorem dispose_final (config : PreviewConfig) (backend : Backend) (snapshot : Snapshot)
    (assets : AssetTable) (us us' : List Use) :
    let s := uses { preview := .new config backend snapshot assets } us
    let d := s.modify Preview.dispose
    let s' := d.uses us'
    (∀ part, d.preview.request? part = none) ∧
    (∀ id ∈ d.requests.pending,
      id ∈ s.requests.pending ∧ ∀ part, s.preview.request? part ≠ some id) ∧
    s'.preview.compositor.target.layers = .empty ∧
    (∀ i, (s'.preview.pool.slot i).asset = none) ∧
    s'.preview.request? .compositor = none ∧
    s'.refresh = (s', .error .disposed) ∧
    (∀ id timestamp, (s'.callback id timestamp).1 =
        s'.modify (fun p => p.modifyTransport fun t => (t.callback id timestamp).1) ∧
      ∀ n, (s'.preview.transport.callback id timestamp).2 = .ok n →
        (s'.callback id timestamp).2 = .error .disposed) ∧
    (∀ upcoming assets, s'.preview.pool.preload upcoming assets = (0, s'.preview.pool)) ∧
    (∀ r : Request, s'.preview.pool.work? .main = none →
      ∃ e, (s'.preview.pool.acquire r).2 = some (.error e)) ∧
    (∀ t h, s'.preview.pool.HasHandle t h → d.preview.pool.HasHandle t h) := by
  intro s d s'
  have hstands : s.preview.Stands := stands_uses (stands_new config backend snapshot assets) us
  have hdisposed : d.preview.IsShut := hstands.dispose
  obtain ⟨hshut, hhandles⟩ := staysShut_uses hdisposed us'
  refine ⟨fun part => ?_, hstands.requests_dispose, hshut.compositor.layers,
    hshut.compositor.pool.unbound, hshut.compositor.flush, refresh_of_isShut hshut,
    callback_of_isShut hshut, fun _ _ => hshut.compositor.pool.preload_eq _ _,
    fun r idle => ⟨_, hshut.compositor.pool.acquire_eq idle r⟩, hhandles⟩
  cases part with
  | transport => exact s.preview.transport.pending_dispose
  | compositor => exact hdisposed.compositor.flush

end Session

end Montage
