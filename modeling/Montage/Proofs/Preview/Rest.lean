import Montage.Proofs.Playback.Requests
import Montage.Proofs.Preview.Pictures
import Montage.Proofs.Preview.Refreshes
import Montage.Proofs.Preview.Stacks

/-!
A preview at rest shows what it is to show.

The host of a preview takes the requests for callbacks and delivers them some time later. Layers are
staged by a refresh and written with a callback; at any time there is a callback on its way for
layers that are staged. What a refresh goes by to skip an evaluation is always true of the picture
that was staged last. So when no callback is on its way any more, and nothing has changed since the
last refresh, the output shows that picture, and the picture is of the present frame.
-/

namespace Montage

/-- What the host of a preview has on record. -/
structure Ledger where
  /-- Requests that it has taken and not delivered yet. -/
  taken : List RequestId := []
  /-- What was staged last. -/
  picture : Option Picture := none
  /-- How things were after the last refresh, if it was skipped or applied. -/
  rested : Option Sources := none

/-- The host looks at the outcome of a refresh. -/
def Ledger.note (l : Ledger) (before after : Session) : Session.Refreshed → Ledger
  | .ok none => { l with rested := some after.preview.sources }
  | .ok (some (.applied report)) => { l with
      picture := some {
        before := before.scene
        after := after.preview.rig
        report
        layers := after.preview.compositor.tree.staged.elim [] (·.2) }
      rested := some after.preview.sources }
  | _ => { l with rested := none }

lemma Ledger.taken_note (l : Ledger) (before after : Session) (outcome : Session.Refreshed) :
    (l.note before after outcome).taken = l.taken := by
  unfold note
  split <;> rfl

/-- The sessions of a preview with its host, if changes wait for the display. The transport is told
what to do, timelines, assets and sizes of the output come and go, the playhead and the pool are
used by others, with and without delay; requests are taken and callbacks delivered, and the preview
is refreshed. -/
inductive Session.Hosted : Session → Ledger → Prop
  | new (config : PreviewConfig) (backend : Backend) {snapshot : Snapshot} (assets : AssetTable)
      (batch : config.compositor.batchWrites = true) (distinct : snapshot.DistinctClips) :
      Hosted { preview := .new config backend snapshot assets } {}
  | command {s : Session} {l : Ledger} (h : Hosted s l) {c : Transport.Command}
      {t : Transport Float} (ok : s.preview.transport.obey c = .ok t) :
      Hosted (s.modify fun p => { p with transport := t }) l
  | timeline {s : Session} {l : Ledger} (h : Hosted s l) {snapshot : Snapshot} {p : Preview}
      (distinct : snapshot.DistinctClips) (ok : s.preview.setTimeline snapshot = .ok p) :
      Hosted { s with preview := p } l
  | assets {s : Session} {l : Ledger} (h : Hosted s l) (assets : AssetTable) :
      Hosted (s.modify fun p => p.setAssets assets) l
  | viewport {s : Session} {l : Ledger} (h : Hosted s l) (v : Viewport) :
      Hosted (s.modify fun p => p.setViewport v) l
  | playhead {s : Session} {l : Ledger} (h : Hosted s l) (frame : Frame) :
      Hosted (s.modify fun p => p.setRig (p.rig.movePlayhead frame)) l
  | pool {s : Session} {l : Ledger} (h : Hosted s l) (f : Pool → Pool) :
      Hosted (s.modify fun p => p.modifyPool f) l
  | give {s : Session} {l : Ledger} (h : Hosted s l) (cues : List Cue) : Hosted (s.give cues) l
  | finishCues {s : Session} {l : Ledger} (h : Hosted s l) : Hosted s.finishCues l
  | settle {s : Session} {l : Ledger} (h : Hosted s l) : Hosted s.settle l
  | sleepUntil {s : Session} {l : Ledger} (h : Hosted s l) (due : Nat) :
      Hosted (s.sleepUntil due) l
  | take {s : Session} {l : Ledger} (h : Hosted s l) :
      Hosted (s.modify fun p => p.modifyTransport fun t => { t with host := t.host.take.2 })
        { l with taken := l.taken ++ s.requests.pending }
  | deliver {s : Session} {l : Ledger} (h : Hosted s l) (id : RequestId) (timestamp : Float)
      {n : Nat} (advanced : (s.preview.transport.callback id timestamp).2 = .ok n)
      (returns : (s.called id timestamp).Returns) :
      Hosted (s.callback id timestamp).1
        ({ l with taken := l.taken.filter (· != id) }.note (s.called id timestamp)
          (s.callback id timestamp).1 (s.callback id timestamp).2)
  | refresh {s : Session} {l : Ledger} (h : Hosted s l) (returns : s.Returns) :
      Hosted s.refresh.1 (l.note s s.refresh.1 s.refresh.2)

/-! Requests -/

/-- The compositor waits for a callback that is pending or taken, whenever anything is staged. The
request for it is not that of the transport. -/
structure Rig.Booked (r : Rig) (own : Option RequestId) (taken : List RequestId) : Prop where
  issued : ∀ id, own = some id → id ≤ r.host.requests.issued
  flush : ∀ id, r.compositor.pendingFlush = some id → id ≤ r.host.requests.issued ∧
    own ≠ some id ∧ (id ∈ r.host.requests.pending ∨ id ∈ taken)
  staged : r.compositor.tree.staged.isSome = true → r.compositor.pendingFlush.isSome = true

namespace Rig.Booked

variable {r r' : Rig} {own : Option RequestId} {taken : List RequestId}

lemma drifts (h : r.Booked own taken) (hr : r.Drifts r') : r'.Booked own taken := by
  constructor
  · rw [hr.requests]
    exact h.issued
  · rw [hr.requests, hr.compositor]
    exact h.flush
  · rw [hr.compositor]
    exact h.staged

lemma spares {c : Compositor} {t t' : Transport Float}
    (h : Rig.Booked ⟨c, t.host⟩ t.pending taken) (ht : t.Spares t') :
    Rig.Booked ⟨c, t'.host⟩ t'.pending taken where
  issued id hid := by
    rcases ht.own id hid with hold | ⟨-, hle⟩
    · exact Nat.le_trans (h.issued id hold) ht.issued
    · exact hle
  flush id hid := by
    obtain ⟨hle, hne, hway⟩ := h.flush id hid
    refine ⟨Nat.le_trans hle ht.issued, fun hown => ?_,
      hway.imp_left fun hmem => ht.others id hmem hle hne⟩
    rcases ht.own id hown with hold | ⟨hlt, -⟩
    · exact hne hold
    · exact Nat.not_lt_of_le hle hlt
  staged := h.staged

lemma take {c : Compositor} {host : Host} (h : Rig.Booked ⟨c, host⟩ own taken) :
    Rig.Booked ⟨c, host.take.2⟩ own (taken ++ host.requests.pending) where
  issued := h.issued
  flush id hid := by
    obtain ⟨hle, hne, hway⟩ := h.flush id hid
    exact ⟨hle, hne, .inr (List.mem_append.mpr hway.symm)⟩
  staged := h.staged

end Rig.Booked

@[simp] lemma Compositor.pendingFlush_write (c : Compositor) (b : Batch) :
    (c.write b).pendingFlush = c.pendingFlush := by
  rw [write_eq]

@[simp] lemma Compositor.pendingFlush_flush (c : Compositor) :
    c.flush.2.pendingFlush = c.pendingFlush := by
  unfold flush
  split
  · rfl
  · exact Compositor.pendingFlush_write _ _

@[simp] lemma Compositor.config_flush (c : Compositor) : c.flush.2.config = c.config := by
  unfold flush
  split
  · rfl
  · exact Compositor.config_write _ _

@[simp] lemma Compositor.config_callback (c : Compositor) (id : RequestId) :
    (c.callback id).2.config = c.config := by
  unfold callback
  split
  · exact Compositor.config_flush _
  · rfl

lemma Compositor.staged_flush (c : Compositor) : c.flush.2.tree.staged = none := by
  rcases hstaged : c.tree.staged with _ | ⟨frame, layers⟩
  · rw [flush_of_none hstaged, hstaged]
  · obtain ⟨b, -, hflush⟩ := flush_of_staged hstaged
    rw [hflush, tree_write]

namespace Rig.Booked

variable {r r' : Rig} {own : Option RequestId} {taken : List RequestId}

lemma callback (h : r.Booked own taken) (id : RequestId) :
    Rig.Booked { r with compositor := (r.compositor.callback id).2 } own
      (taken.filter (· != id)) := by
  unfold Compositor.callback
  split
  · refine ⟨h.issued, fun other hother => ?_, fun hstaged => ?_⟩
    · simp at hother
    · simp [Compositor.staged_flush] at hstaged
  · next hne =>
    refine ⟨h.issued, fun other hother => ?_, h.staged⟩
    obtain ⟨hle, hown, hway⟩ := h.flush other hother
    refine ⟨hle, hown, hway.imp_right fun hmem => List.mem_filter.mpr ⟨hmem, ?_⟩⟩
    have hother' : other ≠ id := fun heq => hne (heq ▸ hother)
    simpa using hother'

/-- Layers are staged, to be written with a callback. -/
lemma stage (h : r.Booked own taken) (hbatch : r.compositor.config.batchWrites = true)
    (frame : Frame) (layers : List Layer) : (r.stage frame layers).Booked own taken := by
  unfold Rig.stage
  dsimp only
  rw [if_pos hbatch]
  unfold Rig.requestFlush
  split
  · next id hid =>
    exact ⟨h.issued, h.flush, fun _ => Option.isSome_iff_exists.mpr ⟨id, hid⟩⟩
  · refine ⟨fun id hid => Nat.le_succ_of_le (h.issued id hid), fun id hid => ?_, fun _ => rfl⟩
    obtain rfl : r.host.requests.issued + 1 = id := Option.some.inj hid
    refine ⟨Nat.le_refl _, fun hown => ?_, .inl (List.mem_append_right _ List.mem_cons_self)⟩
    exact Nat.not_succ_le_self _ (h.issued _ hown)

end Rig.Booked

lemma Rig.config_stage (r : Rig) (frame : Frame) (layers : List Layer) :
    (r.stage frame layers).compositor.config = r.compositor.config := by
  unfold stage
  dsimp only
  split
  · unfold requestFlush
    split <;> rfl
  · exact Compositor.config_flush _

lemma Rig.playhead_stage (r : Rig) (frame : Frame) (layers : List Layer) :
    (r.stage frame layers).host.playhead = r.host.playhead := by
  unfold stage
  dsimp only
  split
  · unfold requestFlush
    split <;> rfl
  · rfl

/-! The output -/

/-- The output shows the picture, or will when what is staged is written. -/
structure Compositor.Displays (c : Compositor) (picture : Option Picture) : Prop where
  batch : c.config.batchWrites = true
  sound : c.outlet.Sound
  staged : ∀ frame layers, c.tree.staged = some (frame, layers) →
    ∃ p, picture = some p ∧ p.layers = layers
  shown : c.tree.staged = none → ∀ p, picture = some p → c.outlet.Follows ⟨none, p.layers⟩

namespace Compositor.Displays

variable {c d : Compositor} {picture : Option Picture}

lemma congr (h : c.Displays picture) (hb : d.config.batchWrites = c.config.batchWrites)
    (ho : d.outlet = c.outlet) : d.Displays picture := by
  have ht : d.tree = c.tree := congrArg Outlet.tree ho
  exact ⟨hb.trans h.batch, ho ▸ h.sound, ht ▸ h.staged, by rw [ht, ho]; exact h.shown⟩

lemma flush (h : c.Displays picture) : c.flush.2.Displays picture := by
  rcases hstaged : c.tree.staged with _ | ⟨frame, layers⟩
  · rw [flush_of_none hstaged]
    exact h
  · obtain ⟨p, hp, hlayers⟩ := h.staged frame layers hstaged
    have htree : c.flush.2.outlet.tree = { applied := LayerTree.shown layers, staged := none } := by
      rw [outlet_flush]
      exact congrArg Prod.snd (Outlet.commit_of_staged hstaged)
    refine ⟨by rw [config_flush]; exact h.batch, ?_, fun frame' layers' hstaged' => ?_,
      fun _ q hq => ⟨?_, ?_, ?_⟩⟩
    · rw [outlet_flush]
      exact h.sound.commit
    · rw [staged_flush] at hstaged'
      cases hstaged'
    · rw [htree]
    · obtain rfl : p = q := Option.some.inj (hp.symm.trans hq)
      rw [htree, hlayers]
    · obtain rfl : p = q := Option.some.inj (hp.symm.trans hq)
      rw [hlayers]
      exact h.sound.distinct frame layers hstaged

lemma callback (h : c.Displays picture) (id : RequestId) : (c.callback id).2.Displays picture := by
  have hcleared : Displays { c with pendingFlush := none } picture := h.congr rfl rfl
  unfold Compositor.callback
  split
  · exact hcleared.flush
  · exact h

/-- Another picture is staged. -/
lemma stage {r : Rig} (h : r.compositor.Displays picture) (frame : Frame) {p : Picture}
    (hn : (p.layers.map (·.clip)).Nodup) :
    (r.stage frame p.layers).compositor.Displays (some p) ∧
      (r.stage frame p.layers).compositor.tree.staged = some (frame, p.layers) := by
  have hstaged : Displays { r.compositor with tree := r.compositor.tree.stage frame p.layers }
      (some p) := by
    refine ⟨h.batch, ⟨h.sound.shown, fun frame' layers' hs => ?_⟩, fun frame' layers' hs => ?_,
      fun hs => ?_⟩
    · cases hs
      exact hn
    · cases hs
      exact ⟨p, rfl, rfl⟩
    · cases hs
  unfold Rig.stage
  dsimp only
  rw [if_pos h.batch]
  unfold Rig.requestFlush
  split
  · exact ⟨hstaged, rfl⟩
  · exact ⟨hstaged.congr rfl rfl, rfl⟩

end Compositor.Displays

/-! What is remembered -/

/-- What a refresh goes by, and what the host has on record, is true of the pass that has made the
picture. -/
structure Preview.Recalls (p : Preview) (l : Ledger) : Prop where
  distinct : p.snapshot.DistinctClips
  applied : ∀ inputs, p.applied = some inputs → ∃ (picture : Picture) (pass : Pass),
    l.picture = some picture ∧ pass.Makes picture ∧ pass.sources =
      ⟨inputs.frame, p.snapshot, p.assets, p.compositor.config.viewport, inputs.playback⟩
  rested : ∀ sources, l.rested = some sources → ∃ (picture : Picture) (pass : Pass),
    l.picture = some picture ∧ pass.Makes picture ∧ pass.sources.Same sources

namespace Preview.Recalls

variable {p q : Preview} {l : Ledger}

lemma congr (h : p.Recalls l) (hs : q.snapshot = p.snapshot) (ha : q.assets = p.assets)
    (hv : q.compositor.config.viewport = p.compositor.config.viewport)
    (hr : q.applied = p.applied) : q.Recalls l where
  distinct := hs ▸ h.distinct
  applied inputs hinputs := by
    rw [hs, ha, hv]
    exact h.applied inputs (hr ▸ hinputs)
  rested := h.rested

lemma taken (h : p.Recalls l) (taken : List RequestId) : p.Recalls { l with taken } :=
  ⟨h.distinct, h.applied, h.rested⟩

lemma forget (h : p.Recalls l) (hd : q.snapshot.DistinctClips) (hr : q.applied = none) :
    q.Recalls l where
  distinct := hd
  applied inputs hinputs := by
    rw [hr] at hinputs
    cases hinputs
  rested := h.rested

end Preview.Recalls

namespace Session

/-- The session after an evaluation that has staged layers. -/
def draw (s : Session) (r : Rig) (report : Report) (layers : List Layer) (cues : List CueTask) :
    Session where
  preview := (s.preview.setRig (r.stage report.frame layers)).remember s.preview.inputs
    (.ok (.applied report))
  cues := cues

/-- What holds of every session with its host. -/
structure Orderly (s : Session) (l : Ledger) : Prop where
  booked : s.preview.rig.Booked s.preview.transport.pending l.taken
  displays : s.preview.compositor.Displays l.picture
  recalls : s.preview.Recalls l

namespace Orderly

variable {s : Session} {l : Ledger}

lemma drifts (h : s.Orderly l) {r : Rig} (hr : s.preview.rig.Drifts r) (cues : List CueTask) :
    Orderly { preview := s.preview.setRig r, cues } l := by
  have hcompositor : r.compositor = { s.preview.compositor with pool := r.pool } := hr.compositor
  refine ⟨h.booked.drifts hr, h.displays.congr ?_ ?_, h.recalls.congr rfl rfl ?_ rfl⟩
  · exact congrArg (·.config.batchWrites) hcompositor
  · exact hr.outlet
  · exact congrArg (·.config.viewport) hcompositor

lemma ofScene (h : s.Orderly l) {scene : Scene} (hs : scene.Idles s.preview.rig) :
    (s.ofScene scene).Orderly l :=
  h.drifts hs.rig scene.cues

lemma idles (s : Session) : s.scene.Idles s.preview.rig := ⟨rfl, .refl _⟩

lemma spares (h : s.Orderly l) {t : Transport Float} (ht : s.preview.transport.Spares t) :
    (s.modify fun p => { p with transport := t }).Orderly l :=
  ⟨h.booked.spares ht, h.displays, h.recalls.congr rfl rfl rfl rfl⟩

lemma timeline (h : s.Orderly l) {snapshot : Snapshot} {p : Preview}
    (distinct : snapshot.DistinctClips) (ok : s.preview.setTimeline snapshot = .ok p) :
    Orderly { s with preview := p } l := by
  unfold Preview.setTimeline at ok
  split at ok
  · cases ok
    exact ⟨h.booked.spares (s.preview.transport.spares_setTimeline _ _), h.displays,
      h.recalls.forget distinct rfl⟩
  · simp at ok

lemma take (h : s.Orderly l) :
    (s.modify fun p => p.modifyTransport fun t => { t with host := t.host.take.2 }).Orderly
      { l with taken := l.taken ++ s.requests.pending } where
  booked := h.booked.take
  displays := h.displays
  recalls := (h.recalls.taken _).congr rfl rfl rfl rfl

lemma called (h : s.Orderly l) (id : RequestId) (timestamp : Float) :
    (s.called id timestamp).Orderly { l with taken := l.taken.filter (· != id) } := by
  have htransport := h.spares (s.preview.transport.spares_callback id timestamp)
  refine ⟨htransport.booked.callback id, htransport.displays.callback id,
    (htransport.recalls.taken _).congr rfl rfl ?_ rfl⟩
  exact congrArg (·.viewport) (s.preview.compositor.config_callback id)

lemma skip (h : s.Orderly l) (hcurrent : s.preview.isCurrent = true) :
    s.Orderly { l with rested := some s.preview.sources } := by
  refine ⟨h.booked, h.displays, h.recalls.distinct, h.recalls.applied, fun sources hsources => ?_⟩
  obtain rfl : s.preview.sources = sources := Option.some.inj hsources
  unfold Preview.isCurrent at hcurrent
  cases happlied : s.preview.applied with
  | none => simp [happlied] at hcurrent
  | some inputs =>
    obtain ⟨picture, pass, hpicture, hmakes, hmade⟩ := h.recalls.applied inputs happlied
    rw [happlied] at hcurrent
    obtain ⟨hframe, -, hplayback⟩ := (PreviewInputs.beq_iff inputs s.preview.inputs).mp hcurrent
    refine ⟨picture, pass, hpicture, hmakes, ?_⟩
    rw [hmade]
    exact ⟨hframe, rfl, rfl, rfl, .inr hplayback⟩

lemma fail (h : s.Orderly l) {scene : Scene} (hr : s.preview.rig.Drifts scene.rig) :
    (s.ofScene scene).Orderly { l with rested := none } := by
  have hdrifts := h.drifts hr scene.cues
  exact ⟨hdrifts.booked, hdrifts.displays, hdrifts.recalls.distinct, hdrifts.recalls.applied, nofun⟩

variable {r : Rig} {report : Report}

lemma sources_draw (layers : List Layer) (cues : List CueTask) (hr : s.preview.rig.Drifts r)
    (hstill : r.host.playhead = report.frame) (hframe : report.frame = s.preview.playhead) :
    (s.draw r report layers cues).preview.sources = s.preview.sources := by
  have hplayhead : (r.stage report.frame layers).host.playhead = s.preview.playhead := by
    rw [Rig.playhead_stage, hstill, hframe]
  have hviewport : (r.stage report.frame layers).compositor.config.viewport =
      s.preview.compositor.config.viewport := by
    rw [Rig.config_stage, hr.compositor]
    rfl
  have hsources : (s.draw r report layers cues).preview.sources = { s.preview.sources with
      frame := (r.stage report.frame layers).host.playhead
      viewport := (r.stage report.frame layers).compositor.config.viewport } := rfl
  rw [hsources, hplayhead, hviewport]
  rfl

lemma draw {pass : Pass} (h : s.Orderly l) (cues : List CueTask)
    (hr : s.preview.rig.Drifts r) (hstill : r.host.playhead = report.frame)
    (hframe : report.frame = s.preview.playhead) (hn : (pass.layers.map (·.clip)).Nodup)
    (hmakes : pass.Makes ⟨s.scene, r.stage report.frame pass.layers, report, pass.layers⟩)
    (hmade : pass.sources = s.preview.sources) :
    (s.draw r report pass.layers cues).Orderly
      (l.note s (s.draw r report pass.layers cues) (.ok (some (.applied report)))) := by
  have hdrifts := h.drifts hr cues
  have hbatch : r.compositor.config.batchWrites = true := hdrifts.displays.batch
  obtain ⟨hdisplays, hstaged⟩ := hdrifts.displays.stage report.frame
    (p := ⟨s.scene, r.stage report.frame pass.layers, report, pass.layers⟩) hn
  have hsources := sources_draw pass.layers cues hr hstill hframe
  have hnote : l.note s (s.draw r report pass.layers cues) (.ok (some (.applied report))) =
      { l with
        picture := some ⟨s.scene, r.stage report.frame pass.layers, report, pass.layers⟩
        rested := some s.preview.sources } := by
    have htree : (s.draw r report pass.layers cues).preview.compositor.tree.staged =
        some (report.frame, pass.layers) := hstaged
    simp only [Ledger.note, hsources, htree, Option.elim_some]
    rfl
  rw [hnote]
  -- What is remembered from now on is of the new picture, and so is what is on record.
  refine ⟨hdrifts.booked.stage hbatch _ _, hdisplays, h.recalls.distinct,
    fun inputs hinputs => ⟨_, pass, rfl, hmakes, ?_⟩,
    fun sources hrested => ⟨_, pass, rfl, hmakes, ?_⟩⟩
  · obtain rfl : { s.preview.inputs with frame := report.frame } = inputs := Option.some.inj hinputs
    have hviewport : (s.draw r report pass.layers cues).preview.compositor.config.viewport =
        s.preview.compositor.config.viewport := congrArg (·.viewport) hsources
    rw [hmade, hviewport, hframe]
    rfl
  · obtain rfl : s.preview.sources = sources := Option.some.inj hrested
    rw [hmade]
    exact ⟨rfl, rfl, rfl, rfl, .inl rfl⟩

/-- **A refresh.** -/
lemma refresh (h : s.Orderly l) (returns : s.Returns) :
    s.refresh.1.Orderly (l.note s s.refresh.1 s.refresh.2) := by
  rcases returns.refresh_cases with ⟨hcurrent, hrefresh⟩ | ⟨-, result, hresult, hrefresh⟩
  · rw [hrefresh]
    exact h.skip hcurrent
  · rw [hrefresh]
    obtain ⟨answers, hstands⟩ := (Scene.lasts_evaluate hresult).stands
    change (Pass.Point.step (.ended result)).Stands s.preview.rig _ _ _ s.evaluated.rig at hstands
    rcases result with e | (report | ⟨frame, current⟩)
    · exact h.fail hstands
    · obtain ⟨pass, answers, r, ⟨hsnapshot, hassets, hplayback, hviewport⟩, hmakes, hrig,
        hstages⟩ := Pass.exists_makes hresult
      have hframe : pass.frame = s.preview.playhead := hmakes.frame.symm.trans hstages.frame
      have hmade : pass.sources = s.preview.sources := by
        rw [Pass.sources, hframe, hsnapshot, hassets, hplayback, hviewport]
        rfl
      rw [hrig] at hmakes
      have hdraw := h.draw s.evaluated.cues hstages.drifts hstages.still hstages.frame
        (hstages.nodup_clips h.recalls.distinct) hmakes hmade
      have hsession : (s.ofScene s.evaluated).modify (fun p => p.remember s.preview.inputs
          (.ok (.applied report))) = s.draw r report pass.layers s.evaluated.cues := by
        rw [Session.draw, ← hrig]
        rfl
      rw [hsession]
      exact hdraw
    · exact h.fail hstands

end Orderly

/-- **Any number of steps.** -/
lemma Hosted.orderly {s : Session} {l : Ledger} (h : Hosted s l) : s.Orderly l := by
  induction h with
  | @new config backend snapshot assets batch distinct =>
    have hsound : Outlet.Sound {} := ⟨fun _ => .none, nofun⟩
    have hshown : ∀ p : Picture, none ≠ some p := fun p => (Option.some_ne_none p).symm
    exact ⟨⟨nofun, nofun, nofun⟩, ⟨batch, hsound, nofun, fun _ p hp => absurd hp (hshown p)⟩,
      ⟨distinct, nofun, nofun⟩⟩
  | command _ ok ih => exact ih.spares (Transport.spares_obey ok)
  | timeline _ distinct ok ih => exact ih.timeline distinct ok
  | assets _ assets ih => exact ⟨ih.booked, ih.displays, ih.recalls.forget ih.recalls.distinct rfl⟩
  | viewport _ v ih =>
    exact ⟨⟨ih.booked.issued, ih.booked.flush, ih.booked.staged⟩, ih.displays.congr rfl rfl,
      ih.recalls.forget ih.recalls.distinct rfl⟩
  | @playhead s _ _ frame ih => exact ih.drifts ((Rig.Drifts.refl _).movePlayhead frame) s.cues
  | @pool s _ _ f ih => exact ih.drifts ((Rig.Drifts.refl _).modifyPool f) s.cues
  | give _ cues ih => exact ih.drifts (CueTask.drifts_startAll _ cues) _
  | finishCues _ ih => exact ih.drifts ((Orderly.idles _).runUntil _).rig _
  | settle _ ih => exact ih.ofScene (Orderly.idles _).settle
  | sleepUntil _ due ih => exact ih.ofScene ((Orderly.idles _).sleepUntil due)
  | take _ ih => exact ih.take
  | deliver _ id timestamp advanced returns ih =>
    rw [callback_of_advanced advanced]
    exact (ih.called id timestamp).refresh returns
  | refresh _ returns ih => exact ih.refresh returns

/-- **A preview at rest.** Whatever a preview goes through, a callback is on its way for layers that
are staged. When the last refresh was skipped or applied, and things are as they were then, the
picture that was staged last is the work of a pass over the present frame and timeline, with the
present assets and the settings of the transport as they are, and its layers are those of clips as
they are seen there. And when no callback is pending and all that were taken have been delivered,
nothing is staged, and the output shows this picture. -/
theorem shows_current_at_rest {s : Session} {l : Ledger} (h : Hosted s l) :
    (∀ frame layers, s.preview.compositor.tree.staged = some (frame, layers) →
      ∃ id, s.preview.compositor.pendingFlush = some id ∧
        (id ∈ s.requests.pending ∨ id ∈ l.taken)) ∧
    (l.rested = some s.preview.sources → ∃ (picture : Picture) (pass : Pass),
      l.picture = some picture ∧ pass.Makes picture ∧ pass.IsOf s.preview ∧
      picture.report.frame = s.preview.playhead ∧
      picture.report.revision = s.preview.snapshot.revision ∧
      (s.requests.pending = [] → l.taken = [] →
        s.preview.compositor.tree.staged = none ∧
          s.preview.compositor.target.Holds pass.layers)) := by
  have horderly := h.orderly
  have hway : ∀ frame layers, s.preview.compositor.tree.staged = some (frame, layers) →
      ∃ id, s.preview.compositor.pendingFlush = some id ∧
        (id ∈ s.requests.pending ∨ id ∈ l.taken) := by
    intro frame layers hstaged
    obtain ⟨id, hid⟩ := Option.isSome_iff_exists.mp
      (horderly.booked.staged (Option.isSome_iff_exists.mpr ⟨_, hstaged⟩))
    obtain ⟨-, -, hid'⟩ := horderly.booked.flush id hid
    exact ⟨id, hid, hid'⟩
  refine ⟨hway, fun hrested => ?_⟩
  obtain ⟨picture, pass, hpicture, hmakes, hsame⟩ := horderly.recalls.rested _ hrested
  have hof : pass.IsOf s.preview := hmakes.isOf hsame
  refine ⟨picture, pass, hpicture, hmakes, hof, hmakes.frame.trans hof.frame,
    hmakes.reported.trans hof.revision, fun hpending htaken => ?_⟩
  have hstaged : s.preview.compositor.tree.staged = none := by
    by_contra hne
    obtain ⟨⟨frame, layers⟩, hstaged⟩ := Option.ne_none_iff_exists'.mp hne
    obtain ⟨id, -, hid⟩ := hway frame layers hstaged
    rw [hpending, htaken] at hid
    simp at hid
  have hfollows := horderly.displays.shown hstaged picture hpicture
  rw [hmakes.layers] at hfollows
  exact ⟨hstaged, horderly.displays.sound.holds hfollows⟩

/-- The first shot is to be played at twice the speed. -/
def shotsFast : Session :=
  (shots.modify fun p => { p with transport := { p.transport with rate := 2.0 } }).modify fun p =>
    { p with transport := p.transport.play }

/-- It is shown while it plays. -/
def shotsFastShown : Session := shotsFast.refresh.1

def shotsPaused : Session :=
  shotsFastShown.modify fun p => { p with transport := shotsFastShown.preview.transport.pause }

/-- The host takes the request for the picture. -/
def shotsTaken : Session :=
  shotsPaused.modify fun p => p.modifyTransport fun t => { t with host := t.host.take.2 }

/-- The picture is written, and another is staged, since playback is paused by now. -/
def shotsFlushed : Session := (shotsTaken.callback 2 0.0).1

/-- The host takes the request for that one as well. -/
def shotsTakenAgain : Session :=
  shotsFlushed.modify fun p => p.modifyTransport fun t => { t with host := t.host.take.2 }

def shotsRest : Session := (shotsTakenAgain.callback 3 0.0).1

lemma hosted_shotsFast : Hosted shotsFast {} := by
  have hdistinct : Snapshot.shots.DistinctClips := Snapshot.distinctClips_ofClips _ _ _
  have hnew : Hosted shots {} := .new _ _ _ rfl hdistinct
  have hrate : shots.preview.transport.setRate 2.0 =
      .ok { shots.preview.transport with rate := 2.0 } :=
    Transport.setRate_of_clamp (by decide +kernel) (by decide +kernel) (by decide +kernel)
  exact (hnew.command (c := .setRate 2.0) hrate).command (c := .play) rfl

lemma hosted_shotsFastShown : ∃ report, Hosted shotsFastShown
    (({} : Ledger).note shotsFast shotsFastShown (.ok (some (.applied report)))) := by
  obtain ⟨report, happlied⟩ := applied_of_isApplied (s := shotsFast) (by decide +kernel)
  have hhosted := hosted_shotsFast.refresh (.inr (by decide +kernel))
  rw [happlied] at hhosted
  exact ⟨report, hhosted⟩

lemma hosted_shotsTaken : ∃ l : Ledger, l.taken = [2] ∧ Hosted shotsTaken l := by
  obtain ⟨_, hhosted⟩ := hosted_shotsFastShown
  have hpaused : Hosted shotsPaused _ := hhosted.command (c := .pause) rfl
  have hpending : shotsPaused.requests.pending = [2] := by decide +kernel
  exact ⟨_, congrArg ([] ++ ·) hpending, hpaused.take⟩

lemma callback_of_stopped {s : Session} (h : s.preview.transport.state ≠ .playing) (id : RequestId)
    (timestamp : Float) : (s.preview.transport.callback id timestamp).2 = .ok 0 := by
  simp [Transport.callback, h]

lemma hosted_shotsFlushed : ∃ (l : Ledger) (report : Report), l.taken = [] ∧
    Hosted shotsFlushed
      (l.note (shotsTaken.called 2 0.0) shotsFlushed (.ok (some (.applied report)))) := by
  obtain ⟨l, htaken, hhosted⟩ := hosted_shotsTaken
  have hadvanced := callback_of_stopped (s := shotsTaken) (by decide +kernel) 2 0.0
  obtain ⟨report, happlied⟩ := applied_of_isApplied (s := shotsTaken.called 2 0.0)
    (by decide +kernel)
  have hdelivered := hhosted.deliver 2 0.0 hadvanced (.inr (by decide +kernel))
  rw [callback_of_advanced hadvanced, happlied, ← callback_of_advanced hadvanced] at hdelivered
  refine ⟨{ l with taken := l.taken.filter (· != 2) }, report, ?_, hdelivered⟩
  rw [htaken]
  rfl

/-- The second picture is not made anew when its request is delivered. -/
lemma hosted_shotsRest : ∃ (l : Ledger) (picture : Picture), Hosted shotsRest l ∧ l.taken = [] ∧
    l.rested = some shotsRest.preview.sources ∧ l.picture = some picture ∧
    picture.after = shotsFlushed.preview.rig ∧
    picture.layers = shotsFlushed.preview.compositor.tree.staged.elim [] (·.2) := by
  obtain ⟨l, report, htaken, hhosted⟩ := hosted_shotsFlushed
  have hadvanced := callback_of_stopped (s := shotsTakenAgain) (by decide +kernel) 3 0.0
  have hcurrent : (shotsTakenAgain.called 3 0.0).preview.isCurrent = true := by decide +kernel
  have hskipped : (shotsTakenAgain.callback 3 0.0).2 = .ok none := by
    rw [callback_of_advanced hadvanced, refresh_of_current hcurrent]
  have htakenAgain : Hosted shotsTakenAgain _ := hhosted.take
  have hdelivered : Hosted shotsRest _ := htakenAgain.deliver 3 0.0 hadvanced (.inl hcurrent)
  rw [hskipped] at hdelivered
  refine ⟨_, _, hdelivered, ?_, rfl, rfl, rfl, rfl⟩
  have hpending : shotsFlushed.requests.pending = [3] := by decide +kernel
  change ((l.note _ _ _).taken ++ shotsFlushed.requests.pending).filter (· != 3) = []
  rw [Ledger.taken_note, htaken, hpending]
  rfl

/-- The first shot is shown at twice the speed. When playback has been paused and all callbacks have
been delivered, it is on the output as it is paused. -/
theorem shows_current_at_rest_shots :
    (∃ (picture : Picture) (pass : Pass), pass.Makes picture ∧
      picture.before = shotsFast.scene ∧ picture.after = shotsFastShown.preview.rig ∧
      pass.frame = 0 ∧ pass.playback.isPlaying = true ∧ (pass.playback.rate == 2.0) = true ∧
      (picture.after.pool.element 0).isPaused = false ∧
      ((picture.after.pool.element 0).rate == 2.0) = true) ∧
    ∃ (picture : Picture) (pass : Pass), pass.Makes picture ∧
      picture.after = shotsFlushed.preview.rig ∧ pass.frame = 0 ∧
      pass.playback.isPlaying = false ∧ (pass.playback.rate == 2.0) = true ∧
      (picture.after.pool.element 0).isPaused = true ∧ pass.layers.map (·.slot) = [some 0] ∧
      shotsRest.preview.compositor.tree.staged = none ∧
      shotsRest.preview.compositor.target.Holds pass.layers := by
  have htwo : ((2.0 : Float) == 2.0) = true := by decide +kernel
  constructor
  · obtain ⟨report, hhosted⟩ := hosted_shotsFastShown
    have hpresent : shotsFastShown.preview.playhead = 0 ∧
        shotsFastShown.preview.transport.state = .playing ∧
        shotsFastShown.preview.transport.rate = 2.0 := by
      decide +kernel
    have helement : (shotsFastShown.preview.rig.pool.element 0).isPaused = false ∧
        ((shotsFastShown.preview.rig.pool.element 0).rate == 2.0) = true := by
      decide +kernel
    obtain ⟨-, hrest⟩ := shows_current_at_rest hhosted
    obtain ⟨picture, pass, hpicture, hmakes, hof, -⟩ := hrest rfl
    obtain rfl : _ = picture := Option.some.inj hpicture
    exact ⟨_, pass, hmakes, rfl, rfl, hof.frame.trans hpresent.1, hof.isPlaying.mpr hpresent.2.1,
      hof.rate_beq hpresent.2.2 htwo, helement⟩
  · obtain ⟨l, _, hhosted, htaken, hrested, hrecord, hafter, hlayers⟩ := hosted_shotsRest
    have hpresent : shotsRest.preview.playhead = 0 ∧
        shotsRest.preview.transport.state ≠ .playing ∧
        shotsRest.preview.transport.rate = 2.0 ∧ shotsRest.requests.pending = [] := by
      decide +kernel
    have hpaused : (shotsFlushed.preview.rig.pool.element 0).isPaused = true := by decide +kernel
    have hslots : (shotsFlushed.preview.compositor.tree.staged.elim [] (·.2)).map (·.slot) =
        [some 0] := by
      decide +kernel
    obtain ⟨-, hrest⟩ := shows_current_at_rest hhosted
    obtain ⟨picture, pass, hpicture, hmakes, hof, -, -, hoff⟩ := hrest hrested
    obtain rfl := Option.some.inj (hrecord.symm.trans hpicture)
    have hplaying : pass.playback.isPlaying = false :=
      Bool.eq_false_iff.mpr fun hplays => hpresent.2.1 (hof.isPlaying.mp hplays)
    obtain ⟨hstaged, hholds⟩ := hoff hpresent.2.2.2 htaken
    rw [← hlayers, hmakes.layers] at hslots
    rw [← hafter] at hpaused
    exact ⟨_, pass, hmakes, hafter, hof.frame.trans hpresent.1, hplaying,
      hof.rate_beq hpresent.2.2.1 htwo, hpaused, hslots, hstaged, hholds⟩

end Session

end Montage
