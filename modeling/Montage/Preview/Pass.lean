import Montage.Preview.Compositor
import Montage.Timeline.Active
import Montage.Timeline.Upcoming

/-!
One evaluation of a frame. A pass resolves the clips under the playhead, gets an element for each
clip that needs one, and stages the layers.

Getting an element may take time. When the playhead has moved in the meantime the pass ends without
effect on the output. A clip that cannot be shown is left out and reported; the others are shown.
-/

namespace Montage

structure ClipFailure where
  clip : ClipId
  asset : AssetId
  error : MediaError

/-- What an evaluation has done. -/
structure Report where
  frame : Frame
  revision : UInt64
  /-- Layers staged. -/
  layers : Nat := 0
  /-- Elements with sound brought in line with the transport. -/
  audible : Nat := 0
  failures : List ClipFailure := []
  /-- Clips whose picture may be an earlier one. -/
  stale : List ClipId := []
  violations : List Violation := []
  /-- Loads in advance that were started. -/
  preloads : Nat := 0

inductive Evaluation where
  | applied (report : Report)
  /-- The playhead went from `frame` to `current`. -/
  | superseded (frame current : Frame)

/-- A clip of the frame with its place in the stack. -/
structure PassItem where
  zIndex : Nat
  active : ActiveClip

/-- An evaluation under way. -/
structure Pass where
  snapshot : Snapshot
  assets : AssetTable
  playback : PlaybackState
  viewport : Viewport
  report : Report
  /-- Bottom first. -/
  layers : List Layer := []
  activeAssets : List AssetId := []
  /-- Slots handed out in this pass. -/
  pinned : List Nat := []

/-- Where a pass stands: it waits for an element for one clip, with others still to come, or it is
over. -/
inductive Pass.Step where
  | waits (pass : Pass) (item : PassItem) (asset : MediaAsset) (rest : List PassItem)
  | ended (result : Except PreviewError Evaluation)

/-- Whether clips of a track are silent. -/
def PlaybackState.isMutedOn (p : PlaybackState) (track : Track) : Bool := p.muted || track.muted

namespace Pass

def frame (p : Pass) : Frame := p.report.frame

/-- A pass over the frame under the playhead, and its clips. -/
def start (r : Rig) (snapshot : Snapshot) (assets : AssetTable) (playback : PlaybackState) :
    Pass × List PassItem :=
  let active := snapshot.activeAt r.host.playhead
  ({ snapshot, assets, playback
     viewport := r.compositor.config.viewport
     report := {
       frame := r.host.playhead
       revision := snapshot.revision
       violations := active.violations } },
    active.clips.mapIdx fun z a => ⟨z, a⟩)

def fail (p : Pass) (item : PassItem) (error : MediaError) : Pass :=
  { p with report := { p.report with
      failures := p.report.failures ++ [⟨item.active.clip.id, item.active.clip.asset, error⟩] } }

/-- The layer of a clip, if it is to be seen. -/
def addLayer (p : Pass) (item : PassItem) (asset : MediaAsset) (slot : Option Nat) : Pass :=
  if asset.isVisual then
    let clip := item.active.clip
    let style := LayerStyle.project (clip.visualAt p.frame) p.viewport (stackIndex item.zIndex)
      (clip.isAnimatingAt p.frame)
    { p with layers := p.layers ++ [⟨clip.id, clip.asset, slot, style⟩] }
  else p

/-- Brings the element of a clip in line with the transport and, for sound, with the track. -/
def sync (p : Pass) (item : PassItem) (asset : MediaAsset) (e : Element) (now : Nat) :
    Element × Except MediaError Unit :=
  let e := if asset.carriesAudio then
      e.setGain p.playback.volume (p.playback.isMutedOn item.active.track)
    else e
  e.follow now p.playback.isPlaying p.playback.rate

/-- A clip has got its element. -/
def serve (r : Rig) (p : Pass) (item : PassItem) (asset : MediaAsset) (h : Handle) : Rig × Pass :=
  let clip := item.active.clip.id
  let p := { p with
    pinned := h.slot :: p.pinned
    report := { p.report with stale := p.report.stale ++ if h.stale then [clip] else [] } }
  let (e, synced) := p.sync item asset (r.pool.element h.slot) r.pool.now
  let r := r.modifyPool fun pool => pool.modifyElement h.slot fun _ => e
  let p := match synced with
    | .ok () =>
      if asset.carriesAudio then
        { p with report := { p.report with audible := p.report.audible + 1 } }
      else p
    | .error err => p.fail item err
  (r, p.addLayer item asset (some h.slot))

/-- Pauses what is not needed, loads what soon will be, and stages the layers. -/
def finish (r : Rig) (p : Pass) : Rig × Report :=
  let r := r.modifyPool fun pool => pool.pauseExcept p.activeAssets
  let upcoming := p.snapshot.upcoming p.frame r.compositor.config.preloadHorizon
  let (preloads, pool) := r.pool.preload upcoming p.assets
  let r := r.modifyPool fun _ => pool
  (r.stage p.frame p.layers, { p.report with preloads, layers := p.layers.length })

/-- The element for a clip is there, or it will not come. -/
def receive (r : Rig) (p : Pass) (item : PassItem) (asset : MediaAsset)
    (result : Except MediaError Handle) : Rig × (Pass ⊕ Except PreviewError Evaluation) :=
  if r.host.playhead = p.frame then
    match result with
    | .ok h =>
      let (r, p) := p.serve r item asset h
      (r, .inl p)
    | .error .disposed => (r, .inr (.error .disposed))
    | .error e => (r, .inl (p.fail item e))
  else (r, .inr (.ok (.superseded p.frame r.host.playhead)))

/-- Goes through clips as far as no waiting is needed. -/
def run (r : Rig) (p : Pass) : List PassItem → Rig × Step
  | [] =>
    let (r, report) := p.finish r
    (r, .ended (.ok (.applied report)))
  | item :: rest =>
    match p.assets.find? item.active.clip.asset with
    | none => run r (p.fail item (.unknownAsset item.active.clip.asset)) rest
    | some asset =>
      let p := { p with activeAssets := asset.id :: p.activeAssets }
      if asset.needsElement then
        match p.snapshot.rate.secondsOf item.active.sourceFrame with
        | .error f => (r, .ended (.error (.core (.fault f))))
        | .ok target =>
          let request : Request := ⟨asset, target, p.playback.isPlaying, p.pinned⟩
          let r := r.modifyPool fun pool => (pool.take TaskId.main request).resume TaskId.main
          match r.pool.result? TaskId.main with
          | none => (r, .waits p item asset rest)
          | some result =>
            let r := r.modifyPool fun pool => pool.forget TaskId.main
            match p.receive r item asset result with
            | (r, .inl p) => run r p rest
            | (r, .inr result) => (r, .ended result)
      else run r (p.addLayer item asset none) rest

/-- Goes on after a wait. -/
def resume (r : Rig) : Step → Rig × Step
  | .ended result => (r, .ended result)
  | .waits p item asset rest =>
    let r := r.modifyPool fun pool => pool.resume TaskId.main
    match r.pool.result? TaskId.main with
    | none => (r, .waits p item asset rest)
    | some result =>
      let r := r.modifyPool fun pool => pool.forget TaskId.main
      match p.receive r item asset result with
      | (r, .inl p) => run r p rest
      | (r, .inr result) => (r, .ended result)

end Pass

/-- Starts to evaluate the frame under the playhead. -/
def Rig.evaluate (r : Rig) (snapshot : Snapshot) (assets : AssetTable) (playback : PlaybackState) :
    Rig × Pass.Step :=
  if r.compositor.disposed then (r, .ended (.error .disposed))
  else if !snapshot.rate.isValid then (r, .ended (.error (.core (.rateTerms snapshot.rate))))
  else
    let (pass, items) := Pass.start r snapshot assets playback
    pass.run r items

end Montage
