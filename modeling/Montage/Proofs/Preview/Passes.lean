import Montage.Preview.Pass
import Montage.Proofs.Pool.Background

/-!
A pass from one wait to the next.

While a pass waits, the playhead may move and the pool has work of its own in the background. What
the pass has collected so far stays good all the same: the slots that it has given to layers are
pinned, and show what they were given for.
-/

namespace Montage

/-- The slot of a layer, if it has one, is prepared and bound to the asset of the layer. -/
def Layer.IsOwn (pool : Pool) (l : Layer) : Prop := ∀ i, l.slot = some i → pool.Shows i l.asset

@[simp] lemma Rig.pool_modifyPool (r : Rig) (f : Pool → Pool) : (r.modifyPool f).pool = f r.pool :=
  rfl

/-- The compositor differs from an earlier one in the pool only, and nobody else has made a
request in the meantime. -/
structure Rig.Kept (c : Compositor) (r : Rig) : Prop where
  same : r.compositor = { c with pool := r.pool }
  ordered : r.pool.Ordered
  requests : ∀ t ≠ TaskId.main, ∀ q stage, r.pool.work? t = some (.request q stage) →
    c.pool.work? t = some (.request q stage)

namespace Rig.Kept

variable {c : Compositor} {r : Rig}

lemma modifyPool {f : Pool → Pool} (h : r.Kept c) (ho : (f r.pool).Ordered)
    (hf : ∀ t ≠ TaskId.main, ∀ q stage, (f r.pool).work? t = some (.request q stage) →
      r.pool.work? t = some (.request q stage)) : (r.modifyPool f).Kept c where
  same := by
    have hsame := h.same
    simp only [Rig.modifyPool, Compositor.modifyPool, Rig.pool] at hsame ⊢
    rw [hsame]
  ordered := ho
  requests t ht q stage hw := h.requests t ht q stage (hf t ht q stage hw)

lemma background {e : Pool.Event} (h : r.Kept c) (he : e.Background r.pool) :
    (r.modifyPool fun pool => e.apply pool).Kept c := by
  refine h.modifyPool (he.ordered h.ordered) fun t _ q stage hw => ?_
  rcases he.follows h.ordered t with hsame | ⟨⟨w, stage', hwarm⟩, -⟩
  · exact hsame ▸ hw
  · simp [hwarm] at hw

lemma host (h : r.Kept c) (host : Host) : Kept c { r with host } := ⟨h.same, h.ordered, h.requests⟩

end Rig.Kept

namespace Pass

variable {c : Compositor} {r : Rig} {p : Pass} {item : PassItem} {asset : MediaAsset}
  {rest : List PassItem}

/-- The layers so far have slots of their own, which are pinned. -/
def Backed (p : Pass) (pool : Pool) : Prop :=
  ∀ l ∈ p.layers, ∀ i, l.slot = some i → i ∈ p.pinned ∧ pool.Shows i l.asset

lemma Backed.mono {pool pool' : Pool} (h : p.Backed pool)
    (hq : ∀ i ∈ p.pinned, ∀ a, pool.Shows i a → pool'.Shows i a) : p.Backed pool' := by
  intro l hl i hi
  obtain ⟨hpinned, hshows⟩ := h l hl i hi
  exact ⟨hpinned, hq i hpinned _ hshows⟩

lemma Backed.background {e : Pool.Event} {pool : Pool} (h : p.Backed pool) (ho : pool.Ordered)
    (he : e.Background pool) : p.Backed (e.apply pool) :=
  h.mono fun _ _ _ hs => he.shows ho hs

lemma Backed.addLayer {pool : Pool} {slot : Option Nat} (h : p.Backed pool)
    (hs : ∀ i, slot = some i → i ∈ p.pinned ∧ pool.Shows i item.active.clip.asset) :
    (p.addLayer item asset slot).Backed pool := by
  unfold Pass.addLayer
  split
  · intro l hl i hi
    rcases List.mem_append.mp hl with hl | hl
    · exact h l hl i hi
    · rw [List.mem_singleton.mp hl] at hi ⊢
      exact hs i hi
  · exact h

/-- The clips that have a layer, and those still to come. -/
def places (p : Pass) (items : List PassItem) : List ClipId :=
  p.layers.map (·.clip) ++ items.map (·.active.clip.id)

lemma places_sublist_cons (p : Pass) (item : PassItem) (rest : List PassItem) :
    (p.places rest).Sublist (p.places (item :: rest)) :=
  (List.sublist_cons_self _ _).append_left _

lemma places_addLayer (p : Pass) (item : PassItem) (asset : MediaAsset) (slot : Option Nat)
    (rest : List PassItem) :
    ((p.addLayer item asset slot).places rest).Sublist (p.places (item :: rest)) := by
  unfold Pass.addLayer
  split
  · simp [places]
  · exact p.places_sublist_cons item rest

/-- A pass between two clips, of which some are still to come. -/
structure Safe (c : Compositor) (all : List ClipId) (r : Rig) (p : Pass)
    (items : List PassItem) : Prop where
  kept : r.Kept c
  idle : r.pool.work? .main = none
  backed : p.Backed r.pool
  placed : (p.places items).Sublist all

/-- A pass that waits for the element of a clip. -/
structure Awaits (c : Compositor) (all : List ClipId) (r : Rig) (p : Pass) (item : PassItem)
    (asset : MediaAsset) (rest : List PassItem) : Prop where
  kept : r.Kept c
  backed : p.Backed r.pool
  placed : (p.places (item :: rest)).Sublist all
  own : asset.id = item.active.clip.asset
  asked : ∃ target stage, r.pool.work? .main =
    some (.request ⟨asset, target, p.playback.isPlaying, p.pinned⟩ stage) ∧
      ∀ result, stage ≠ .done result

/-- The compositor has staged layers of different places that are their own. -/
def Applied (c : Compositor) (all : List ClipId) (r : Rig) (report : Report) : Prop :=
  ∃ (r' : Rig) (layers : List Layer), (r'.Kept c ∧ r'.pool.work? .main = none) ∧
    r = r'.stage report.frame layers ∧ layers.length = report.layers ∧
      (layers.map (·.clip)).Sublist all ∧ ∀ l ∈ layers, l.IsOwn r'.pool

/-- What holds wherever a pass stands. -/
def Step.Fine (c : Compositor) (all : List ClipId) (r : Rig) : Step → Prop
  | waits p item asset rest => p.Awaits c all r item asset rest
  | ended (.ok (.applied report)) => Applied c all r report
  | ended _ => r.Kept c ∧ r.pool.work? .main = none

variable {all : List ClipId} {items : List PassItem}

lemma Safe.background {e : Pool.Event} (h : p.Safe c all r items) (he : e.Background r.pool) :
    p.Safe c all (r.modifyPool fun pool => e.apply pool) items where
  kept := h.kept.background he
  idle := by
    have hmain := he.work?_main h.kept.ordered (by simp [h.idle])
    exact hmain.trans h.idle
  backed := h.backed.background h.kept.ordered he
  placed := h.placed

lemma Awaits.background {e : Pool.Event} (h : p.Awaits c all r item asset rest)
    (he : e.Background r.pool) :
    p.Awaits c all (r.modifyPool fun pool => e.apply pool) item asset rest where
  kept := h.kept.background he
  backed := h.backed.background h.kept.ordered he
  placed := h.placed
  own := h.own
  asked := by
    obtain ⟨target, stage, hw, hs⟩ := h.asked
    have hmain := he.work?_main h.kept.ordered (by simp [hw])
    exact ⟨target, stage, hmain.trans hw, hs⟩

lemma Safe.take (h : p.Safe c all r (item :: rest)) (own : asset.id = item.active.clip.asset)
    (target : Float) : p.Awaits c all (r.modifyPool fun pool => pool.take TaskId.main
      ⟨asset, target, p.playback.isPlaying, p.pinned⟩) item asset rest := by
  have hwork := fun t => Pool.work?_append (p := r.pool) (q := r.pool.take TaskId.main
    ⟨asset, target, p.playback.isPlaying, p.pinned⟩) rfl t
  have hcall := Pool.Event.course (.call ⟨asset, target, p.playback.isPlaying, p.pinned⟩)
    h.kept.ordered
  simp only [Pool.Event.apply, h.idle, Option.isNone_none, if_true] at hcall
  obtain ⟨-, ⟨-, hordered⟩, -⟩ := hcall
  refine ⟨h.kept.modifyPool hordered fun t ht q stage hw => ?_,
    h.backed.mono fun i _ a hs => hs, h.placed, own, target, .unstarted, ?_, by simp⟩
  · rw [hwork, if_neg ht, Option.or_none] at hw
    exact hw
  · show (r.pool.take _ _).work? _ = _
    rw [hwork, h.idle]
    rfl

/-- The request is carried on. Either the pass still waits, or the request is over; then the pass
goes on, and a handle shows the asset. -/
lemma Awaits.resume (h : p.Awaits c all r item asset rest) :
    let pool := r.pool.resume TaskId.main
    (pool.result? .main = none → p.Awaits c all (r.modifyPool fun _ => pool) item asset rest) ∧
      ∀ result, pool.result? .main = some result →
        p.Safe c all (r.modifyPool fun _ => pool.forget TaskId.main) (item :: rest) ∧
          ∀ h, result = .ok h → pool.Shows h.slot asset.id := by
  intro pool
  obtain ⟨target, stage, hw, hs⟩ := h.asked
  obtain ⟨hordered, hpinned, ⟨⟨stage', hw'⟩, hothers⟩, hhandle⟩ :=
    Pool.resume_request h.kept.ordered hw hs
  have hbacked := h.backed.mono hpinned
  refine ⟨fun hnone => ⟨?_, hbacked, h.placed, h.own, target, stage', hw', ?_⟩,
    fun result hresult => ⟨⟨?_, ?_, hbacked, h.placed⟩, ?_⟩⟩
  · refine h.kept.modifyPool hordered fun t ht q stage hq => ?_
    rw [hothers t ht] at hq
    exact hq
  · rintro result rfl
    simp [Pool.result?, pool, hw'] at hnone
  · have hover : pool.isOver .main = true := by
      simp [Pool.isOver, hresult]
    have hcollect := Pool.Event.course (.collect TaskId.main) hordered
    simp only [Pool.Event.apply] at hcollect
    rw [if_pos hover] at hcollect
    obtain ⟨-, ⟨-, hforget⟩, -⟩ := hcollect
    refine h.kept.modifyPool hforget fun t ht q stage hq => ?_
    rw [Pool.work?_forget, if_neg ht, hothers t ht] at hq
    exact hq
  · simp [Pool.work?_forget]
  · rintro hd rfl
    exact hhandle hd hresult

lemma Safe.fail (h : p.Safe c all r (item :: rest)) (error : MediaError) :
    (p.fail item error).Safe c all r rest :=
  ⟨h.kept, h.idle, h.backed, (p.places_sublist_cons item rest).trans h.placed⟩

lemma Safe.serve {hd : Handle} (h : p.Safe c all r (item :: rest))
    (own : asset.id = item.active.clip.asset) (hs : r.pool.Shows hd.slot asset.id) :
    (p.serve r item asset hd).2.Safe c all (p.serve r item asset hd).1 rest := by
  have hbacked : ∀ (q : Pass) (f : Element → Element), q.layers = p.layers →
      q.pinned = hd.slot :: p.pinned →
        (q.addLayer item asset (some hd.slot)).Backed (r.pool.modifyElement hd.slot f) := by
    intro q f hlayers hpinned
    have hagrees := r.pool.agrees_modifyElement hd.slot f
    refine Backed.addLayer (fun l hl i hi => ?_) fun i hi => ?_
    · obtain ⟨hmem, hshows⟩ := h.backed l (hlayers ▸ hl) i hi
      exact ⟨hpinned ▸ List.mem_cons_of_mem _ hmem, hshows.of_slot (hagrees.slot i)⟩
    · cases hi
      exact ⟨hpinned ▸ List.mem_cons_self, own ▸ hs.of_slot (hagrees.slot _)⟩
  have hplaced : ∀ q : Pass, q.layers = p.layers →
      ((q.addLayer item asset (some hd.slot)).places rest).Sublist all := by
    intro q hlayers
    refine (q.places_addLayer item asset (some hd.slot) rest).trans ?_
    rw [places, hlayers]
    exact h.placed
  unfold Pass.serve
  dsimp only
  refine ⟨?_, h.idle, ?_, ?_⟩
  · exact h.kept.modifyPool (h.kept.ordered.modifyElement _ _) fun _ _ _ _ hw => hw
  · rw [Rig.pool_modifyPool]
    split
    · split
      · refine hbacked _ _ ?_ ?_ <;> rfl
      · refine hbacked _ _ ?_ ?_ <;> rfl
    · refine hbacked _ _ ?_ ?_ <;> rfl
  · refine hplaced _ ?_
    split
    · split <;> rfl
    · rfl

lemma Safe.receive (h : p.Safe c all r (item :: rest)) {result : Except MediaError Handle}
    (own : asset.id = item.active.clip.asset)
    (hs : ∀ hd, result = .ok hd → r.pool.Shows hd.slot asset.id) :
    (∃ r' p', p.receive r item asset result = (r', .inl p') ∧ p'.Safe c all r' rest) ∨
      ∃ result', p.receive r item asset result = (r, .inr result') ∧
        ∀ report, result' ≠ .ok (.applied report) := by
  unfold Pass.receive
  split
  · rcases result with (e | hd)
    · by_cases he : e = .disposed
      · subst he
        exact .inr ⟨_, rfl, by simp⟩
      · refine .inl ⟨r, p.fail item e, ?_, h.fail e⟩
        cases e <;> simp at he ⊢
    · exact .inl ⟨_, _, rfl, h.serve own (hs hd rfl)⟩
  · exact .inr ⟨_, rfl, by simp⟩

lemma Safe.finish (h : p.Safe c all r []) : Applied c all (p.finish r).1 (p.finish r).2 := by
  have hpaused : p.Safe c all (r.modifyPool fun pool => pool.pauseExcept p.activeAssets) [] :=
    h.background (e := .pauseExcept p.activeAssets) trivial
  have hloaded := hpaused.background (e := .preload
    (p.snapshot.upcoming p.frame r.compositor.config.preloadHorizon) p.assets) trivial
  refine ⟨_, p.layers, ⟨hloaded.kept, hloaded.idle⟩, rfl, rfl, ?_,
    fun l hl i hi => (hloaded.backed l hl i hi).2⟩
  simpa [places] using h.placed

lemma Safe.ended (h : p.Safe c all r items) {result : Except PreviewError Evaluation}
    (hr : ∀ report, result ≠ .ok (.applied report)) : (Step.ended result).Fine c all r := by
  cases result with
  | error e => exact ⟨h.kept, h.idle⟩
  | ok evaluation =>
    cases evaluation with
    | applied report => exact absurd rfl (hr report)
    | superseded => exact ⟨h.kept, h.idle⟩

/-- A pass goes on after a wait, given that it goes well from clip to clip. -/
lemma Awaits.step (h : p.Awaits c all r item asset rest)
    (hrun : ∀ {r' p'}, Safe c all r' p' rest → (p'.run r' rest).2.Fine c all (p'.run r' rest).1) :
    (Pass.resume r (.waits p item asset rest)).2.Fine c all
      (Pass.resume r (.waits p item asset rest)).1 := by
  obtain ⟨hwaits, hover⟩ := h.resume
  dsimp only [Pass.resume, Rig.pool_modifyPool]
  split
  · next hnone => exact hwaits hnone
  · next result hresult =>
    obtain ⟨hsafe, hhandle⟩ := hover result hresult
    change p.Safe c all ((r.modifyPool fun pool => pool.resume .main).modifyPool fun pool =>
      pool.forget .main) (item :: rest) at hsafe
    rcases hsafe.receive h.own hhandle with ⟨r', p', hreceive, hsafe'⟩ | ⟨result', hreceive, hne⟩
    · rw [hreceive]
      exact hrun hsafe'
    · rw [hreceive]
      exact hsafe.ended hne

/-- **A pass goes well from clip to clip**, up to its next wait or its end. -/
lemma Safe.run (h : p.Safe c all r items) : (p.run r items).2.Fine c all (p.run r items).1 := by
  induction items generalizing r p with
  | nil => exact h.finish
  | cons item rest ih =>
    unfold Pass.run
    split
    · exact ih (h.fail _)
    · next asset hfind =>
      have own := AssetTable.id_of_find? hfind
      have hsafe : Safe c all r { p with activeAssets := asset.id :: p.activeAssets }
          (item :: rest) := ⟨h.kept, h.idle, h.backed, h.placed⟩
      dsimp only
      split
      · split
        · exact ⟨h.kept, h.idle⟩
        · next target _ =>
          have hwait := hsafe.take own target
          exact hwait.step ih
      · exact ih ⟨h.kept, h.idle, hsafe.backed.addLayer (by simp),
          (places_addLayer _ item asset none rest).trans h.placed⟩

lemma Step.Fine.resume {s : Step} (h : s.Fine c all r) :
    (Pass.resume r s).2.Fine c all (Pass.resume r s).1 := by
  cases s with
  | waits p item asset rest => exact h.step fun hsafe => hsafe.run
  | ended result => exact h

lemma fine_evaluate {snapshot : Snapshot} {assets : AssetTable} {playback : PlaybackState}
    (ho : r.pool.Ordered) (hidle : r.pool.work? .main = none) :
    (r.evaluate snapshot assets playback).2.Fine r.compositor
      (snapshot.activeAt r.host.playhead).ids (r.evaluate snapshot assets playback).1 := by
  have hkept : r.Kept r.compositor := ⟨rfl, ho, fun _ _ _ _ hw => hw⟩
  have hplaced :
      ((Pass.start r snapshot assets playback).1.places
        (Pass.start r snapshot assets playback).2).Sublist
          (snapshot.activeAt r.host.playhead).ids := by
    have hids : ∀ clips : List ActiveClip,
        (clips.mapIdx fun z a => (⟨z, a⟩ : PassItem)).map (·.active.clip.id) =
          clips.map (·.clip.id) := by
      intro clips
      refine List.ext_getElem (by simp) fun i hi hj => ?_
      simp
    simp [places, Pass.start, ActiveSet.ids, hids]
  unfold Rig.evaluate
  split
  · exact ⟨hkept, hidle⟩
  · split
    · exact ⟨hkept, hidle⟩
    · exact Safe.run ⟨hkept, hidle, by simp [Backed], hplaced⟩

/-- A pass under way: what it does itself, and what goes on in the background while it waits. -/
inductive Reaches (r : Rig) (s : Step) : Rig → Step → Prop
  | refl : Reaches r s r s
  | background {r' : Rig} {p : Pass} {item : PassItem} {asset : MediaAsset}
      {rest : List PassItem} {e : Pool.Event} (h : Reaches r s r' (.waits p item asset rest))
      (he : e.Background r'.pool) :
      Reaches r s (r'.modifyPool fun pool => e.apply pool) (.waits p item asset rest)
  /-- The playhead moves, or the display is asked for a callback. -/
  | host {r' : Rig} {p : Pass} {item : PassItem} {asset : MediaAsset} {rest : List PassItem}
      (h : Reaches r s r' (.waits p item asset rest)) (host : Host) :
      Reaches r s { r' with host } (.waits p item asset rest)
  | resume {r' : Rig} {s' : Step} (h : Reaches r s r' s') :
      Reaches r s (Pass.resume r' s').1 (Pass.resume r' s').2

def Step.isWaiting : Step → Bool
  | waits .. => true
  | ended _ => false

lemma Step.Fine.background {e : Pool.Event} (h : (Step.waits p item asset rest).Fine c all r)
    (he : e.Background r.pool) :
    (Step.waits p item asset rest).Fine c all (r.modifyPool fun pool => e.apply pool) :=
  Awaits.background h he

lemma Step.Fine.host (h : (Step.waits p item asset rest).Fine c all r) (host : Host) :
    (Step.waits p item asset rest).Fine c all { r with host } :=
  ⟨h.kept.host host, h.backed, h.placed, h.own, h.asked⟩

lemma Step.Fine.reaches {s s' : Step} {r' : Rig} (h : s.Fine c all r) (hr : Reaches r s r' s') :
    s'.Fine c all r' := by
  induction hr with
  | refl => exact h
  | background _ he ih => exact ih.background he
  | host _ host ih => exact ih.host host
  | resume _ ih => exact ih.resume

end Pass

end Montage
