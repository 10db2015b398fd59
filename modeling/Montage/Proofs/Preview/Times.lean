import Montage.Proofs.Pool.Clocks
import Montage.Proofs.Preview.Rosters
import Montage.Proofs.Preview.Running

/-!
Where elements stand after an evaluation, when the transport does not play.

All clips of one asset share one element, and each of them moves it to the time that the clip is at.
So at the end the element stands for one of them: for the last one, or if a seek was not over in
time, for the last one before whose seek was.
-/

namespace Montage

namespace Element

lemma setGain_eq (e : Element) (volume : Float32) (muted : Bool) :
    ∃ v m, e.setGain volume muted = { e with volume := v, muted := m } := by
  obtain ⟨e', he', v, hv⟩ : ∃ e', (if volumeSlack < Scalar.abs (e.volume - volume) then
      e.setVolume volume else e) = e' ∧ ∃ v, e' = { e with volume := v } := by
    refine ⟨_, rfl, ?_⟩
    split
    · exact ⟨_, rfl⟩
    · exact ⟨e.volume, rfl⟩
  unfold setGain
  dsimp only
  rw [he', hv]
  split
  · exact ⟨v, e.muted, rfl⟩
  · exact ⟨v, muted, rfl⟩

end Element

namespace Pass

/-- An element of an asset stands for one of the clips that have it: for the clip of the layer, or
for one above it. The clips further up that have the asset are ones that were not served in time. -/
inductive StandsFor (snapshot : Snapshot) (tolerance : Float) (items : List PassItem)
    (stale : List ClipId) (l : Layer) (e : Element) : Prop
  | of_item (below : List PassItem) (item : PassItem) (above : List PassItem) {seconds : Float}
      (split : items = below ++ item :: above) (same : item.active.clip.asset = l.asset)
      (own : ∃ x ∈ below ++ [item], x.active.clip.id = l.clip ∧ x.active.clip.asset = l.asset)
      (late : ∀ x ∈ above, x.active.clip.asset = l.asset → x.active.clip.id ∈ stale)
      (timely : (items.map (·.active.clip.id)).Nodup → item.active.clip.id ∉ stale)
      (time : snapshot.rate.secondsOf item.active.sourceFrame = .ok seconds)
      (stands : e.StandsAt tolerance (Scalar.positivePart seconds))

variable {snapshot : Snapshot} {assets : AssetTable} {tolerance seconds : Float}
  {all done items rest : List PassItem} {stale stale' : List ClipId} {l : Layer} {e e' : Element}
  {item : PassItem} {asset : MediaAsset} {r₀ r r' : Rig} {p₀ p q : Pass} {as : List Answer}
  {i : Nat} {a : AssetId}

/-- An element stands at the own time of a clip. -/
def IsOwn (snapshot : Snapshot) (tolerance : Float) (items : List PassItem) (l : Layer)
    (e : Element) : Prop :=
  ∃ item ∈ items, item.active.clip.id = l.clip ∧ item.active.clip.asset = l.asset ∧
    ∃ seconds, snapshot.rate.secondsOf item.active.sourceFrame = .ok seconds ∧
      e.StandsAt tolerance (Scalar.positivePart seconds)

lemma StandsFor.isOwn (h : StandsFor snapshot tolerance items stale l e)
    (alone : ∀ x ∈ items, x.active.clip.asset = l.asset → x.active.clip.id = l.clip) :
    IsOwn snapshot tolerance items l e := by
  cases h with
  | of_item below item above split same own late timely time stands =>
    subst split
    exact ⟨_, by simp, alone _ (by simp) same, same, _, time, stands⟩

lemma StandsFor.next (h : StandsFor snapshot tolerance done stale l e)
    (late : item.active.clip.asset = l.asset → item.active.clip.id ∈ stale')
    (more : ∀ id ∈ stale, id ∈ stale') (only : ∀ id ∈ stale', id ∈ stale ∨ id = item.active.clip.id)
    (stands : ∀ seconds, e.StandsAt tolerance seconds → e'.StandsAt tolerance seconds) :
    StandsFor snapshot tolerance (done ++ [item]) stale' l e' := by
  cases h with
  | of_item below x above split same own hlate timely time hstands =>
    refine .of_item below x (above ++ [item]) (by simp [split]) same own (fun y hy hasset => ?_)
      (fun hn hmem => ?_) time (stands _ hstands)
    · rcases List.mem_append.mp hy with hy | hy
      · exact more _ (hlate y hy hasset)
      · rw [List.mem_singleton.mp hy] at hasset ⊢
        exact late hasset
    · rw [List.map_append] at hn
      rcases only _ hmem with hmem | heq
      · exact timely (List.Nodup.of_append_left hn) hmem
      · refine List.disjoint_of_nodup_append hn (a := x.active.clip.id) ?_ (by simp [heq])
        exact List.mem_map_of_mem (by simp [split])

lemma StandsFor.turn (own : l.clip = item.active.clip.id ∨
      ∃ x ∈ done, x.active.clip.id = l.clip ∧ x.active.clip.asset = l.asset)
    (same : item.active.clip.asset = l.asset)
    (hstale : ∀ id ∈ stale, ∃ x ∈ done, x.active.clip.id = id)
    (time : snapshot.rate.secondsOf item.active.sourceFrame = .ok seconds)
    (stands : e.StandsAt tolerance (Scalar.positivePart seconds)) :
    StandsFor snapshot tolerance (done ++ [item]) stale l e := by
  refine .of_item done item [] rfl same ?_ (by simp) (fun hn hmem => ?_) time stands
  · rcases own with hclip | ⟨x, hx, hown⟩
    · exact ⟨item, by simp, hclip.symm, same⟩
    · exact ⟨x, List.mem_append_left _ hx, hown⟩
  · obtain ⟨x, hx, hid⟩ := hstale _ hmem
    rw [List.map_append] at hn
    exact List.disjoint_of_nodup_append hn (List.mem_map_of_mem hx) (by simp [hid])

/-! ### What a clip does to its element -/

lemma attune_eq (p : Pass) (item : PassItem) (asset : MediaAsset) (now : Nat) (e : Element) :
    ∃ v m, p.attune item asset now e = (Element.follow { e with volume := v, muted := m } now
      p.playback.isPlaying p.playback.rate).1 := by
  unfold attune sync
  dsimp only
  split
  · obtain ⟨v, m, hgain⟩ := e.setGain_eq p.playback.volume
      (p.playback.isMutedOn item.active.track)
    rw [hgain]
    exact ⟨v, m, rfl⟩
  · exact ⟨e.volume, e.muted, rfl⟩

lemma StandsAt.attune (h : e.StandsAt tolerance seconds) (still : p.playback.isPlaying = false)
    (item : PassItem) (asset : MediaAsset) (now : Nat) :
    (p.attune item asset now e).StandsAt tolerance seconds := by
  obtain ⟨v, m, heq⟩ := p.attune_eq item asset now e
  have hstands : Element.StandsAt { e with volume := v, muted := m } tolerance seconds :=
    ⟨h.paused, h.near⟩
  rw [heq, still]
  exact hstands.follow now _

/-- An element that has come to the time of a clip is stopped there. -/
lemma standsAt_attune {pool : Pool} (aligned : pool.Aligned i (p.request asset seconds))
    (still : p.playback.isPlaying = false) (finite : p.playback.rate.isFinite = true)
    (speed : (pool.element i).isPaused = false → (pool.element i).rate.isFinite = true)
    (item : PassItem) :
    ((p.use asset).attune item asset pool.now (pool.element i)).StandsAt
      (pool.config.tolerance false) (Scalar.positivePart seconds) := by
  obtain ⟨v, m, heq⟩ := (p.use asset).attune_eq item asset pool.now (pool.element i)
  have hstill : (p.use asset).playback.isPlaying = false := still
  have htarget : (p.request asset seconds).seekTarget = Scalar.positivePart seconds := rfl
  rw [heq, hstill]
  rcases aligned with near | ⟨e, hmoved⟩
  · rw [htarget] at near
    have hplaying : (p.request asset seconds).playing = false := still
    rw [hplaying] at near
    exact Element.standsAt_follow finite near
  · have hpaused : (pool.element i).isPaused = e.isPaused := by
      rw [hmoved]
      exact Element.isPaused_setPosition _ _
    have hspeed : e.isPaused = false → e.rate.isFinite = true := fun hruns => by
      have hfinite := speed (hpaused.trans hruns)
      rwa [hmoved] at hfinite
    have hstands := Element.standsAt_follow_finishSeek
      (e := { e with volume := v, muted := m }) finite hspeed pool.now
      (pool.config.tolerance false) (p.request asset seconds).seekTarget
    rw [htarget, positivePart_positivePart] at hstands
    rw [hmoved]
    exact hstands

lemma mem_stale_serve {h : Handle} {id : ClipId} :
    id ∈ (p.serve r item asset h).2.report.stale ↔
      id ∈ p.report.stale ∨ h.stale = true ∧ id = item.active.clip.id := by
  have hstale : (p.serve r item asset h).2.report.stale =
      p.report.stale ++ if h.stale then [item.active.clip.id] else [] := by
    unfold serve
    dsimp only
    rw [report_addLayer]
    split
    · split <;> rfl
    · rfl
  rw [hstale]
  cases h.stale <;> simp

lemma element_serve {h : Handle} (hs : r.pool.Shows h.slot a) (p : Pass) (item : PassItem)
    (asset : MediaAsset) (j : Nat) : (p.serve r item asset h).1.pool.element j =
      if h.slot = j then p.attune item asset r.pool.now (r.pool.element j)
      else r.pool.element j := by
  rw [pool_serve, Pool.element_modifyElement]
  by_cases hj : h.slot = j
  · rw [if_pos ⟨hj, r.pool.lt_size_of_asset hs.2⟩, if_pos hj]
  · rw [if_neg (fun hboth => hj hboth.1), if_neg hj]

lemma mem_layers_serve {h : Handle} (hl : l ∈ (p.serve r item asset h).2.layers) :
    l ∈ p.layers ∨ l.clip = item.active.clip.id ∧ l.asset = item.active.clip.asset ∧
      l.slot = some h.slot := by
  obtain ⟨-, q, hq, -, hlayers⟩ := p.serve_eq r item asset h
  rw [hq] at hl
  unfold addLayer at hl
  split at hl
  · rw [hlayers] at hl
    rcases List.mem_append.mp hl with hl | hl
    · exact .inl hl
    · rw [List.mem_singleton.mp hl]
      exact .inr ⟨rfl, rfl, rfl⟩
  · exact .inl (hlayers ▸ hl)

/-! ### The way of a pass -/

/-- The pool is asked for elements of the asset. -/
def Asked (assets : AssetTable) (a : AssetId) : Prop :=
  ∃ asset, assets.find? a = some asset ∧ asset.needsElement = true ∧ asset.url.isEmpty = false

/-- A layer has an element, which is paused and, if the clip was served in time, stands for one of
the clips of its asset. -/
structure Timed (snapshot : Snapshot) (assets : AssetTable) (tolerance : Float)
    (done : List PassItem) (stale : List ClipId) (pinned : List Nat) (pool : Pool) (l : Layer)
    (i : Nat) : Prop where
  pinned : i ∈ pinned
  shows : pool.Shows i l.asset
  asked : Asked assets l.asset
  own : ∃ x ∈ done, x.active.clip.id = l.clip ∧ x.active.clip.asset = l.asset
  paused : (pool.element i).isPaused = true
  stands : l.clip ∉ stale → StandsFor snapshot tolerance done stale l (pool.element i)

/-- What holds of the layers while a pass has gone over some clips. -/
structure KeepsTime (p₀ : Pass) (tolerance : Float) (done : List PassItem) (r : Rig) (p : Pass) :
    Prop where
  config : r.pool.config.tolerance false = tolerance
  speeds : ∀ i, (r.pool.element i).isPaused = false → (r.pool.element i).rate.isFinite = true
  stale : ∀ id ∈ p.report.stale, ∃ x ∈ done, x.active.clip.id = id
  layers : ∀ l ∈ p.layers, ∀ i, l.slot = some i →
    Timed p₀.snapshot p₀.assets tolerance done p.report.stale p.pinned r.pool l i

lemma Timed.next {pinned pinned' : List Nat} {pool pool' : Pool}
    (h : Timed snapshot assets tolerance done stale pinned pool l i)
    (hpinned : ∀ j ∈ pinned, j ∈ pinned') (hshows : pool'.Shows i l.asset)
    (late : item.active.clip.asset = l.asset → item.active.clip.id ∈ stale')
    (more : ∀ id ∈ stale, id ∈ stale') (only : ∀ id ∈ stale', id ∈ stale ∨ id = item.active.clip.id)
    (paused : (pool'.element i).isPaused = true)
    (stands : ∀ seconds, (pool.element i).StandsAt tolerance seconds →
      (pool'.element i).StandsAt tolerance seconds) :
    Timed snapshot assets tolerance (done ++ [item]) stale' pinned' pool' l i where
  pinned := hpinned i h.pinned
  shows := hshows
  asked := h.asked
  own := by
    obtain ⟨x, hx, hown⟩ := h.own
    exact ⟨x, List.mem_append_left _ hx, hown⟩
  paused := paused
  stands hclip := (h.stands fun hmem => hclip (more _ hmem)).next late more only stands

lemma KeepsTime.skip (h : KeepsTime p₀ tolerance done r p)
    (hlayers : ∀ l ∈ q.layers, ∀ i, l.slot = some i → l ∈ p.layers)
    (hreport : q.report.stale = p.report.stale) (hpinned : q.pinned = p.pinned)
    (unasked : ¬Asked p₀.assets item.active.clip.asset) :
    KeepsTime p₀ tolerance (done ++ [item]) r q where
  config := h.config
  speeds := h.speeds
  stale id hid := by
    obtain ⟨x, hx, hown⟩ := h.stale id (hreport ▸ hid)
    exact ⟨x, List.mem_append_left _ hx, hown⟩
  layers l hl i hi := by
    have htimed := h.layers l (hlayers l hl i hi) i hi
    exact htimed.next (fun j hj => hpinned ▸ hj) htimed.shows
      (fun hasset => absurd (hasset ▸ htimed.asked) unasked) (fun id hid => hreport ▸ hid)
      (fun id hid => .inl (hreport ▸ hid)) htimed.paused fun _ hstands => hstands

section Asked

variable {target : Float} {result : Except MediaError Handle}
  (h : KeepsTime p₀ tolerance done r p) (halone : r.pool.Alone)
  (idle : r.pool.work? .main = none)
  (answers : r.pool.Answers (p.request asset target) result r'.pool)

include h halone idle answers

lemma KeepsTime.config_asked : r'.pool.config.tolerance false = tolerance := by
  rw [(answers.since halone idle).1.1.eases.config]
  exact h.config

lemma KeepsTime.speeds_asked (i : Nat) (runs : (r'.pool.element i).isPaused = false) :
    (r'.pool.element i).rate.isFinite = true := by
  have hslot := (answers.since halone idle).1.1.eases.slot i
  have hrate : (r'.pool.element i).rate = (r.pool.element i).rate := hslot.rate
  rw [hrate]
  exact h.speeds i (hslot.ran runs).1

lemma KeepsTime.shows_asked (hl : l ∈ p.layers) (hi : l.slot = some i) :
    r'.pool.Shows i l.asset := by
  have htimed := h.layers l hl i hi
  exact (answers.since halone idle).1.1.shows htimed.shows (.inl htimed.pinned)

lemma KeepsTime.element_asked (hl : l ∈ p.layers) (hi : l.slot = some i)
    (hne : ∀ hd, result = .ok hd → hd.slot = i → hd.stale = true) :
    r'.pool.element i = r.pool.element i := by
  have htimed := h.layers l hl i hi
  exact (answers.since halone idle).1.1.element_eq htimed.shows htimed.pinned hne

lemma KeepsTime.same_asked (hl : l ∈ p.layers) (hi : l.slot = some i) (same : asset.id = l.asset)
    (found : p₀.assets.find? l.asset = some asset) (other : result ≠ .error .disposed) :
    ∃ hd, result = .ok hd ∧ hd.slot = i := by
  have hs := h.shows_asked halone idle answers hl hi
  obtain ⟨m, hm, -, hurl⟩ := (h.layers l hl i hi).asked
  obtain ⟨⟨hsince, -⟩, hverdict, -⟩ := answers.since halone idle
  cases hverdict with
  | served shows =>
    have hbound : (r'.pool.slot i).asset = some asset.id := hs.2.trans (congrArg some same.symm)
    exact ⟨_, rfl, hsince.alone.ordered.good.tidy.distinct shows.2 hbound⟩
  | missing empty =>
    obtain rfl : asset = m := Option.some.inj (found.symm.trans hm)
    have hempty : asset.url.isEmpty = true := empty
    simp [hurl] at hempty
  | disposed => exact absurd rfl other
  | exhausted unbound => exact absurd (same ▸ hs.2) (unbound i)
  | failed unbound => exact absurd (same ▸ hs.2) (unbound i)

end Asked

/-- A clip is not served, and its asset is none that a layer has. -/
lemma KeepsTime.refuse {target : Float} {error : MediaError}
    (h : KeepsTime p₀ tolerance done r p) (halone : r.pool.Alone)
    (idle : r.pool.work? .main = none) (kin : p₀.Kin p) (wants : p.Wants item asset target)
    (answers : r.pool.Answers (p.request asset target) (.error error) r'.pool)
    (other : error ≠ .disposed) :
    KeepsTime p₀ tolerance (done ++ [item]) r' ((p.use asset).fail item error) where
  config := h.config_asked halone idle answers
  speeds := h.speeds_asked halone idle answers
  stale id hid := by
    obtain ⟨x, hx, hown⟩ := h.stale id hid
    exact ⟨x, List.mem_append_left _ hx, hown⟩
  layers l hl i hi := by
    have htimed := h.layers l hl i hi
    have helement := h.element_asked halone idle answers hl hi nofun
    refine htimed.next (fun _ hj => hj) (h.shows_asked halone idle answers hl hi) (fun hasset => ?_)
      (fun _ hid => hid) (fun _ => .inl) ?_ fun seconds => ?_
    · have hfound := wants.found
      rw [kin.assets, hasset] at hfound
      obtain ⟨hd, hresult, -⟩ := h.same_asked halone idle answers hl hi
        (AssetTable.id_of_find? hfound) hfound (by simpa using other)
      cases hresult
    · rw [helement]
      exact htimed.paused
    · rw [helement]
      exact id

section Served

variable {target : Float} {hd : Handle} (h : KeepsTime p₀ tolerance done r p)
  (halone : r.pool.Alone) (idle : r.pool.work? .main = none) (kin : p₀.Kin p)
  (still : p₀.playback.isPlaying = false) (wants : p.Wants item asset target)
  (answers : r.pool.Answers (p.request asset target) (.ok hd) r'.pool)

include halone idle kin still answers in
lemma paused_serve (item : PassItem) :
    (((p.use asset).serve r' item asset hd).1.pool.element hd.slot).isPaused = true := by
  have hstill : (p.use asset).playback.isPlaying = false := kin.playback ▸ still
  rw [element_serve (answers.shows halone idle), if_pos rfl, isPaused_attune (by simp [hstill]),
    hstill]
  rfl

include h halone idle kin still wants answers

lemma KeepsTime.stands_serve (finite : p₀.playback.rate.isFinite = true)
    (timely : hd.stale = false) (same : item.active.clip.asset = l.asset)
    (own : l.clip = item.active.clip.id ∨
      ∃ x ∈ done, x.active.clip.id = l.clip ∧ x.active.clip.asset = l.asset) :
    StandsFor p₀.snapshot tolerance (done ++ [item])
      ((p.use asset).serve r' item asset hd).2.report.stale l
      (((p.use asset).serve r' item asset hd).1.pool.element hd.slot) := by
  have htime := wants.time
  rw [kin.snapshot] at htime
  rw [← kin.playback] at still finite
  refine .turn own same (fun id hid => ?_) htime ?_
  · rcases mem_stale_serve.mp hid with hid | ⟨hlate, -⟩
    · exact h.stale id hid
    · simp [timely] at hlate
  · rw [element_serve (answers.shows halone idle), if_pos rfl,
      ← h.config_asked halone idle answers]
    obtain ⟨-, hverdict, -⟩ := answers.since halone idle
    cases hverdict with
    | served _ aligned =>
      exact standsAt_attune (aligned timely) still finite (h.speeds_asked halone idle answers _) item

/-- What becomes of a layer there is. -/
lemma KeepsTime.timed_serve (finite : p₀.playback.rate.isFinite = true) (hl : l ∈ p.layers)
    (hi : l.slot = some i) :
    Timed p₀.snapshot p₀.assets tolerance (done ++ [item])
      ((p.use asset).serve r' item asset hd).2.report.stale
      ((p.use asset).serve r' item asset hd).2.pinned
      ((p.use asset).serve r' item asset hd).1.pool l i := by
  have htimed := h.layers l hl i hi
  have hs := answers.shows halone idle
  have hshown := h.shows_asked halone idle answers hl hi
  have hpinned : ∀ j ∈ p.pinned, j ∈ ((p.use asset).serve r' item asset hd).2.pinned := by
    intro j hj
    rw [pinned_serve]
    exact List.mem_cons_of_mem _ hj
  have hshows : ((p.use asset).serve r' item asset hd).1.pool.Shows i l.asset := by
    rw [pool_serve]
    exact hshown.of_slot ((r'.pool.agrees_modifyElement hd.slot _).slot i)
  have more : ∀ id ∈ p.report.stale, id ∈ ((p.use asset).serve r' item asset hd).2.report.stale :=
    fun id hid => mem_stale_serve.mpr (.inl hid)
  have only : ∀ id ∈ ((p.use asset).serve r' item asset hd).2.report.stale,
      id ∈ p.report.stale ∨ id = item.active.clip.id :=
    fun id hid => (mem_stale_serve.mp hid).imp_right And.right
  have hfound := wants.found
  rw [kin.assets] at hfound
  have hid := AssetTable.id_of_find? hfound
  by_cases hsame : item.active.clip.asset = l.asset
  · -- The clip has the asset of the layer, so it has got the same element.
    obtain ⟨_, hresult, rfl⟩ := h.same_asked halone idle answers hl hi (hid.trans hsame)
      (hsame ▸ hfound) nofun
    cases hresult
    have hpaused := paused_serve halone idle kin still answers item
    rcases htimely : hd.stale with _ | _
    · exact ⟨hpinned _ htimed.pinned, hshows, htimed.asked,
        htimed.own.imp fun x hx => ⟨List.mem_append_left _ hx.1, hx.2⟩, hpaused,
        fun _ => h.stands_serve halone idle kin still wants answers finite htimely hsame
          (.inr htimed.own)⟩
    · have helement := h.element_asked halone idle answers hl hi
        fun _ hresult _ => by cases hresult; exact htimely
      refine htimed.next hpinned hshows (fun _ => mem_stale_serve.mpr (.inr ⟨htimely, rfl⟩)) more
        only hpaused fun seconds hstands => ?_
      rw [element_serve hs, if_pos rfl, helement]
      exact StandsAt.attune hstands (kin.playback ▸ still) item asset _
  · have hne : hd.slot ≠ i := by
      rintro rfl
      exact hsame (hid.symm.trans (Option.some.inj (hs.2.symm.trans hshown.2)))
    have helement : ((p.use asset).serve r' item asset hd).1.pool.element i = r.pool.element i := by
      rw [element_serve hs, if_neg hne]
      exact h.element_asked halone idle answers hl hi
        fun _ hresult hslot => by cases hresult; exact absurd hslot hne
    refine htimed.next hpinned hshows (fun heq => absurd heq hsame) more only ?_ fun seconds => ?_
    · rw [helement]
      exact htimed.paused
    · rw [helement]
      exact id

/-- A clip is served, and its element stands for it unless the seek was not over in time. -/
lemma KeepsTime.serve (finite : p₀.playback.rate.isFinite = true) :
    KeepsTime p₀ tolerance (done ++ [item]) ((p.use asset).serve r' item asset hd).1
      ((p.use asset).serve r' item asset hd).2 := by
  have hs := answers.shows halone idle
  have hpaused := paused_serve halone idle kin still answers item
  refine ⟨?_, fun j hruns => ?_, fun id hid => ?_, fun l hl i hi => ?_⟩
  · rw [pool_serve]
    exact h.config_asked halone idle answers
  · by_cases hj : hd.slot = j
    · subst hj
      simp [hpaused] at hruns
    · rw [element_serve hs, if_neg hj] at hruns ⊢
      exact h.speeds_asked halone idle answers j hruns
  · rcases mem_stale_serve.mp hid with hid | ⟨-, rfl⟩
    · obtain ⟨x, hx, hown⟩ := h.stale id hid
      exact ⟨x, List.mem_append_left _ hx, hown⟩
    · exact ⟨item, by simp, rfl⟩
  · rcases mem_layers_serve hl with hl | ⟨hclip, hasset, hslot⟩
    · exact h.timed_serve halone idle kin still wants answers finite hl hi
    · obtain rfl : hd.slot = i := Option.some.inj (hslot.symm.trans hi)
      have hfound := wants.found
      rw [kin.assets] at hfound
      have hid : asset.id = l.asset := (AssetTable.id_of_find? hfound).trans hasset.symm
      have hurl : asset.url.isEmpty = false :=
        (answers.since halone idle).2.2.resolve_left nofun
      refine ⟨by simp, ?_, ⟨asset, hasset ▸ hfound, wants.needed, hurl⟩,
        ⟨item, by simp, hclip.symm, hasset.symm⟩, hpaused, fun hnot => ?_⟩
      · rw [pool_serve, ← hid]
        exact hs.of_slot ((r'.pool.agrees_modifyElement hd.slot _).slot _)
      · refine h.stands_serve halone idle kin still wants answers finite ?_ hasset.symm (.inl hclip)
        by_contra hlate
        exact hnot (mem_stale_serve.mpr (.inr ⟨by simpa using hlate, hclip⟩))

end Served

/-- **The way of a pass over its clips.** -/
lemma Walk.keepsTime (h : Walk r₀ p₀ all as r p items) (halone : r₀.pool.Alone)
    (idle : r₀.pool.work? .main = none) (still : p₀.playback.isPlaying = false)
    (finite : p₀.playback.rate.isFinite = true) (hstart : KeepsTime p₀ tolerance [] r₀ p₀) :
    ∃ done, all = done ++ items ∧ KeepsTime p₀ tolerance done r p := by
  induction h with
  | start => exact ⟨[], rfl, hstart⟩
  | @unknown as r p item rest hwalk hnone ih =>
    obtain ⟨done, hall, hdone⟩ := ih
    rw [hwalk.kin.assets] at hnone
    refine ⟨done ++ [item], by simp [hall], hdone.skip (fun l hl _ _ => hl) rfl rfl ?_⟩
    rintro ⟨m, hm, -⟩
    simp [hnone] at hm
  | @plain as r p item rest asset hwalk found needless ih =>
    obtain ⟨done, hall, hdone⟩ := ih
    rw [hwalk.kin.assets] at found
    refine ⟨done ++ [item], by simp [hall], hdone.skip (fun l hl i hi => ?_)
      (congrArg Report.stale (report_addLayer _ item asset none))
      (pinned_addLayer _ item asset none) ?_⟩
    · unfold addLayer at hl
      split at hl
      · rcases List.mem_append.mp hl with hl | hl
        · exact hl
        · rw [List.mem_singleton.mp hl] at hi
          cases hi
      · exact hl
    · rintro ⟨m, hm, hneeded, -⟩
      rw [found] at hm
      cases hm
      simp [needless] at hneeded
  | @serve as r r' p item rest asset target hd hwalk wants answers _ _ ih =>
    obtain ⟨done, hall, hdone⟩ := ih
    obtain ⟨ha, hi⟩ := hwalk.alone halone idle
    exact ⟨done ++ [item], by simp [hall],
      hdone.serve ha hi hwalk.kin still wants answers finite⟩
  | @refuse as r r' p item rest asset target e hwalk wants answers other _ _ ih =>
    obtain ⟨done, hall, hdone⟩ := ih
    obtain ⟨ha, hi⟩ := hwalk.alone halone idle
    exact ⟨done ++ [item], by simp [hall], hdone.refuse ha hi hwalk.kin wants answers other⟩

lemma KeepsTime.element_finish (h : KeepsTime p₀ tolerance done r p) (hl : l ∈ p.layers)
    (hi : l.slot = some i) : (p.finish r).1.pool.element i = r.pool.element i := by
  have htimed := h.layers l hl i hi
  have hkeep : (r.pool.pauseExcept p.activeAssets).slot i = r.pool.slot i := by
    rw [r.pool.slot_pauseExcept p.activeAssets htimed.shows.2, htimed.paused, Bool.or_true,
      if_pos rfl]
  have hbound : ((r.pool.pauseExcept p.activeAssets).slot i).asset ≠ none := by
    rw [hkeep, htimed.shows.2]
    exact Option.some_ne_none _
  rw [pool_finish, Pool.element, Pool.slot_preload_of_bound _ p.assets hbound, hkeep]
  rfl

end Pass

/-- **The time that an element is left at.** Nobody makes requests beside the pass, but the pool may
have held anything before, and loads in advance may be under way. The transport does not play, and
the speeds are finite. Then after a pass that is applied the element of each layer whose clip is not
among the stale ones stands for the last clip with the asset of the layer that was served in time:
it is paused, and as near to the time of that clip as the pool asks for, or just there. Times before
the start count as the start. So a clip that no other of the frame shares its asset with is shown at
its own time. -/
theorem layers_stand_for_last_clip (config : PoolConfig) (backend : Backend)
    (es : List Pool.Event) (r r' : Rig) (snapshot : Snapshot) (assets : AssetTable)
    (playback : PlaybackState) (report : Report) (pool : r.pool = (Pool.new config backend).run es)
    (idle : r.pool.work? .main = none)
    (others : ∀ t ≠ TaskId.main, ∀ q stage, r.pool.work? t = some (.request q stage) →
      ∃ result, stage = .done result)
    (still : playback.isPlaying = false) (finite : playback.rate.isFinite = true)
    (speeds : ∀ i, (r.pool.element i).isPaused = false → (r.pool.element i).rate.isFinite = true)
    (proceeds : Pass.Proceeds (r.evaluate snapshot assets playback).1
      (r.evaluate snapshot assets playback).2 r' (.ended (.ok (.applied report)))) :
    let items := (Pass.start r snapshot assets playback).2
    let tolerance := r.pool.config.tolerance false
    ∃ layers, r'.compositor.HasStaged report.frame layers ∧ layers.length = report.layers ∧
      ∀ l ∈ layers, ∀ i, l.slot = some i → l.clip ∉ report.stale →
        Pass.StandsFor snapshot tolerance items report.stale l (r'.pool.element i) ∧
          ((∀ x ∈ items, x.active.clip.asset = l.asset → x.active.clip.id = l.clip) →
            Pass.IsOwn snapshot tolerance items l (r'.pool.element i)) := by
  intro items tolerance
  have hstart : Pass.KeepsTime (Pass.start r snapshot assets playback).1 tolerance [] r
      (Pass.start r snapshot assets playback).1 :=
    ⟨rfl, speeds, by simp [Pass.start], by simp [Pass.start]⟩
  obtain ⟨answers, r₁, p, hwalks⟩ := proceeds.walks
  obtain ⟨done, hall, hdone⟩ :=
    hwalks.walk.keepsTime (.of_run pool idle others) idle still finite hstart
  obtain rfl : items = done := hall.trans (List.append_nil done)
  rw [hwalks.rig, hwalks.report]
  refine ⟨p.layers, Rig.hasStaged_stage _ _ _, rfl, fun l hl i hi hclip => ?_⟩
  rw [hdone.element_finish hl hi]
  have hstands := (hdone.layers l hl i hi).stands hclip
  exact ⟨hstands, hstands.isOwn⟩

/-- A clip of the first half second of a file, and above it one of the next second. -/
def Snapshot.doubled : Snapshot :=
  .ofClips .fps30
    [{ id := ⟨⟨1⟩⟩, name := "V1", order := 0 }, { id := ⟨⟨2⟩⟩, name := "V2", order := 1 }]
    [.place ⟨⟨1⟩⟩ ⟨⟨1⟩⟩ ⟨"first"⟩ 0 30,
      { Clip.place ⟨⟨2⟩⟩ ⟨⟨2⟩⟩ ⟨"first"⟩ 0 30 with inPoint := 15, outPoint := 45 }]

def ActiveClip.doubledLower : ActiveClip where
  clip := .place ⟨⟨1⟩⟩ ⟨⟨1⟩⟩ ⟨"first"⟩ 0 30
  track := { id := ⟨⟨1⟩⟩, name := "V1", order := 0 }
  sourceFrame := 0

def ActiveClip.doubledUpper : ActiveClip where
  clip := { Clip.place ⟨⟨2⟩⟩ ⟨⟨2⟩⟩ ⟨"first"⟩ 0 30 with inPoint := 15, outPoint := 45 }
  track := { id := ⟨⟨2⟩⟩, name := "V2", order := 1 }
  sourceFrame := 15

lemma Snapshot.clips_doubled :
    (Snapshot.doubled.activeAt 0).clips = [.doubledLower, .doubledUpper] := by
  have hsorted : (Snapshot.doubled.activeAt 0).clips =
      [ActiveClip.doubledLower, .doubledUpper].mergeSort fun a b => (a.compare b).isLE := rfl
  have hle : (ActiveClip.doubledLower.compare .doubledUpper).isLE = true := by decide
  rw [hsorted]
  simp [List.mergeSort, hle, List.MergeSort.Internal.splitInTwo]

def PassItem.doubled : List PassItem := [⟨0, .doubledLower⟩, ⟨1, .doubledUpper⟩]

/-- The pass over the two clips with a single element, as it sets out. -/
def Rig.doubled : Rig × Pass.Step :=
  (Pass.start Rig.single .doubled .shots {}).1.run Rig.single PassItem.doubled

lemma Pass.start_doubled :
    (Pass.start Rig.single .doubled .shots {}).2 = PassItem.doubled :=
  Pass.start_of_clips rfl Snapshot.clips_doubled _ _

lemma Rig.evaluate_doubled : Rig.single.evaluate .doubled .shots {} = Rig.doubled :=
  Rig.evaluate_of_start rfl (by decide) Pass.start_doubled

namespace Pass

/-- Each layer whose clip is not among the stale ones shows the clip's own time. -/
def ShowsOwnTimes (snapshot : Snapshot) (items : List PassItem) (report : Report) (r : Rig) : Prop :=
  ∀ layers, r.compositor.HasStaged report.frame layers →
    ∀ l ∈ layers, ∀ i, l.slot = some i → l.clip ∉ report.stale →
      ∀ item ∈ items, item.active.clip.id = l.clip →
        ∀ seconds, snapshot.rate.secondsOf item.active.sourceFrame = .ok seconds →
          Scalar.abs ((r.pool.element i).time r.pool.now - seconds) ≤ r.pool.config.tolerance false

/-- A pass has been applied, and the element of a clip that it staged and that is not stale is off
a time. -/
def strays (x : Rig × Step) (clip : ClipId) (seconds : Float) : Bool :=
  x.2.report?.any fun report =>
    x.1.compositor.config.batchWrites && !report.stale.contains clip &&
      x.1.compositor.tree.staged.any fun s => s.1 == report.frame &&
        s.2.any fun l => l.clip == clip && l.slot.any fun i =>
          !decide (Scalar.abs ((x.1.pool.element i).time x.1.pool.now - seconds) ≤
            x.1.pool.config.tolerance false)

lemma not_showsOwnTimes {x : Rig × Step} {items : List PassItem} {item : PassItem}
    {snapshot : Snapshot} {seconds : Float} (hitem : item ∈ items)
    (time : snapshot.rate.secondsOf item.active.sourceFrame = .ok seconds)
    (h : strays x item.active.clip.id seconds = true) :
    ∃ report, x.2 = .ended (.ok (.applied report)) ∧
      ¬ShowsOwnTimes snapshot items report x.1 := by
  obtain ⟨report, hreport, h⟩ := (Option.any_eq_true _ _).mp h
  simp only [Bool.and_eq_true, Bool.not_eq_true', Option.any_eq_true, List.any_eq_true, beq_iff_eq,
    decide_eq_false_iff_not] at h
  obtain ⟨⟨hbatch, hstale⟩, ⟨frame, layers⟩, hstaged, rfl, l, hl, hclip, i, hi, hoff⟩ := h
  refine ⟨report, Step.eq_of_report? hreport, fun hown => hoff ?_⟩
  refine hown layers (by rwa [Compositor.HasStaged, if_pos hbatch]) l hl i hi ?_ item hitem
    hclip.symm seconds time
  simpa [hclip] using hstale

end Pass

/-- The element of both clips stands for the upper one. -/
theorem layers_stand_for_last_clip_doubled : ∃ frame layers,
    (Rig.wakes Rig.doubled 2).1.compositor.HasStaged frame layers ∧ layers.length = 2 ∧
      ∀ l ∈ layers, ∀ i, l.slot = some i →
        ((Rig.wakes Rig.doubled 2).1.pool.element i).StandsAt 0.01 0.5 := by
  have hwaits : ∀ k < 2, (Rig.wakes Rig.doubled k).2.isWaiting = true := by decide +kernel
  have hends : (Rig.wakes Rig.doubled 2).2.report?.any
      (fun report => report.layers = 2 && report.stale.isEmpty) = true := by decide +kernel
  obtain ⟨report, happlied, htwo⟩ := (Option.any_eq_true _ _).mp hends
  have hproceeds := Rig.proceeds_wakes hwaits
  have hspeeds (i : Nat) (hruns : (Rig.single.pool.element i).isPaused = false) :
      (Rig.single.pool.element i).rate.isFinite = true := by
    have hnew : Rig.single.pool.element i = {} := congrArg Slot.element (Pool.slot_new _ _ i)
    rw [hnew] at hruns
    cases hruns
  rw [Pass.Step.eq_of_report? happlied] at hproceeds
  rw [show Rig.doubled = _ from Rig.evaluate_doubled.symm] at hproceeds ⊢
  obtain ⟨layers, hstaged, hlength, hstands⟩ := layers_stand_for_last_clip { poolSize := 1 } {} []
    Rig.single _ .doubled .shots {} report rfl rfl (fun t _ q stage hw => by cases hw) rfl
    (by decide +kernel) hspeeds hproceeds
  simp only [Bool.and_eq_true, decide_eq_true_eq, List.isEmpty_iff] at htwo
  refine ⟨report.frame, layers, hstaged, hlength.trans htwo.1, fun l hl i hi => ?_⟩
  obtain ⟨hfor, -⟩ := hstands l hl i hi (by simp [htwo.2])
  rw [Pass.start_doubled, htwo.2] at hfor
  -- Both clips have the asset, and none is stale; so there is none above the one in question.
  cases hfor with
  | @of_item below item above seconds split same own late timely time stands =>
    rcases below with _ | ⟨x, _ | ⟨y, below⟩⟩
    · obtain ⟨rfl, rfl⟩ := List.cons.inj split
      exact absurd (late _ List.mem_cons_self same) List.not_mem_nil
    · obtain ⟨rfl, hrest⟩ := List.cons.inj split
      obtain ⟨rfl, rfl⟩ := List.cons.inj hrest
      obtain rfl : seconds = 0.5 := Except.ok.inj (time.symm.trans rfl)
      exact stands
    · simp [PassItem.doubled] at split

/-- A pass over the clips of a snapshot that is applied, and does not show each at its own time. -/
def Pass.Strays (r : Rig) (snapshot : Snapshot) (playback : PlaybackState) : Prop :=
  ∃ r' report, Pass.Proceeds (r.evaluate snapshot .shots playback).1
      (r.evaluate snapshot .shots playback).2 r' (.ended (.ok (.applied report))) ∧
    ¬Pass.ShowsOwnTimes snapshot (Pass.start r snapshot .shots playback).2 report r'

/-- A clip of the first file from some frame on. -/
def Clip.lone (inPoint : Frame) : Clip :=
  { Clip.place ⟨⟨1⟩⟩ ⟨⟨1⟩⟩ ⟨"first"⟩ 0 30 with inPoint, outPoint := inPoint.addSat 30 }

def Snapshot.lone (inPoint : Frame) : Snapshot :=
  .ofClips .fps30 [{ id := ⟨⟨1⟩⟩, name := "V1", order := 0 }] [.lone inPoint]

/-- A compositor to which no element is near enough to a time. -/
def Rig.strict : Rig :=
  ⟨{ config := {}, pool := (Pool.new { poolSize := 1, pausedTolerance := -1.0 } {}).run [] }, {}⟩

/-- A compositor whose only element plays the first file. -/
def Rig.playing : Rig :=
  ⟨{ config := {}, pool := (Pool.new { poolSize := 1 } {}).run
      [.call ⟨.video ⟨"first"⟩ "first.mp4" 20.0, 0.0, true, []⟩, .resume .main,
        .schedule { now := 20 }, .resume .main, .collect .main,
        .element 0 fun e => (e.follow 20 true 1.0).1] }, {}⟩

lemma Pass.strays_of {r : Rig} {snapshot : Snapshot} {playback : PlaybackState} (n : Nat)
    (item : PassItem) (seconds : Float)
    (waits : ∀ k < n, (Rig.wakes (r.evaluate snapshot .shots playback) k).2.isWaiting = true)
    (hitem : item ∈ (Pass.start r snapshot .shots playback).2)
    (time : snapshot.rate.secondsOf item.active.sourceFrame = .ok seconds)
    (h : Pass.strays (Rig.wakes (r.evaluate snapshot .shots playback) n)
      item.active.clip.id seconds = true) : Pass.Strays r snapshot playback := by
  obtain ⟨report, hends, hstrays⟩ := Pass.not_showsOwnTimes hitem time h
  exact ⟨_, report, hends ▸ Rig.proceeds_wakes waits, hstrays⟩

def PassItem.lone (inPoint : Frame) : PassItem :=
  ⟨0, .lone inPoint, { id := ⟨⟨1⟩⟩, name := "V1", order := 0 }, inPoint⟩

lemma Pass.start_lone {r : Rig} {inPoint : Frame} {playback : PlaybackState}
    (h : r.host.playhead = 0) (hn : (Clip.lone inPoint).standing (Snapshot.lone inPoint).tracks 0 =
      .active { id := ⟨⟨1⟩⟩, name := "V1", order := 0 } inPoint) :
    (Pass.start r (.lone inPoint) .shots playback).2 = [.lone inPoint] := by
  have hvalues : (Snapshot.lone inPoint).clips.values = [.lone inPoint] := rfl
  rw [Pass.start, h]
  simp only [Snapshot.activeAt, ActiveSet.resolve, hvalues, List.filterMap_cons, List.filterMap_nil,
    hn, List.mergeSort_singleton]
  rfl

/-- **An element may be off the time of a clip** that has it: when another clip has it as well, when
nothing is near enough, when the time is before the start, and when the element plays and is to go
at no finite speed. -/
theorem evaluate_strays :
    Pass.Strays Rig.single .doubled {} ∧ Pass.Strays Rig.strict (.lone 0) {} ∧
      Pass.Strays Rig.single (.lone 9223372036854775808) {} ∧
        Pass.Strays Rig.playing (.lone 0) { rate := 1.0 / 0.0 } := by
  refine ⟨?_, ?_, ?_, ?_⟩
  · refine Pass.strays_of 2 ⟨0, .doubledLower⟩ 0.0 ?_ ?_ rfl ?_
    · rw [Rig.evaluate_doubled]
      decide +kernel
    · simp [Pass.start_doubled, PassItem.doubled]
    · rw [Rig.evaluate_doubled]
      decide +kernel
  · refine Pass.strays_of 2 (.lone 0) 0.0 (by decide +kernel) ?_ rfl (by decide +kernel)
    rw [Pass.start_lone rfl rfl]
    exact List.mem_cons_self
  · refine Pass.strays_of 1 (.lone 9223372036854775808)
      ((FrameRate.fps30.secondsOf 9223372036854775808).toOption.getD 0.0) (by decide +kernel) ?_ rfl
      (by decide +kernel)
    rw [Pass.start_lone rfl rfl]
    exact List.mem_cons_self
  · refine Pass.strays_of 0 (.lone 0) 0.0 (by decide +kernel) ?_ rfl (by decide +kernel)
    rw [Pass.start_lone rfl rfl]
    exact List.mem_cons_self

end Montage
