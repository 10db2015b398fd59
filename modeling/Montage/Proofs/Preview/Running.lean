import Montage.Proofs.Pool.Constancy
import Montage.Proofs.Preview.Walks

/-!
Which elements run after an evaluation.

A pass brings the elements that it hands out in line with the transport, and pauses the others at
its end, except for those whose asset is in use. An asset is in use when a clip that plays is known
to have it, whether or not the pool is asked for an element. So an element that no clip is given any
more goes on running when its asset has come to need no element, or to have no url.
-/

namespace Montage

namespace Element

variable {e : Element}

/-- An element with a source runs when the transport plays, and no element does otherwise. -/
lemma isPaused_follow {playing : Bool} (h : playing = true → e.source ≠ none) (now : Nat)
    (rate : Float) : (e.follow now playing rate).1.isPaused = !playing := by
  obtain ⟨e', he', hsource⟩ : ∃ e', (if rateSlack < Scalar.abs (e.rate - rate) then
      e.setRate now rate else e) = e' ∧ (playing = true → e'.source ≠ none) := by
    refine ⟨_, rfl, ?_⟩
    split <;> exact h
  unfold follow
  dsimp only
  rw [he']
  cases playing <;> cases hp : e'.isPaused
  · rfl
  · exact hp
  · exact hp
  · obtain ⟨url, hurl⟩ := Option.ne_none_iff_exists'.mp (hsource rfl)
    rw [isPaused, Option.isNone_iff_eq_none] at hp
    simp [play, hurl, hp, isPaused]

end Element

namespace Pool

lemma running_pauseExcept {p : Pool} {active : List AssetId} {i : Nat} {a : AssetId}
    (ha : (p.slot i).asset = some a) : ((p.pauseExcept active).element i).isPaused = false ↔
      (p.element i).isPaused = false ∧ a ∈ active := by
  rw [element, p.slot_pauseExcept active ha]
  by_cases hactive : a ∈ active <;> cases hp : (p.element i).isPaused <;>
    simp_all [Element.isPaused, Element.pause, element]

end Pool

namespace Request

variable {r : Request} {p q : Pool} {i : Nat} {a : AssetId} {result : Except MediaError Handle}

lemma Since.stays (h : Since r p q (.done result)) (hi : (p.slot i).prepared = true)
    (same : (q.slot i).generation = (p.slot i).generation)
    (hne : ∀ hd, result = .ok hd → hd.slot ≠ i) : (p.slot i).Stays r.asset.id (q.slot i) := by
  cases h.fate i with
  | stays hstays => exact hstays
  | lands _ _ done => exact absurd rfl (hne _ (Stage.done.inj done))
  | loads empty => simp [hi] at empty
  | takes later => omega

lemma Since.binding (h : Since r p q (.done result)) (hi : (p.slot i).prepared = true)
    (same : (q.slot i).generation = (p.slot i).generation) :
    (q.slot i).binding = (p.slot i).binding := by
  cases h.fate i with
  | stays hstays => exact hstays.binding
  | lands _ binding _ => exact binding
  | loads empty => simp [hi] at empty
  | takes later => omega

end Request

namespace Pass

lemma isPaused_attune {e : Element} {p : Pass}
    (h : p.playback.isPlaying = true → e.source ≠ none) (item : PassItem) (asset : MediaAsset)
    (now : Nat) :
    (p.attune item asset now e).isPaused = !p.playback.isPlaying := by
  unfold attune sync
  dsimp only
  split
  · rw [Element.isPaused_follow]
    rwa [(e.tame_setGain _ _).source]
  · exact Element.isPaused_follow h _ _

/-- The slot has been given to a clip. -/
def IsGiven (as : List Answer) (i : Nat) : Prop := ∃ a ∈ as, ∃ h, a.result = .ok h ∧ h.slot = i

/-- A clip has the asset, but the pool is not asked for an element: the asset needs none, or has no
url. -/
def PassesOver (assets : AssetTable) (items : List PassItem) (a : AssetId) : Prop :=
  ∃ item ∈ items, ∃ asset, assets.find? item.active.clip.asset = some asset ∧ asset.id = a ∧
    (asset.needsElement = false ∨ asset.url.isEmpty = true)

/-- What has become of the elements while a pass has gone over some clips. -/
structure Tends (assets : AssetTable) (r₀ : Rig) (playing : Bool) (done : List PassItem)
    (as : List Answer) (r : Rig) (p : Pass) : Prop where
  gently : playing = true → r.pool.Gently
  pinned : ∀ i, i ∈ p.pinned ↔ IsGiven as i
  given : ∀ i, IsGiven as i → (r.pool.element i).isPaused = !playing ∧
    ∃ a ∈ p.activeAssets, r.pool.Shows i a
  later : ∀ i, (r₀.pool.slot i).generation ≤ (r.pool.slot i).generation
  binding : ∀ i, (r₀.pool.slot i).prepared = true →
    (r.pool.slot i).generation = (r₀.pool.slot i).generation →
      (r.pool.slot i).binding = (r₀.pool.slot i).binding
  eases : ∀ i, ¬IsGiven as i → (r₀.pool.slot i).Eases (r.pool.slot i)
  runs : ∀ i, ¬IsGiven as i → (r₀.pool.element i).isPaused = false →
    (r.pool.slot i).generation = (r₀.pool.slot i).generation →
      (r.pool.element i).isPaused = false
  used : ∀ item ∈ done, ∀ asset, assets.find? item.active.clip.asset = some asset →
    asset.id ∈ p.activeAssets
  /-- Of an asset in use, no slot is left that it was bound to but has not been given to a clip,
  unless it has been passed over. -/
  unused : ∀ a ∈ p.activeAssets, PassesOver assets done a ∨
    (∃ i, IsGiven as i ∧ r.pool.Shows i a) ∨
      ∀ i, (r₀.pool.slot i).prepared = true → (r₀.pool.slot i).asset = some a →
        (r₀.pool.slot i).generation < (r.pool.slot i).generation

variable {assets : AssetTable} {r₀ r r' : Rig} {p₀ p q : Pass} {playing : Bool}
  {all done items rest : List PassItem} {as : List Answer} {item : PassItem} {asset : MediaAsset}
  {i : Nat} {a : AssetId} {target : Float} {result : Except MediaError Handle}

lemma isGiven_concat (as : List Answer) (place : Nat) (result : Except MediaError Handle)
    (i : Nat) : IsGiven (as ++ [⟨place, result⟩]) i ↔
      IsGiven as i ∨ ∃ h, result = .ok h ∧ h.slot = i := by
  simp [IsGiven, List.mem_append, or_and_right, exists_or]

lemma PassesOver.mono (h : PassesOver assets done a) (item : PassItem) :
    PassesOver assets (done ++ [item]) a := by
  obtain ⟨x, hx, hfound⟩ := h
  exact ⟨x, List.mem_append_left _ hx, hfound⟩

/-- A clip that the pool is not asked for. -/
lemma Tends.skip (h : Tends assets r₀ playing done as r p) (hpinned : q.pinned = p.pinned)
    (hactive : ∀ a, a ∈ q.activeAssets ↔ a ∈ p.activeAssets ∨
      ∃ asset, assets.find? item.active.clip.asset = some asset ∧ asset.id = a)
    (needless : ∀ asset, assets.find? item.active.clip.asset = some asset →
      asset.needsElement = false) :
    Tends assets r₀ playing (done ++ [item]) as r q where
  gently := h.gently
  pinned := hpinned ▸ h.pinned
  given i hi := by
    obtain ⟨hpaused, a, ha, hs⟩ := h.given i hi
    exact ⟨hpaused, a, (hactive a).mpr (.inl ha), hs⟩
  later := h.later
  binding := h.binding
  eases := h.eases
  runs := h.runs
  used x hx asset hfound := by
    rcases List.mem_append.mp hx with hx | hx
    · exact (hactive _).mpr (.inl (h.used x hx asset hfound))
    · rw [List.mem_singleton.mp hx] at hfound
      exact (hactive _).mpr (.inr ⟨asset, hfound, rfl⟩)
  unused a ha := by
    rcases (hactive a).mp ha with ha | ⟨asset, hfound, rfl⟩
    · exact (h.unused a ha).imp_left fun hpasses => hpasses.mono item
    · exact .inl ⟨item, by simp, asset, hfound, rfl, .inl (needless asset hfound)⟩

section Asked

variable (h : Tends assets r₀ playing done as r p) (halone : r.pool.Alone)
  (idle : r.pool.work? .main = none)
  (answers : r.pool.Answers (p.request asset target) result r'.pool)

include h halone idle answers

lemma Tends.shows (hi : IsGiven as i) (hs : r.pool.Shows i a) : r'.pool.Shows i a :=
  (answers.since halone idle).1.1.shows hs (.inl ((h.pinned i).mpr hi))

lemma Tends.element_eq (hi : IsGiven as i) (hne : ∀ hd, result = .ok hd → hd.slot ≠ i) :
    r'.pool.element i = r.pool.element i := by
  obtain ⟨-, a, -, hs⟩ := h.given i hi
  exact (answers.since halone idle).1.1.element_eq hs ((h.pinned i).mpr hi)
    fun hd hresult hslot => absurd hslot (hne hd hresult)

lemma Tends.later_asked (i : Nat) :
    (r₀.pool.slot i).generation ≤ (r'.pool.slot i).generation :=
  Nat.le_trans (h.later i) ((answers.since halone idle).1.1.eases.slot i).later

lemma Tends.same_asked (same : (r'.pool.slot i).generation = (r₀.pool.slot i).generation) :
    (r.pool.slot i).generation = (r₀.pool.slot i).generation := by
  have hlater := h.later i
  have hlater' := ((answers.since halone idle).1.1.eases.slot i).later
  omega

lemma Tends.binding_asked (hprep : (r₀.pool.slot i).prepared = true)
    (same : (r'.pool.slot i).generation = (r₀.pool.slot i).generation) :
    (r'.pool.slot i).binding = (r₀.pool.slot i).binding := by
  have hsame := h.same_asked halone idle answers same
  have hbinding := h.binding i hprep hsame
  have hprep' : (r.pool.slot i).prepared = true :=
    (Slot.binding_eq_iff.mp hbinding).2.2.1.trans hprep
  exact ((answers.since halone idle).1.1.binding hprep' (same.trans hsame.symm)).trans hbinding

lemma Tends.given_asked (hi : IsGiven as i) (hne : ∀ hd, result = .ok hd → hd.slot ≠ i) :
    (r'.pool.element i).isPaused = !playing ∧ ∃ a ∈ p.activeAssets, r'.pool.Shows i a := by
  obtain ⟨hpaused, a, ha, hs⟩ := h.given i hi
  have hsame := congrArg Element.isPaused (h.element_eq halone idle answers hi hne)
  exact ⟨hsame.trans hpaused, a, ha, h.shows halone idle answers hi hs⟩

lemma Tends.runs_asked (parked : r₀.pool.Parked) (hi : ¬IsGiven as i)
    (hne : ∀ hd, result = .ok hd → hd.slot ≠ i) (hruns : (r₀.pool.element i).isPaused = false)
    (same : (r'.pool.slot i).generation = (r₀.pool.slot i).generation) :
    (r'.pool.element i).isPaused = false := by
  have hsame := h.same_asked halone idle answers same
  have hprep : (r₀.pool.slot i).prepared = true := by
    by_contra hprep
    simp [parked i (by simpa using hprep)] at hruns
  have hprep' : (r.pool.slot i).prepared = true :=
    (Slot.binding_eq_iff.mp (h.binding i hprep hsame)).2.2.1.trans hprep
  have hstays := (answers.since halone idle).1.1.stays hprep' (same.trans hsame.symm) hne
  exact (congrArg Element.isPaused hstays.element).trans (h.runs i hi hruns hsame)

/-- The asset that is asked for is in use from now on. -/
lemma Tends.unused_asked {item : PassItem}
    (found : assets.find? item.active.clip.asset = some asset) (other : result ≠ .error .disposed)
    (ha : a ∈ asset.id :: p.activeAssets) : PassesOver assets (done ++ [item]) a ∨
      (∃ i, (IsGiven as i ∨ ∃ hd, result = .ok hd ∧ hd.slot = i) ∧ r'.pool.Shows i a) ∨
        ∀ i, (r₀.pool.slot i).prepared = true → (r₀.pool.slot i).asset = some a →
          (r₀.pool.slot i).generation < (r'.pool.slot i).generation := by
  have hlater := h.later_asked halone idle answers
  -- A slot whose asset is no longer bound has been taken away.
  have hgone (unbound : ∀ j, (r'.pool.slot j).asset ≠ some asset.id) (i : Nat)
      (hprep : (r₀.pool.slot i).prepared = true) (hasset : (r₀.pool.slot i).asset = some asset.id) :
      (r₀.pool.slot i).generation < (r'.pool.slot i).generation := by
    refine Nat.lt_of_le_of_ne (hlater i) fun same => unbound i ?_
    have hbinding := h.binding_asked halone idle answers hprep same.symm
    exact (Slot.binding_eq_iff.mp hbinding).1.trans hasset
  rcases List.mem_cons.mp ha with rfl | ha
  · obtain ⟨-, hverdict, -⟩ := answers.since halone idle
    cases hverdict with
    | served shows => exact .inr (.inl ⟨_, .inr ⟨_, rfl, rfl⟩, shows⟩)
    | missing empty => exact .inl ⟨item, by simp, asset, found, rfl, .inr empty⟩
    | disposed => exact absurd rfl other
    | exhausted unbound => exact .inr (.inr (hgone unbound))
    | failed unbound => exact .inr (.inr (hgone unbound))
  · rcases h.unused a ha with hpasses | ⟨i, hi, hs⟩ | hgone
    · exact .inl (hpasses.mono item)
    · exact .inr (.inl ⟨i, .inl hi, h.shows halone idle answers hi hs⟩)
    · refine .inr (.inr fun i hprep hasset => ?_)
      have hlater' := ((answers.since halone idle).1.1.eases.slot i).later
      exact Nat.lt_of_lt_of_le (hgone i hprep hasset) hlater'

/-- A clip that the pool is asked for. What the clip gets is brought in line with the transport, and
the other slots are as the pool has left them. -/
lemma Tends.next {item : PassItem} {r'' : Rig} (parked : r₀.pool.Parked)
    (found : assets.find? item.active.clip.asset = some asset) (other : result ≠ .error .disposed)
    (gently : playing = true → r''.pool.Gently)
    (hslot : ∀ i, (∀ hd, result = .ok hd → hd.slot ≠ i) → r''.pool.slot i = r'.pool.slot i)
    (hbinding : ∀ i, (r''.pool.slot i).binding = (r'.pool.slot i).binding)
    (hgiven : ∀ hd, result = .ok hd →
      (r''.pool.element hd.slot).isPaused = !playing ∧ r'.pool.Shows hd.slot asset.id)
    (hpinned : ∀ i, i ∈ q.pinned ↔ i ∈ p.pinned ∨ ∃ hd, result = .ok hd ∧ hd.slot = i)
    (hactive : q.activeAssets = asset.id :: p.activeAssets) :
    Tends assets r₀ playing (done ++ [item]) (as ++ [⟨item.zIndex, result⟩]) r'' q := by
  have hgen : ∀ i, (r''.pool.slot i).generation = (r'.pool.slot i).generation := fun i =>
    (Slot.binding_eq_iff.mp (hbinding i)).2.2.2
  have hshows : ∀ {i a}, r'.pool.Shows i a → r''.pool.Shows i a := fun hs =>
    hs.of_binding (hbinding _)
  -- A slot that has not been given to any clip, the last one included.
  have hold : ∀ {i}, ¬IsGiven (as ++ [⟨item.zIndex, result⟩]) i →
      ¬IsGiven as i ∧ ∀ hd, result = .ok hd → hd.slot ≠ i := fun hi => by
    rw [isGiven_concat, not_or] at hi
    exact ⟨hi.1, fun hd hresult hslot => hi.2 ⟨hd, hresult, hslot⟩⟩
  exact {
    gently
    pinned := fun i => by rw [hpinned, isGiven_concat, h.pinned]
    given := fun i hi => by
      by_cases hnew : ∃ hd, result = .ok hd ∧ hd.slot = i
      · obtain ⟨hd, hresult, rfl⟩ := hnew
        obtain ⟨hpaused, hs⟩ := hgiven hd hresult
        exact ⟨hpaused, _, hactive ▸ List.mem_cons_self, hshows hs⟩
      · have hne : ∀ hd, result = .ok hd → hd.slot ≠ i := fun hd hresult hslot =>
          hnew ⟨hd, hresult, hslot⟩
        have hi := ((isGiven_concat as item.zIndex result i).mp hi).resolve_right hnew
        obtain ⟨hpaused, a, ha, hs⟩ := h.given_asked halone idle answers hi hne
        refine ⟨?_, a, hactive ▸ List.mem_cons_of_mem _ ha, hshows hs⟩
        rwa [Pool.element, hslot i hne]
    later := fun i => hgen i ▸ h.later_asked halone idle answers i
    binding := fun i hprep same =>
      (hbinding i).trans (h.binding_asked halone idle answers hprep (hgen i ▸ same))
    eases := fun i hi => by
      obtain ⟨hi, hne⟩ := hold hi
      rw [hslot i hne]
      exact (h.eases i hi).trans ((answers.since halone idle).1.1.eases.slot i)
    runs := fun i hi hruns same => by
      obtain ⟨hi, hne⟩ := hold hi
      rw [Pool.element, hslot i hne]
      exact h.runs_asked halone idle answers parked hi hne hruns (hgen i ▸ same)
    used := fun x hx m hm => by
      rw [hactive]
      rcases List.mem_append.mp hx with hx | hx
      · exact List.mem_cons_of_mem _ (h.used x hx m hm)
      · rw [List.mem_singleton.mp hx, found] at hm
        cases hm
        exact List.mem_cons_self
    unused := fun a ha => by
      rw [hactive] at ha
      rcases h.unused_asked halone idle answers found other ha with
        hpasses | ⟨i, hi, hs⟩ | hgone
      · exact .inl hpasses
      · exact .inr (.inl ⟨i, (isGiven_concat _ _ _ _).mpr hi, hshows hs⟩)
      · exact .inr (.inr fun i hprep hasset => hgen i ▸ hgone i hprep hasset) }

end Asked

@[simp] lemma activeAssets_addLayer (p : Pass) (item : PassItem) (asset : MediaAsset)
    (slot : Option Nat) : (p.addLayer item asset slot).activeAssets = p.activeAssets := by
  unfold addLayer
  split <;> rfl

@[simp] lemma activeAssets_serve (p : Pass) (r : Rig) (item : PassItem) (asset : MediaAsset)
    (h : Handle) : (p.serve r item asset h).2.activeAssets = p.activeAssets := by
  unfold serve
  dsimp only
  rw [activeAssets_addLayer]
  split
  · split <;> rfl
  · rfl

/-- **The way of a pass over its clips.** -/
lemma Walk.tends (h : Walk r₀ p₀ all as r p items) (halone : r₀.pool.Alone)
    (idle : r₀.pool.work? .main = none) (parked : r₀.pool.Parked)
    (hstart : Tends p₀.assets r₀ p₀.playback.isPlaying [] [] r₀ p₀) :
    ∃ done, all = done ++ items ∧
      Tends p₀.assets r₀ p₀.playback.isPlaying done as r p := by
  induction h with
  | start => exact ⟨[], rfl, hstart⟩
  | @unknown as r p item rest hwalk hnone ih =>
    obtain ⟨done, hall, htends⟩ := ih
    rw [hwalk.kin.assets] at hnone
    exact ⟨done ++ [item], by simp [hall],
      htends.skip rfl (by simp [hnone, fail]) (by simp [hnone])⟩
  | @plain as r p item rest asset hwalk found needless ih =>
    obtain ⟨done, hall, htends⟩ := ih
    rw [hwalk.kin.assets] at found
    refine ⟨done ++ [item], by simp [hall], htends.skip (pinned_addLayer _ item asset none) ?_ ?_⟩
    · intro a
      simp [found, use, or_comm, eq_comm]
    · intro m hm
      rw [found] at hm
      cases hm
      exact needless
  | @serve as r r' p item rest asset target hd hwalk wants answers _ _ ih =>
    obtain ⟨done, hall, htends⟩ := ih
    obtain ⟨ha, hi⟩ := hwalk.alone halone idle
    have found := wants.found
    rw [hwalk.kin.assets] at found
    have hs : r'.pool.Shows hd.slot asset.id := answers.shows ha hi
    have hgently (hplaying : p₀.playback.isPlaying = true) : r'.pool.Gently :=
      (htends.gently hplaying).answers hi answers
    have hlt := r'.pool.lt_size_of_asset hs.2
    refine ⟨done ++ [item], by simp [hall], htends.next ha hi answers parked found
      (fun heq => by cases heq) ?_ ?_ ?_ ?_ ?_ (activeAssets_serve _ r' item asset hd)⟩
    · intro hplaying
      rw [pool_serve]
      exact (hgently hplaying).event (e := .element hd.slot _) (tame_attune _ item asset _)
    · intro i hne
      rw [pool_serve, Pool.slot_modifyElement, if_neg fun hi => hne hd rfl hi.1]
    · intro i
      rw [pool_serve]
      exact (r'.pool.agrees_modifyElement hd.slot _).binding i
    · intro hd' hsame
      cases hsame
      rw [pool_serve, Pool.element_modifyElement, if_pos ⟨rfl, hlt⟩,
        isPaused_attune (p := p.use asset) fun hplaying =>
          (hgently (hwalk.kin.playback ▸ hplaying)).source hs.1]
      exact ⟨congrArg (fun s => !s.isPlaying) hwalk.kin.playback, hs⟩
    · intro i
      simp [use, or_comm, eq_comm]
  | @refuse as r r' p item rest asset target e hwalk wants answers other _ _ ih =>
    obtain ⟨done, hall, htends⟩ := ih
    obtain ⟨ha, hi⟩ := hwalk.alone halone idle
    have found := wants.found
    rw [hwalk.kin.assets] at found
    exact ⟨done ++ [item], by simp [hall], htends.next ha hi answers parked found
      (by simpa using other) (fun hplaying => (htends.gently hplaying).answers hi answers)
      (fun _ _ => rfl) (fun _ => rfl) (fun _ heq => by cases heq) (by simp [use, fail]) rfl⟩

/-- An element runs on though no clip has been given it: it did before, its slot is bound as it was,
and its asset has been passed over. -/
structure Lingers (assets : AssetTable) (items : List PassItem) (p q : Pool) (i : Nat) : Prop where
  before : (p.element i).isPaused = false
  same : (q.slot i).generation = (p.slot i).generation
  passed : ∃ a, (p.slot i).asset = some a ∧ PassesOver assets items a

lemma Walk.parked (h : Walk r₀ p₀ all as r p items) (halone : r₀.pool.Alone)
    (idle : r₀.pool.work? .main = none) (parked : r₀.pool.Parked) : r.pool.Parked := by
  induction h with
  | start => exact parked
  | unknown _ _ ih => exact ih
  | plain _ _ _ ih => exact ih
  | @serve as r r' p item rest asset target hd hwalk _ answers _ _ ih =>
    obtain ⟨ha, hi⟩ := hwalk.alone halone idle
    have hs : r'.pool.Shows hd.slot asset.id := answers.shows ha hi
    rw [pool_serve]
    exact (ih.eases (answers.since ha hi).1.1.eases).modifyElement _ hs.1
  | refuse hwalk _ answers _ _ _ ih =>
    obtain ⟨ha, hi⟩ := hwalk.alone halone idle
    exact ih.eases (answers.since ha hi).1.1.eases

lemma pool_finish (p : Pass) (r : Rig) : (p.finish r).1.pool =
    ((r.pool.pauseExcept p.activeAssets).preload
      (p.snapshot.upcoming p.frame r.compositor.config.preloadHorizon) p.assets).2 :=
  Rig.pool_stage _ p.frame p.layers

lemma eases_finish (p : Pass) (r : Rig) : r.pool.Eases (p.finish r).1.pool := by
  rw [pool_finish]
  exact (Pool.eases_pauseExcept _ _).trans (Pool.eases_preload _ _ _)

lemma running_finish (hordered : r.pool.Ordered) (parked : r.pool.Parked) (p : Pass) (i : Nat) :
    ((p.finish r).1.pool.element i).isPaused = false ↔ (r.pool.element i).isPaused = false ∧
      ∃ a ∈ p.activeAssets, (r.pool.slot i).asset = some a := by
  rcases ha : (r.pool.slot i).asset with _ | a
  · have hprep := ((hordered.good.tidy.sound i).flags_of_unbound ha).2
    have hpaused : ((p.finish r).1.pool.element i).isPaused = true :=
      ((p.eases_finish r).slot i).paused (parked i hprep)
    simp [hpaused]
  · have hbound : ((r.pool.pauseExcept p.activeAssets).slot i).asset ≠ none := by
      rw [(Pool.keeps_pauseExcept r.pool p.activeAssets i).asset, ha]
      exact Option.some_ne_none a
    rw [pool_finish, Pool.element, Pool.slot_preload_of_bound _ p.assets hbound]
    simp only [Option.some.injEq, exists_eq_right']
    exact Pool.running_pauseExcept ha

/-- **What runs after a pass.** -/
lemma Walks.running {report : Report} (h : Walks r₀ p₀ all as r p r' report)
    (halone : r₀.pool.Alone) (idle : r₀.pool.work? .main = none) (parked : r₀.pool.Parked)
    (hstart : Tends p₀.assets r₀ p₀.playback.isPlaying [] [] r₀ p₀) (i : Nat) :
    (r'.pool.element i).isPaused = false ↔
      p₀.playback.isPlaying = true ∧ IsGiven as i ∨
        ¬IsGiven as i ∧ Lingers p₀.assets all r₀.pool r'.pool i := by
  obtain ⟨done, hall, htends⟩ := h.walk.tends halone idle parked hstart
  obtain rfl : all = done := hall.trans (List.append_nil done)
  have hordered := (h.walk.alone halone idle).1.ordered
  have hfinish := running_finish hordered (h.walk.parked halone idle parked) p i
  have heases := (p.eases_finish r).slot i
  rw [h.rig]
  by_cases hi : IsGiven as i
  · obtain ⟨hpaused, a, ha, hs⟩ := htends.given i hi
    have hactive : ∃ a ∈ p.activeAssets, (r.pool.slot i).asset = some a := ⟨a, ha, hs.2⟩
    simp [hfinish, hi, hpaused, hactive]
  · simp only [hi, and_false, false_or, not_false_eq_true, true_and]
    have hprep : (r₀.pool.element i).isPaused = false → (r₀.pool.slot i).prepared = true := by
      intro hruns
      by_contra hprep
      simp [parked i (by simpa using hprep)] at hruns
    constructor
    · intro hruns
      obtain ⟨hruns', a, ha, hasset⟩ := hfinish.mp hruns
      obtain ⟨hran, hsame⟩ := (htends.eases i hi).ran hruns'
      obtain ⟨-, hsame'⟩ := heases.ran hruns
      have hbinding := htends.binding i (hprep hran) hsame
      have hasset' := (Slot.binding_eq_iff.mp hbinding).1.symm.trans hasset
      refine ⟨hran, hsame'.trans hsame, a, hasset', ?_⟩
      rcases htends.unused a ha with hpasses | ⟨j, hj, hs⟩ | hgone
      · exact hpasses
      · exact absurd (hordered.good.tidy.distinct hs.2 hasset ▸ hj) hi
      · exact absurd hsame.symm (Nat.ne_of_lt (hgone i (hprep hran) hasset'))
    · rintro ⟨hran, same, a, hasset, item, hitem, m, hfound, rfl, -⟩
      have hlater := htends.later i
      have hlater' := heases.later
      have hsame : (r.pool.slot i).generation = (r₀.pool.slot i).generation := by omega
      have hbinding := htends.binding i (hprep hran) hsame
      refine hfinish.mpr ⟨htends.runs i hi hran hsame, m.id, htends.used item hitem m hfound, ?_⟩
      exact (Slot.binding_eq_iff.mp hbinding).1.trans hasset

lemma GivenUp.parked (h : GivenUp r₀ p₀ all r) (halone : r₀.pool.Alone)
    (idle : r₀.pool.work? .main = none) (parked : r₀.pool.Parked) : r.pool.Parked := by
  obtain ⟨as, r₁, p, items, hwalk, hpool⟩ := h
  have hparked := hwalk.parked halone idle parked
  rcases hpool with hpool | ⟨asset, target, result, answers⟩
  · exact hpool ▸ hparked
  · obtain ⟨ha, hi⟩ := hwalk.alone halone idle
    exact hparked.eases (answers.since ha hi).1.1.eases

lemma Step.Walked.parked {result : Except PreviewError Evaluation}
    (h : (Step.ended result).Walked r₀ p₀ all r) (halone : r₀.pool.Alone)
    (idle : r₀.pool.work? .main = none) (parked : r₀.pool.Parked) : r.pool.Parked := by
  rcases result with e | (report | _)
  · exact GivenUp.parked h halone idle parked
  · obtain ⟨as, r₁, p, hwalk, rfl, -⟩ := h
    exact (hwalk.parked halone idle parked).eases (p.eases_finish r₁)
  · exact GivenUp.parked h halone idle parked

lemma tends_start (snapshot : Snapshot) (assets : AssetTable) (playback : PlaybackState)
    (h : playback.isPlaying = true → r.pool.Gently) :
    Tends assets r playback.isPlaying [] [] r (start r snapshot assets playback).1 where
  gently := h
  pinned i := by simp [IsGiven, start]
  given i hi := by simp [IsGiven] at hi
  later i := Nat.le_refl _
  binding i _ _ := rfl
  eases i _ := .refl _
  runs i _ hruns _ := hruns
  used item hitem := absurd hitem List.not_mem_nil
  unused a ha := by simp [start] at ha

end Pass

end Montage
