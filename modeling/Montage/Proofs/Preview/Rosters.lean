import Montage.Proofs.Pool.Constancy
import Montage.Proofs.Pool.Pins
import Montage.Proofs.Preview.Walks
import Montage.Proofs.Timeline.Orders

/-!
Which clips get an element.

The assets that can be loaded form the roster of a frame, each once, in the order of the stack. When
nobody else makes requests, a pass serves the clips of as many assets of the roster, from the bottom
up, as the pool has slots. That is so whatever the pool has held before, and whatever is being
loaded in advance: clips whose assets are unknown or cannot be loaded take nothing away from others.
-/

namespace Montage

namespace Pass

/-- The asset of a clip, if it is known, needs an element and can be loaded. -/
def loadable? (assets : AssetTable) (b : Backend) (item : PassItem) : Option AssetId :=
  match assets.find? item.active.clip.asset with
  | none => none
  | some asset => if asset.needsElement && !b.refuses asset.url then some asset.id else none

/-- The assets of clips that can be loaded, each once. -/
def roster (assets : AssetTable) (b : Backend) (items : List PassItem) : List AssetId :=
  (items.filterMap (loadable? assets b)).eraseDups

/-- Whether the asset of a clip is among the first `n` of the roster. -/
def isOnRoster (assets : AssetTable) (b : Backend) (n : Nat) (items : List PassItem)
    (item : PassItem) : Bool :=
  (loadable? assets b item).any fun a => ((roster assets b items).take n).contains a

/-- Whether a clip is without the element that it needs, or its asset is unknown. -/
def lacks (assets : AssetTable) (b : Backend) (n : Nat) (items : List PassItem)
    (item : PassItem) : Bool :=
  match assets.find? item.active.clip.asset with
  | none => true
  | some asset => asset.needsElement && !isOnRoster assets b n items item

/-- Whether a clip is to be seen: it needs no element, or is on the roster. -/
def isStaged (assets : AssetTable) (b : Backend) (n : Nat) (items : List PassItem)
    (item : PassItem) : Bool :=
  match assets.find? item.active.clip.asset with
  | none => false
  | some asset => asset.isVisual && (!asset.needsElement || isOnRoster assets b n items item)

/-- The failure is that of a clip, and tells why the clip has no element. A clip whose asset can be
loaded is told nothing but that it is late. -/
inductive Blames (assets : AssetTable) (b : Backend) : ClipFailure → PassItem → Prop
  | unknown {item : PassItem} (none : assets.find? item.active.clip.asset = none) :
      Blames assets b ⟨item.active.clip.id, item.active.clip.asset,
        .unknownAsset item.active.clip.asset⟩ item
  | missing {item : PassItem} {asset : MediaAsset}
      (found : assets.find? item.active.clip.asset = some asset)
      (empty : asset.url.isEmpty = true) :
      Blames assets b ⟨item.active.clip.id, item.active.clip.asset,
        .missingSource item.active.clip.asset⟩ item
  | failed {item : PassItem} {asset : MediaAsset} {reason : String}
      (found : assets.find? item.active.clip.asset = some asset)
      (named : asset.url.isEmpty = false) (refuses : b.refuses asset.url = true) :
      Blames assets b ⟨item.active.clip.id, item.active.clip.asset,
        .loadFailed asset.url reason⟩ item
  | crowded {item : PassItem} {asset : MediaAsset}
      (found : assets.find? item.active.clip.asset = some asset)
      (named : asset.url.isEmpty = false) (refuses : b.refuses asset.url = true) :
      Blames assets b ⟨item.active.clip.id, item.active.clip.asset,
        .poolExhausted item.active.clip.asset⟩ item
  | late {item : PassItem} {asset : MediaAsset}
      (found : assets.find? item.active.clip.asset = some asset)
      (loads : b.refuses asset.url = false) :
      Blames assets b ⟨item.active.clip.id, item.active.clip.asset,
        .poolExhausted item.active.clip.asset⟩ item

variable {assets : AssetTable} {b : Backend} {n : Nat} {done items all rest : List PassItem}
  {item x : PassItem} {asset : MediaAsset} {a : AssetId}

/-! ### The roster with one more clip -/

lemma loadable?_of_found (found : assets.find? item.active.clip.asset = some asset) :
    loadable? assets b item =
      if asset.needsElement && !b.refuses asset.url then some asset.id else none := by
  simp only [loadable?, found]

lemma mem_roster :
    a ∈ roster assets b items ↔ ∃ item ∈ items, loadable? assets b item = some a := by
  simp [roster, List.mem_eraseDups]

/-- The assets that are served of the clips so far. -/
def served (assets : AssetTable) (b : Backend) (n : Nat) (items : List PassItem) : List AssetId :=
  (roster assets b items).take n

lemma isOnRoster_eq_true : isOnRoster assets b n items item = true ↔
    ∃ a, loadable? assets b item = some a ∧ a ∈ served assets b n items := by
  simp [isOnRoster, served, Option.any_eq_true]

lemma nodup_served (assets : AssetTable) (b : Backend) (n : Nat) (items : List PassItem) :
    (served assets b n items).Nodup :=
  (nodup_eraseDups _).sublist (List.take_sublist _ _)

lemma roster_of_none (h : loadable? assets b item = none) :
    roster assets b (done ++ [item]) = roster assets b done := by
  simp [roster, h]

lemma roster_of_some (h : loadable? assets b item = some a) :
    roster assets b (done ++ [item]) =
      if a ∈ roster assets b done then roster assets b done else roster assets b done ++ [a] := by
  have hmap : (done ++ [item]).filterMap (loadable? assets b) =
      done.filterMap (loadable? assets b) ++ [a] := by simp [h]
  rw [roster, hmap, eraseDups_concat]
  simp only [roster, List.mem_eraseDups]

lemma served_of_lt (h : (served assets b n done).length < n) :
    served assets b n done = roster assets b done := by
  rw [served, List.length_take] at h
  exact List.take_of_length_le (by omega)

/-- What becomes of the served assets with one more clip. -/
lemma served_concat (assets : AssetTable) (b : Backend) (n : Nat) (done : List PassItem)
    (item : PassItem) :
    served assets b n (done ++ [item]) = served assets b n done ∧
        ((served assets b n done).length < n → ∀ a, loadable? assets b item = some a →
          a ∈ served assets b n done) ∨
      ∃ a, loadable? assets b item = some a ∧ a ∉ served assets b n done ∧
        (served assets b n done).length < n ∧
        served assets b n (done ++ [item]) = served assets b n done ++ [a] := by
  rcases hl : loadable? assets b item with _ | a
  · exact .inl ⟨by rw [served, roster_of_none hl, served], fun _ a h => by cases h⟩
  · by_cases hlt : (served assets b n done).length < n
    · have hall := served_of_lt hlt
      by_cases ha : a ∈ roster assets b done
      · refine .inl ⟨by rw [served, roster_of_some hl, if_pos ha, served], fun _ a' h => ?_⟩
        cases h
        rw [hall]
        exact ha
      · refine .inr ⟨a, rfl, by rwa [hall], hlt, ?_⟩
        rw [hall] at hlt ⊢
        rw [served, roster_of_some hl, if_neg ha]
        refine List.take_of_length_le ?_
        rw [List.length_append, List.length_singleton]
        exact hlt
    · refine .inl ⟨?_, fun h => absurd h hlt⟩
      have hlen : n ≤ (roster assets b done).length := by
        rw [served, List.length_take] at hlt
        omega
      rw [served, roster_of_some hl]
      split
      · rfl
      · exact List.take_append_of_le_length hlen

lemma isOnRoster_concat (hx : x ∈ done) (item : PassItem) :
    isOnRoster assets b n (done ++ [item]) x = isOnRoster assets b n done x := by
  rw [Bool.eq_iff_iff, isOnRoster_eq_true, isOnRoster_eq_true]
  rcases served_concat assets b n done item with ⟨hsame, -⟩ | ⟨a, -, -, hlt, hmore⟩
  · rw [hsame]
  · rw [hmore, served_of_lt hlt]
    refine exists_congr fun a' => and_congr_right fun ha' => ?_
    have hmem : a' ∈ roster assets b done := mem_roster.mpr ⟨x, hx, ha'⟩
    simp [hmem]

lemma lacks_concat (hx : x ∈ done) (item : PassItem) :
    lacks assets b n (done ++ [item]) x = lacks assets b n done x := by
  unfold lacks
  rw [isOnRoster_concat hx]

/-! ### The way over the clips -/

/-- A pass has gone over some clips, and has served those on the roster. -/
structure Rostered (url : AssetId → String) (b : Backend) (assets : AssetTable) (n : Nat)
    (done : List PassItem) (as : List Answer) (r : Rig) (p : Pass) : Prop where
  keeps : r.pool.KeepsTo url b
  size : r.pool.size = n
  pins : r.pool.Pins p.pinned (served assets b n done)
  places : ∀ a ∈ as, a.place ∈ done.map (·.zIndex)
  answered : ∀ item ∈ done,
    (as.any fun a => a.place = item.zIndex && a.result.isOk) = isOnRoster assets b n done item
  failures : List.Forall₂ (Blames assets b) p.report.failures (done.filter (lacks assets b n done))

variable {url : AssetId → String} {as bs : List Answer} {r r' : Rig} {p q : Pass}
  {target : Float}

/-- On to the next clip. -/
lemma Rostered.next (h : Rostered url b assets n done as r p) (bs : List Answer)
    (failures : List ClipFailure) (hn : item.zIndex ∉ done.map (·.zIndex))
    (keeps : r'.pool.KeepsTo url b)
    (size : r'.pool.size = n) (pins : r'.pool.Pins q.pinned (served assets b n (done ++ [item])))
    (places : ∀ a ∈ bs, a.place = item.zIndex)
    (answered : (bs.any fun a => a.result.isOk) = isOnRoster assets b n (done ++ [item]) item)
    (hfailures : q.report.failures = p.report.failures ++ failures)
    (blames : List.Forall₂ (Blames assets b) failures
      ([item].filter (lacks assets b n (done ++ [item])))) :
    Rostered url b assets n (done ++ [item]) (as ++ bs) r' q where
  keeps := keeps
  size := size
  pins := pins
  places a ha := by
    rw [List.map_append, List.mem_append]
    rcases List.mem_append.mp ha with ha | ha
    · exact .inl (h.places a ha)
    · exact .inr (by simp [places a ha])
  answered x hx := by
    rw [List.any_append]
    rcases List.mem_append.mp hx with hx | hx
    · have hother : (bs.any fun a => a.place = x.zIndex && a.result.isOk) = false := by
        rw [List.any_eq_false]
        intro a ha
        have hne : item.zIndex ≠ x.zIndex := fun heq => hn (heq ▸ List.mem_map_of_mem hx)
        simp [places a ha, hne]
      rw [h.answered x hx, hother, Bool.or_false, isOnRoster_concat hx]
    · rw [List.mem_singleton.mp hx]
      have hother : (as.any fun a => a.place = item.zIndex && a.result.isOk) = false := by
        rw [List.any_eq_false]
        intro a ha
        have hne : a.place ≠ item.zIndex := fun heq => hn (heq ▸ h.places a ha)
        simp [hne]
      have hsame : (bs.any fun a => a.place = item.zIndex && a.result.isOk) =
          bs.any fun a => a.result.isOk := by
        rw [Bool.eq_iff_iff, List.any_eq_true, List.any_eq_true]
        exact exists_congr fun a => and_congr_right fun ha => by simp [places a ha]
      rw [hother, Bool.false_or, hsame, answered]
  failures := by
    have hbefore : done.filter (lacks assets b n (done ++ [item])) =
        done.filter (lacks assets b n done) :=
      List.filter_congr fun x hx => lacks_concat hx item
    rw [hfailures, List.filter_append, hbefore]
    exact List.rel_append h.failures blames

lemma Rostered.skip (h : Rostered url b assets n done as r p) (failures : List ClipFailure)
    (hn : item.zIndex ∉ done.map (·.zIndex)) (hnone : loadable? assets b item = none)
    (hpinned : q.pinned = p.pinned) (hfailures : q.report.failures = p.report.failures ++ failures)
    (blames : List.Forall₂ (Blames assets b) failures
      ([item].filter (lacks assets b n (done ++ [item])))) :
    Rostered url b assets n (done ++ [item]) as r q := by
  have hserved : served assets b n (done ++ [item]) = served assets b n done := by
    rw [served, roster_of_none hnone, served]
  have hnext := h.next [] failures (q := q) hn h.keeps h.size
    (by rw [hpinned, hserved]; exact h.pins) (by simp) (by simp [isOnRoster, hnone]) hfailures
    blames
  rwa [List.append_nil] at hnext

/-- What a pass has to go by when it asks the pool for the element of a clip. -/
structure Asking (url : AssetId → String) (assets : AssetTable) (r : Rig) (p : Pass) : Prop where
  alone : r.pool.Alone
  idle : r.pool.work? .main = none
  table : p.assets = assets
  urls : ∀ a m, assets.find? a = some m → m.url = url a

section Asked

variable (h : Rostered url b assets n done as r p) (hask : Asking url assets r p)
  (wants : p.Wants item asset target)

include hask wants

lemma Asking.found : assets.find? item.active.clip.asset = some asset ∧
    asset.id = item.active.clip.asset ∧ asset.url = url asset.id := by
  have hfound := wants.found
  rw [hask.table] at hfound
  have hid := AssetTable.id_of_find? hfound
  exact ⟨hfound, hid, hid ▸ hask.urls _ _ hfound⟩

include h

lemma Rostered.asked {result : Except MediaError Handle}
    (answers : r.pool.Answers (p.request asset target) result r'.pool) :
    (r'.pool.KeepsTo url b ∧ r'.pool.size = n) ∧ r'.pool.Alone ∧
      r'.pool.Pins p.pinned (served assets b n done) := by
  obtain ⟨⟨hsince, -⟩, -⟩ := answers.since hask.alone hask.idle
  exact ⟨⟨h.keeps.answers hask.idle (hask.found wants).2.2 answers, hsince.size.trans h.size⟩,
    hsince.alone, h.pins.keep hsince.alone.ordered.good.tidy fun i a hi hs =>
      hsince.shows hs (.inl hi)⟩

lemma Rostered.room {result : Except MediaError Handle} {i : Nat}
    (answers : r.pool.Answers (p.request asset target) result r'.pool) (hs : r'.pool.Shows i a) :
    a ∈ served assets b n done ∨ (served assets b n done).length < n := by
  obtain ⟨⟨-, hsize⟩, halone, hpins⟩ := h.asked hask wants answers
  by_cases hfull : r'.pool.size ≤ (served assets b n done).length
  · have hall := (hpins.full_iff halone.ordered.good.tidy (nodup_served assets b n done)).mpr hfull
    obtain ⟨c, hc, hs'⟩ := (hpins.mem i).mp (hall i hs.lt_size)
    exact .inl (Option.some.inj (hs.2.symm.trans hs'.2) ▸ hc)
  · rw [hsize] at hfull
    exact .inr (Nat.lt_of_not_le hfull)

/-- A clip gets its element, so its asset is on the roster. -/
lemma Rostered.serve {hd : Handle} (hn : item.zIndex ∉ done.map (·.zIndex))
    (answers : r.pool.Answers (p.request asset target) (.ok hd) r'.pool) :
    Rostered url b assets n (done ++ [item]) (as ++ [⟨item.zIndex, .ok hd⟩])
      ((p.use asset).serve r' item asset hd).1 ((p.use asset).serve r' item asset hd).2 := by
  obtain ⟨hfound, -, hurl⟩ := hask.found wants
  obtain ⟨⟨hkeeps, hsize⟩, halone, hpins⟩ := h.asked hask wants answers
  obtain ⟨-, hverdict, -⟩ := answers.since hask.alone hask.idle
  obtain ⟨i, stale, hs, rfl⟩ :
      ∃ i stale, r'.pool.Shows i asset.id ∧ hd = ⟨asset.id, i, stale⟩ := by
    cases hverdict with
    | served shows => exact ⟨_, _, shows, rfl⟩
  have hloadable : loadable? assets b item = some asset.id := by
    rw [loadable?_of_found hfound, hurl, hkeeps.not_refuses hs, wants.needed]
    rfl
  -- All that is served from now on is what was, and this asset.
  have hmem : ∀ c, c ∈ served assets b n (done ++ [item]) ↔
      c ∈ served assets b n done ∨ c = asset.id := by
    intro c
    rcases served_concat assets b n done item with ⟨hsame, hlt⟩ | ⟨a, ha, -, -, hmore⟩
    · have hserved := (h.room hask wants answers hs).elim id fun hroom => hlt hroom _ hloadable
      rw [hsame]
      exact ⟨.inl, fun hc => hc.elim id fun hc => hc ▸ hserved⟩
    · obtain rfl : asset.id = a := Option.some.inj (hloadable.symm.trans ha)
      rw [hmore]
      simp
  have hon : isOnRoster assets b n (done ++ [item]) item = true :=
    isOnRoster_eq_true.mpr ⟨_, hloadable, (hmem _).mpr (.inr rfl)⟩
  have hlacks : lacks assets b n (done ++ [item]) item = false := by
    simp only [lacks, hfound, hon, Bool.not_true, Bool.and_false]
  have hsource : (r'.pool.element i).source ≠ none := by
    rw [hkeeps.source hs]
    exact Option.some_ne_none _
  have hagrees := r'.pool.agrees_modifyElement i ((p.use asset).attune item asset r'.pool.now)
  have halone' := halone.modifyElement i ((p.use asset).attune item asset r'.pool.now)
  refine h.next _ [] hn ?_ ?_ ?_ (by simp) (by simp [hon, Except.isOk, Except.toBool]) ?_
    (by simp [hlacks])
  · rw [pool_serve]
    exact hkeeps.event (e := .element i _)
      ⟨tame_attune _ item asset _, fun _ _ ho => ho.elim, nofun⟩
  · rw [pool_serve]
    exact hagrees.size.trans hsize
  · rw [pool_serve, pinned_serve]
    refine (hpins.cons halone.ordered.good.tidy hs hmem).keep halone'.ordered.good.tidy ?_
    exact fun j c _ hj => hj.of_slot (hagrees.slot j)
  · rw [failures_serve hsource, List.append_nil]
    rfl

/-- Why a clip does not get its element: its asset cannot be loaded, or all slots have been given to
others. -/
lemma Rostered.blames {e : MediaError}
    (answers : r.pool.Answers (p.request asset target) (.error e) r'.pool) (other : e ≠ .disposed) :
    (∀ a, loadable? assets b item = some a →
      a ∉ served assets b n done ∧ n ≤ (served assets b n done).length) ∧
        Blames assets b ⟨item.active.clip.id, item.active.clip.asset, e⟩ item := by
  obtain ⟨hfound, hid, hurl⟩ := hask.found wants
  obtain ⟨⟨-, hsize⟩, halone, hpins⟩ := h.asked hask wants answers
  obtain ⟨-, hverdict, hnamed⟩ := answers.since hask.alone hask.idle
  have hnone (hrefuses : b.refuses asset.url = true) : loadable? assets b item = none := by
    simp [loadable?_of_found hfound, hrefuses]
  have hempty (he : ¬e = .missingSource asset.id) : asset.url.isEmpty = false :=
    hnamed.resolve_left fun heq => he (Except.error.inj heq)
  cases hverdict with
  | missing empty =>
    have hrefuses : b.refuses asset.url = true := by
      have hurl' : asset.url.isEmpty = true := empty
      simp [Backend.refuses, hurl']
    refine ⟨fun a ha => by simp [hnone hrefuses] at ha, ?_⟩
    change Blames assets b ⟨_, _, .missingSource asset.id⟩ item
    rw [hid]
    exact .missing hfound empty
  | disposed => exact absurd rfl other
  | exhausted unbound all =>
    refine ⟨fun a ha => ?_, ?_⟩
    · obtain rfl : asset.id = a := by
        rw [loadable?_of_found hfound] at ha
        split at ha
        · exact Option.some.inj ha
        · cases ha
      refine ⟨fun hmem => ?_, ?_⟩
      · obtain ⟨i, hs⟩ := hpins.shows _ hmem
        exact unbound i hs.2
      · have hfull := (hpins.full_iff halone.ordered.good.tidy
          (nodup_served assets b n done)).mp all
        rwa [hsize] at hfull
    · change Blames assets b ⟨_, _, .poolExhausted asset.id⟩ item
      rw [hid]
      rcases hrefuses : b.refuses asset.url with _ | _
      · exact .late hfound hrefuses
      · exact .crowded hfound (hempty fun heq => by cases heq) hrefuses
  | @failed reason unbound refuses =>
    have hrefuses : b.refuses asset.url = true := by
      have hsame := h.keeps.refuses asset.id
      rw [← hurl] at hsame
      exact hsame.symm.trans refuses
    refine ⟨fun a ha => by simp [hnone hrefuses] at ha, ?_⟩
    exact .failed hfound (hempty fun heq => by cases heq) hrefuses

/-- A clip does not get its element, and its failure tells why. -/
lemma Rostered.refuse {e : MediaError} (hn : item.zIndex ∉ done.map (·.zIndex))
    (answers : r.pool.Answers (p.request asset target) (.error e) r'.pool) (other : e ≠ .disposed) :
    Rostered url b assets n (done ++ [item]) (as ++ [⟨item.zIndex, .error e⟩]) r'
      ((p.use asset).fail item e) := by
  obtain ⟨⟨hkeeps, hsize⟩, -, hpins⟩ := h.asked hask wants answers
  obtain ⟨hlate, hblames⟩ := h.blames hask wants answers other
  have hserved : served assets b n (done ++ [item]) = served assets b n done := by
    rcases served_concat assets b n done item with ⟨hsame, -⟩ | ⟨a, ha, -, hlt, -⟩
    · exact hsame
    · exact absurd hlt (Nat.not_lt_of_le (hlate a ha).2)
  have hon : isOnRoster assets b n (done ++ [item]) item = false := by
    rw [Bool.eq_false_iff, ne_eq, isOnRoster_eq_true, hserved]
    rintro ⟨a, ha, hmem⟩
    exact (hlate a ha).1 hmem
  have hlacks : lacks assets b n (done ++ [item]) item = true := by
    simp only [lacks, (hask.found wants).1, hon, wants.needed, Bool.not_false, Bool.and_self]
  refine h.next _ [⟨item.active.clip.id, item.active.clip.asset, e⟩] hn hkeeps hsize ?_
    (by simp) (by simp [hon, Except.isOk, Except.toBool]) rfl ?_
  · rw [hserved]
    exact hpins
  · rw [List.filter_cons_of_pos hlacks, List.filter_nil]
    exact .cons hblames .nil

end Asked

variable {r₀ : Rig} {p₀ : Pass}

/-- **The way over all clips.** -/
lemma Walk.rostered (h : Walk r₀ p₀ all as r p items) (hn : (all.map (·.zIndex)).Nodup)
    (hask : Asking url assets r₀ p₀) (hstart : Rostered url b assets n [] [] r₀ p₀) :
    ∃ done, all = done ++ items ∧ Rostered url b assets n done as r p := by
  have hasking : ∀ {as r p items}, Walk r₀ p₀ all as r p items → Asking url assets r p := by
    intro as r p items hwalk
    obtain ⟨halone, hidle⟩ := hwalk.alone hask.alone hask.idle
    exact ⟨halone, hidle, hwalk.kin.assets.trans hask.table, hask.urls⟩
  have hfresh : ∀ {done item rest}, all = done ++ item :: rest →
      item.zIndex ∉ done.map (·.zIndex) := by
    rintro done item rest rfl hmem
    rw [List.map_append, List.map_cons] at hn
    exact List.disjoint_of_nodup_append hn hmem List.mem_cons_self
  induction h with
  | start => exact ⟨[], rfl, hstart⟩
  | @unknown as r p item rest hwalk hnone ih =>
    obtain ⟨done, hall, hdone⟩ := ih
    rw [(hasking hwalk).table] at hnone
    refine ⟨done ++ [item], by simp [hall], hdone.skip _ (hfresh hall) (by simp [loadable?, hnone])
      rfl rfl ?_⟩
    rw [List.filter_cons_of_pos (by simp only [lacks, hnone]), List.filter_nil]
    exact .cons (.unknown hnone) .nil
  | @plain as r p item rest asset hwalk found needless ih =>
    obtain ⟨done, hall, hdone⟩ := ih
    rw [(hasking hwalk).table] at found
    refine ⟨done ++ [item], by simp [hall], hdone.skip [] (hfresh hall)
      (by simp [loadable?_of_found found, needless]) (pinned_addLayer _ item asset none) ?_ ?_⟩
    · rw [report_addLayer, List.append_nil]
      rfl
    · rw [List.filter_cons_of_neg (by simp [lacks, found, needless]), List.filter_nil]
      exact .nil
  | @serve as r r' p item rest asset target hd hwalk wants answers _ _ ih =>
    obtain ⟨done, hall, hdone⟩ := ih
    exact ⟨done ++ [item], by simp [hall],
      hdone.serve (hasking hwalk) wants (hfresh hall) answers⟩
  | @refuse as r r' p item rest asset target e hwalk wants answers other _ _ ih =>
    obtain ⟨done, hall, hdone⟩ := ih
    exact ⟨done ++ [item], by simp [hall],
      hdone.refuse (hasking hwalk) wants (hfresh hall) answers other⟩

/-- **All clips of an evaluation.** -/
lemma Walks.rostered {config : PoolConfig} {es : List Pool.Event} {snapshot : Snapshot}
    {playback : PlaybackState} {report : Report}
    (h : Walks r₀ (start r₀ snapshot assets playback).1 (start r₀ snapshot assets playback).2 as r p
      r' report)
    (pool : r₀.pool = (Pool.new config b).run es) (keeps : ∀ e ∈ es, e.KeepsTo url b)
    (urls : ∀ a m, assets.find? a = some m → m.url = url a) (idle : r₀.pool.work? .main = none)
    (alone : r₀.pool.Alone) :
    Rostered url b assets r₀.pool.size (start r₀ snapshot assets playback).2 as r p := by
  have hstart : Rostered url b assets r₀.pool.size [] [] r₀ (start r₀ snapshot assets playback).1 :=
    ⟨⟨config, es, pool, keeps⟩, rfl, ⟨by simp [served, roster], fun i => by
      simp [served, roster, start]⟩, by simp, by simp, by simp [start]⟩
  obtain ⟨done, hall, hdone⟩ := h.walk.rostered (nodup_start r₀ snapshot assets playback)
    ⟨alone, idle, rfl, urls⟩ hstart
  rw [hall, List.append_nil]
  exact hdone

end Pass

/-- **Which clips get an element.** Each asset has one url, and from there it always loads or never
does. Nobody makes requests beside the pass, but the pool may have held anything before, and loads
in advance may be under way. Then a pass that is applied serves just the clips of the first assets
that can be loaded, as many as the pool has slots. It tells of each clip without an element why it
has none, which for an asset that can be loaded is nothing but that all slots are taken. To be seen
a clip needs no element or is served: what is wrong with one asset takes no other clip away. -/
theorem evaluate_serves_roster (url : AssetId → String) (config : PoolConfig) (backend : Backend)
    (es : List Pool.Event) (r r' : Rig) (snapshot : Snapshot) (assets : AssetTable)
    (playback : PlaybackState) (report : Report) (pool : r.pool = (Pool.new config backend).run es)
    (keeps : ∀ e ∈ es, e.KeepsTo url backend)
    (urls : ∀ a m, assets.find? a = some m → m.url = url a)
    (idle : r.pool.work? .main = none)
    (others : ∀ t ≠ TaskId.main, ∀ q stage, r.pool.work? t = some (.request q stage) →
      ∃ result, stage = .done result)
    (proceeds : Pass.Proceeds (r.evaluate snapshot assets playback).1
      (r.evaluate snapshot assets playback).2 r' (.ended (.ok (.applied report)))) :
    let p₀ := (Pass.start r snapshot assets playback).1
    let items := (Pass.start r snapshot assets playback).2
    ∃ answers layers, Pass.Trail r (.clips p₀ items) answers r'
        (.step (.ended (.ok (.applied report)))) ∧
      (∀ item ∈ items, (answers.any fun a => a.place = item.zIndex && a.result.isOk) =
        Pass.isOnRoster assets backend r.pool.size items item) ∧
      List.Forall₂ (Pass.Blames assets backend) report.failures
        (items.filter (Pass.lacks assets backend r.pool.size items)) ∧
      r'.compositor.HasStaged report.frame layers ∧
      List.Forall₂ (Pass.Draws r.host.playhead r.compositor.config.viewport) layers
        (items.filter (Pass.isStaged assets backend r.pool.size items)) := by
  intro p₀ items
  obtain ⟨answers, r₁, p, hwalks⟩ := proceeds.walks
  have hdone : Pass.Rostered url backend assets r.pool.size items answers r₁ p :=
    hwalks.rostered pool keeps urls idle (.of_run pool idle others)
  obtain ⟨r₂, layers, hrig, hstages⟩ := hwalks.trail.stands_start
  have hseen : items.filter (Pass.shows assets answers) =
      items.filter (Pass.isStaged assets backend r.pool.size items) := by
    refine List.filter_congr fun item hitem => ?_
    cases hfind : assets.find? item.active.clip.asset with
    | none => simp only [Pass.shows, Pass.isStaged, hfind]
    | some asset => simp only [Pass.shows, Pass.isStaged, hfind, hdone.answered item hitem]
  refine ⟨answers, layers, hwalks.trail, hdone.answered, ?_, ?_, ?_⟩
  · rw [hwalks.report]
    exact hdone.failures
  · rw [hrig]
    exact r₂.hasStaged_stage _ _
  · rw [← hseen]
    exact hstages.draws

/-- A shot above another whose file is broken. -/
def Snapshot.torn : Snapshot :=
  .ofClips .fps30
    [{ id := ⟨⟨1⟩⟩, name := "V1", order := 0 }, { id := ⟨⟨2⟩⟩, name := "V2", order := 1 }]
    [.place ⟨⟨1⟩⟩ ⟨⟨1⟩⟩ ⟨"broken"⟩ 0 30, .place ⟨⟨2⟩⟩ ⟨⟨2⟩⟩ ⟨"first"⟩ 0 30]

def AssetTable.torn : AssetTable :=
  ⟨[.video ⟨"broken"⟩ "broken.mp4" 20.0, .video ⟨"first"⟩ "first.mp4" 20.0]⟩

def Backend.torn : Backend := { failing := ["broken.mp4"] }

def ActiveClip.tornLower : ActiveClip where
  clip := .place ⟨⟨1⟩⟩ ⟨⟨1⟩⟩ ⟨"broken"⟩ 0 30
  track := { id := ⟨⟨1⟩⟩, name := "V1", order := 0 }
  sourceFrame := 0

def ActiveClip.tornUpper : ActiveClip where
  clip := .place ⟨⟨2⟩⟩ ⟨⟨2⟩⟩ ⟨"first"⟩ 0 30
  track := { id := ⟨⟨2⟩⟩, name := "V2", order := 1 }
  sourceFrame := 0

lemma Snapshot.clips_torn : (Snapshot.torn.activeAt 0).clips = [.tornLower, .tornUpper] := by
  have hsorted : (Snapshot.torn.activeAt 0).clips =
      [ActiveClip.tornLower, .tornUpper].mergeSort fun a b => (a.compare b).isLE := rfl
  have hle : (ActiveClip.tornLower.compare .tornUpper).isLE = true := by decide
  rw [hsorted]
  simp [List.mergeSort, hle, List.MergeSort.Internal.splitInTwo]

def PassItem.torn : List PassItem := [⟨0, .tornLower⟩, ⟨1, .tornUpper⟩]

lemma Pass.start_torn {r : Rig} (h : r.host.playhead = 0) (assets : AssetTable)
    (playback : PlaybackState) : (Pass.start r .torn assets playback).2 = PassItem.torn := by
  rw [Pass.start, h, Snapshot.clips_torn]
  rfl

/-- A compositor with a single element, to which the file is broken. -/
def Rig.torn : Rig :=
  ⟨{ config := {}, pool := (Pool.new { poolSize := 1 } .torn).run [] }, {}⟩

/-- The pass after so many loads. -/
def Rig.tornAfter : Nat → Rig × Pass.Step
  | 0 => (Pass.start Rig.torn .torn .torn {}).1.run Rig.torn PassItem.torn
  | n + 1 => Pass.resume ((Rig.tornAfter n).1.modifyPool fun pool =>
      Pool.Event.apply pool (.schedule { now := 20 * (n + 1) })) (Rig.tornAfter n).2

lemma Rig.evaluate_torn : Rig.torn.evaluate .torn .torn {} = Rig.tornAfter 0 :=
  Rig.evaluate_of_start rfl (by decide) (Pass.start_torn rfl _ _)

lemma Rig.proceeds_torn : Pass.Proceeds (Rig.torn.evaluate .torn .torn {}).1
    (Rig.torn.evaluate .torn .torn {}).2 (Rig.tornAfter 2).1 (Rig.tornAfter 2).2 := by
  rw [Rig.evaluate_torn]
  have hzero : (Rig.tornAfter 0).2.isWaiting = true := by decide +kernel
  have hone : (Rig.tornAfter 1).2.isWaiting = true := by decide +kernel
  exact (Pass.Proceeds.refl.wake hzero _).wake hone _

lemma AssetTable.urls_torn (a : AssetId) (m : MediaAsset) (h : AssetTable.torn.find? a = some m) :
    m.url = a.name ++ ".mp4" := by
  obtain rfl : m.id = a := AssetTable.id_of_find? h
  have hmem : m ∈ AssetTable.torn.entries := List.mem_of_find?_eq_some h
  simp only [torn, List.mem_cons, List.not_mem_nil, or_false] at hmem
  rcases hmem with rfl | rfl <;> rfl

/-- The broken file is told of, and the shot above it is staged. -/
theorem evaluate_serves_roster_torn : ∃ report layer, (Rig.tornAfter 2).2.report? = some report ∧
    report.failures.map (·.clip) = [⟨⟨1⟩⟩] ∧ layer.asset = ⟨"first"⟩ ∧
      (Rig.tornAfter 2).1.compositor.HasStaged report.frame [layer] := by
  have hends : (Rig.tornAfter 2).2.report?.isSome = true := by decide +kernel
  obtain ⟨report, hreport⟩ := Option.isSome_iff_exists.mp hends
  have hproceeds := Rig.proceeds_torn
  rw [Pass.Step.eq_of_report? hreport] at hproceeds
  obtain ⟨answers, layers, -, -, hblames, hstaged, hdraws⟩ := evaluate_serves_roster
    (fun a => a.name ++ ".mp4") { poolSize := 1 } .torn [] Rig.torn (Rig.tornAfter 2).1 .torn .torn {}
    report rfl (by simp) AssetTable.urls_torn rfl (fun t _ q stage hw => by cases hw) hproceeds
  have hlacks : PassItem.torn.filter (Pass.lacks .torn .torn Rig.torn.pool.size PassItem.torn) =
      [⟨0, .tornLower⟩] := rfl
  have hseen : PassItem.torn.filter (Pass.isStaged .torn .torn Rig.torn.pool.size PassItem.torn) =
      [⟨1, .tornUpper⟩] := rfl
  rw [Pass.start_torn rfl, hlacks] at hblames
  rw [Pass.start_torn rfl, hseen] at hdraws
  obtain ⟨failure, failures, hfailure, hnil, hfailures⟩ := List.forall₂_cons_right_iff.mp hblames
  obtain ⟨layer, others, hdraw, hnone, rfl⟩ := List.forall₂_cons_right_iff.mp hdraws
  obtain rfl := List.forall₂_nil_right_iff.mp hnil
  obtain rfl := List.forall₂_nil_right_iff.mp hnone
  refine ⟨report, layer, hreport, ?_, hdraw.asset, hstaged⟩
  rw [hfailures]
  cases hfailure <;> rfl

end Montage
