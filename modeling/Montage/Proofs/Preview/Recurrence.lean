import Montage.Proofs.Pool.Residents
import Montage.Proofs.Preview.Rosters
import Montage.Proofs.Preview.Running

/-!
A pass after another one over the same assets.

What the first pass has served is pinned at its end, and bound still when the second one begins. The
second one finds it there, and keeps it, unless the asset of a clip further down fails to load: for
that asset the pool takes the slot used longest ago, which may be that of a clip yet to come. Assets
that are unknown, have no url, or find all slots pinned take nothing away.
-/

namespace Montage

namespace Pool

/-- Nobody makes requests: loads in advance have their turns and time passes. -/
inductive Idles (p : Pool) : Pool → Prop
  | refl : Idles p p
  | beside {q : Pool} {e : Event} (h : Idles p q) (he : e.Beside q) : Idles p (e.apply q)

/-- The pool is left to the main task, and shows what it showed. -/
structure Abides (p q : Pool) : Prop where
  alone : q.Alone
  idle : q.work? .main = none
  size : q.size = p.size
  failing : q.backend.failing = p.backend.failing
  shows : ∀ {i a}, p.Shows i a → p.SameAt q i ∧ q.Shows i a

variable {p q q' : Pool} {e : Event}

namespace Abides

lemma refl (hp : p.Alone) (idle : p.work? .main = none) : p.Abides p :=
  ⟨hp, idle, rfl, rfl, fun hs => ⟨.refl p _, hs⟩⟩

lemma trans (h : p.Abides q) (h' : q.Abides q') : p.Abides q' where
  alone := h'.alone
  idle := h'.idle
  size := h'.size.trans h.size
  failing := h'.failing.trans h.failing
  shows hs := by
    obtain ⟨hsame, hs⟩ := h.shows hs
    obtain ⟨hsame', hs⟩ := h'.shows hs
    exact ⟨hsame.trans hsame', hs⟩

lemma of_background (he : e.Background p) (hp : p.Alone) (idle : p.work? .main = none)
    (hfailing : (e.apply p).backend.failing = p.backend.failing)
    (hbinding : ∀ {i a}, p.Shows i a → ((e.apply p).slot i).binding = (p.slot i).binding) :
    p.Abides (e.apply p) where
  alone := he.alone hp
  idle := (he.work?_main hp.ordered hp.main).trans idle
  size := hp.ordered.size_run [e]
  failing := hfailing
  shows hs := ⟨.of_binding (hbinding hs), hs.of_binding (hbinding hs)⟩

end Abides

lemma Idles.abides (h : p.Idles q) (hp : p.Alone) (idle : p.work? .main = none) : p.Abides q := by
  induction h with
  | refl => exact .refl hp idle
  | beside _ he ih =>
    refine ih.trans (.of_background he.background ih.alone ih.idle
      (Event.eases he.handsOff).failing fun hs => ?_)
    exact congrArg Slot.binding (he.slot_eq ih.alone (ih.alone.isOpen_of_prepared hs.1))

end Pool

namespace Pass

variable {assets : AssetTable} {before keys : List AssetId} {as as' : List Answer} {p q : Pool}
  {pinned pinned' own : List Nat} {a : AssetId}

/-! ### The first pass -/

/-- The asset is known, needs an element and has a url. -/
def Named (assets : AssetTable) (a : AssetId) : Prop :=
  ∃ asset, assets.find? a = some asset ∧ asset.needsElement = true ∧ asset.url.isEmpty = false

/-- What has come of the asset of a clip, after the assets of other clips: a pinned slot shows it,
or all slots have been pinned for others, or it cannot be had. -/
inductive Fared (assets : AssetTable) (p : Pool) (pinned : List Nat) (before : List AssetId)
    (a : AssetId) : Prop
  | shown {i : Nat} (hi : i ∈ pinned) (shows : p.Shows i a)
  | crowded (all : ∀ j, j < p.size → j ∈ pinned ∧ ∃ b ∈ before, p.Shows j b)
  | vain (refused : ∀ asset, assets.find? a = some asset → asset.needsElement = true →
      p.backend.refuses asset.url = true)

/-- What has come of the assets of clips, in their order. -/
structure Settles (assets : AssetTable) (keys : List AssetId) (as : List Answer) (p : Pool)
    (pinned : List Nat) : Prop where
  fared : ∀ before a after, keys = before ++ a :: after → Fared assets p pinned before a
  known : ∀ i ∈ pinned, ∃ a ∈ keys, p.Shows i a ∧ Named assets a
  given : ∀ x ∈ as, ∀ h, x.result = .ok h →
    h.slot ∈ pinned ∧ p.Shows h.slot h.asset ∧ h.asset ∈ keys

lemma Fared.mono (h : Fared assets p pinned before a) (hsub : pinned ⊆ pinned') :
    Fared assets p pinned' before a := by
  cases h with
  | shown hi shows => exact .shown (hsub hi) shows
  | crowded all => exact .crowded fun j hj => (all j hj).imp_left fun hpin => hsub hpin
  | vain refused => exact .vain refused

lemma Settles.keep (h : Settles assets keys as p pinned) (hsize : q.size = p.size)
    (hfailing : q.backend.failing = p.backend.failing)
    (hshows : ∀ i ∈ pinned, ∀ a, p.Shows i a → q.Shows i a) : Settles assets keys as q pinned where
  fared before a after hkeys := by
    cases h.fared before a after hkeys with
    | shown hi shows => exact .shown hi (hshows _ hi _ shows)
    | crowded all =>
      refine .crowded fun j hj => ?_
      obtain ⟨hpin, b, hb, hs⟩ := all j (hsize ▸ hj)
      exact ⟨hpin, b, hb, hshows j hpin b hs⟩
    | vain refused =>
      refine .vain fun asset hfound hneeded => ?_
      rw [Backend.refuses, hfailing]
      exact refused asset hfound hneeded
  known i hi := by
    obtain ⟨a, ha, hs, hnamed⟩ := h.known i hi
    exact ⟨a, ha, hshows i hi a hs, hnamed⟩
  given x hx hd hresult := by
    obtain ⟨hpin, hs, hmem⟩ := h.given x hx hd hresult
    exact ⟨hpin, hshows _ hpin _ hs, hmem⟩

lemma Settles.concat (h : Settles assets keys as p pinned) (hsub : pinned ⊆ pinned')
    (fared : Fared assets p pinned' keys a)
    (hpinned : ∀ i ∈ pinned', i ∈ pinned ∨ p.Shows i a ∧ Named assets a)
    (hgiven : ∀ x ∈ as', x ∈ as ∨ ∀ h, x.result = .ok h →
      h.slot ∈ pinned' ∧ p.Shows h.slot h.asset ∧ h.asset = a) :
    Settles assets (keys ++ [a]) as' p pinned' where
  fared before b after hkeys := by
    rcases List.eq_nil_or_concat after with rfl | ⟨after, c, rfl⟩
    · obtain ⟨rfl, hb⟩ := List.append_inj' hkeys rfl
      cases hb
      exact fared
    · rw [List.concat_eq_append, ← List.cons_append, ← List.append_assoc] at hkeys
      obtain ⟨hkeys, -⟩ := List.append_inj' hkeys rfl
      exact (h.fared before b after hkeys).mono hsub
  known i hi := by
    rcases hpinned i hi with hi | ⟨hs, hnamed⟩
    · obtain ⟨b, hb, hs⟩ := h.known i hi
      exact ⟨b, List.mem_append_left _ hb, hs⟩
    · exact ⟨a, by simp, hs, hnamed⟩
  given x hx hd hresult := by
    rcases hgiven x hx with hx | hx
    · obtain ⟨hpin, hs, hmem⟩ := h.given x hx hd hresult
      exact ⟨hsub hpin, hs, List.mem_append_left _ hmem⟩
    · obtain ⟨hpin, hs, rfl⟩ := hx hd hresult
      exact ⟨hpin, hs, by simp⟩

/-- The pool is asked for one more asset. -/
lemma Settles.asked {r : Request} {result : Except MediaError Handle} (place : Nat)
    (h : Settles assets keys as p r.pinned) (hp : p.Alone) (idle : p.work? .main = none)
    (answers : p.Answers r result q) (found : assets.find? r.asset.id = some r.asset)
    (needed : r.asset.needsElement = true) (other : result ≠ .error .disposed) :
    Settles assets (keys ++ [r.asset.id]) (as ++ [⟨place, result⟩]) q
      (Pool.pinnedBy r.pinned result) := by
  obtain ⟨⟨hsince, -⟩, hverdict, hnamed⟩ := answers.since hp idle
  have hkeep : Settles assets keys as q r.pinned :=
    h.keep hsince.size hsince.eases.failing fun i hi a hs => hsince.shows hs (.inl hi)
  have hvain (refuses : q.backend.refuses r.asset.url = true) (pinned : List Nat) :
      Fared assets q pinned keys r.asset.id := by
    refine .vain fun asset hfound _ => ?_
    obtain rfl : r.asset = asset := Option.some.inj (found.symm.trans hfound)
    exact refuses
  have hfails (e : MediaError) (fared : Fared assets q r.pinned keys r.asset.id) :
      Settles assets (keys ++ [r.asset.id]) (as ++ [⟨place, .error e⟩]) q r.pinned := by
    refine hkeep.concat (fun _ hj => hj) fared (fun j hj => .inl hj) fun x hx => ?_
    rcases List.mem_append.mp hx with hx | hx
    · exact .inl hx
    · rw [List.mem_singleton.mp hx]
      exact .inr fun hd hresult => by cases hresult
  cases hverdict with
  | @served i stale shows =>
    have hi : i ∈ i :: r.pinned := List.mem_cons_self
    have hasset : Named assets r.asset.id :=
      ⟨r.asset, found, needed, hnamed.resolve_left fun heq => by cases heq⟩
    refine hkeep.concat (List.subset_cons_self i _) (.shown hi shows) (fun j hj => ?_)
      fun x hx => ?_
    · rcases List.mem_cons.mp hj with rfl | hj
      · exact .inr ⟨shows, hasset⟩
      · exact .inl hj
    · rcases List.mem_append.mp hx with hx | hx
      · exact .inl hx
      · rw [List.mem_singleton.mp hx]
        refine .inr fun hd hresult => ?_
        cases hresult
        exact ⟨hi, shows, rfl⟩
  | disposed => exact absurd rfl other
  | missing empty => exact hfails _ (hvain (by simp [Backend.refuses, empty]) _)
  | exhausted unbound all =>
    refine hfails _ (.crowded fun j hj => ?_)
    obtain ⟨b, hb, hs, -⟩ := hkeep.known j (all j hj)
    exact ⟨all j hj, b, hb, hs⟩
  | failed unbound refuses =>
    refine hfails _ (hvain ?_ _)
    rw [Backend.refuses, hsince.eases.failing]
    exact refuses

lemma Settles.skip (h : Settles assets keys as p pinned)
    (vain : ∀ asset, assets.find? a = some asset → asset.needsElement = false) :
    Settles assets (keys ++ [a]) as p pinned :=
  have hvain : Fared assets p pinned keys a :=
    .vain fun asset hfound hneeded => by simp [vain asset hfound] at hneeded
  h.concat (fun _ hj => hj) hvain (fun _ hj => .inl hj) fun _ hx => .inl hx

/-- The assets of clips, in their order. -/
def assetsOf (items : List PassItem) : List AssetId := items.map (·.active.clip.asset)

lemma assetsOf_concat (done : List PassItem) (item : PassItem) :
    assetsOf (done ++ [item]) = assetsOf done ++ [item.active.clip.asset] := by
  simp [assetsOf]

variable {r₀ r r' : Rig} {p₀ s : Pass} {all done items rest : List PassItem} {item : PassItem}
  {asset : MediaAsset} {target : Float} {result : Except MediaError Handle}

lemma Wants.id (h : s.Wants item asset target) : item.active.clip.asset = asset.id :=
  (AssetTable.id_of_find? h.found).symm

/-- **What a pass has brought about** for the clips that it has gone over. -/
lemma Walk.settles (h : Walk r₀ p₀ all as r s items) (hp : r₀.pool.Alone)
    (idle : r₀.pool.work? .main = none) (hstart : p₀.pinned = []) :
    ∃ done, all = done ++ items ∧
      Settles p₀.assets (assetsOf done) as r.pool s.pinned := by
  induction h with
  | start =>
    refine ⟨[], rfl, fun before a after hkeys => ?_, fun i hi => ?_, fun x hx => ?_⟩
    · simp [assetsOf] at hkeys
    · simp [hstart] at hi
    · cases hx
  | @unknown as r s item rest hwalk hnone ih =>
    obtain ⟨done, hall, hsettles⟩ := ih
    rw [hwalk.kin.assets] at hnone
    refine ⟨done ++ [item], by simp [hall], ?_⟩
    rw [assetsOf_concat]
    exact hsettles.skip (by simp [hnone])
  | @plain as r s item rest asset hwalk found needless ih =>
    obtain ⟨done, hall, hsettles⟩ := ih
    rw [hwalk.kin.assets] at found
    refine ⟨done ++ [item], by simp [hall], ?_⟩
    rw [assetsOf_concat, pinned_addLayer]
    exact hsettles.skip fun m hm => Option.some.inj (found.symm.trans hm) ▸ needless
  | @serve as r r' s item rest asset target hd hwalk wants answers _ _ ih =>
    obtain ⟨done, hall, hsettles⟩ := ih
    obtain ⟨halone, hidle⟩ := hwalk.alone hp idle
    have found := wants.found
    rw [hwalk.kin.assets, wants.id] at found
    refine ⟨done ++ [item], by simp [hall], ?_⟩
    have hasked := hsettles.asked (r := s.request asset target) item.zIndex halone hidle answers
      found wants.needed (by simp)
    rw [assetsOf_concat, wants.id, pool_serve, pinned_serve]
    have hagrees := r'.pool.agrees_modifyElement hd.slot
      ((s.use asset).attune item asset r'.pool.now)
    exact hasked.keep hagrees.size rfl fun i _ a hs => hs.of_slot (hagrees.slot i)
  | @refuse as r r' s item rest asset target e hwalk wants answers other _ _ ih =>
    obtain ⟨done, hall, hsettles⟩ := ih
    obtain ⟨halone, hidle⟩ := hwalk.alone hp idle
    have found := wants.found
    rw [hwalk.kin.assets, wants.id] at found
    refine ⟨done ++ [item], by simp [hall], ?_⟩
    rw [assetsOf_concat, wants.id]
    exact hsettles.asked (r := s.request asset target) item.zIndex halone hidle answers found
      wants.needed (by simpa using other)

/-! ### The second pass -/

/-- A clip whose asset fails to load dislodges an asset from its slot, before any clip of that asset
has its turn. The slot is not pinned, and was used longest ago of those that may be had. -/
inductive Dislodges (r₀ : Rig) (p₀ : Pass) (all : List PassItem) (answers : List Answer) (i : Nat)
    (a : AssetId) : Prop
  | intro {as : List Answer} {r : Rig} {p : Pass} {lower : PassItem} {rest : List PassItem}
      {asset : MediaAsset} {target : Float} {reason : String} {q : Pool}
      (walk : Walk r₀ p₀ all as r p (lower :: rest)) (wants : p.Wants lower asset target)
      (fails : r.pool.Answers (p.request asset target) (.error (.loadFailed asset.url reason)) q)
      (answered : as ++ [⟨lower.zIndex, .error (.loadFailed asset.url reason)⟩] <+: answers)
      (above : ∀ item ∈ all, item.active.clip.asset = a → item ∈ rest)
      (shows : r.pool.Shows i a) (unpinned : i ∉ p.pinned)
      (oldest : ∀ k, k < r.pool.size → k ∉ p.pinned → r.pool.isFree k = true →
        (r.pool.slot i).lastUsed ≤ (r.pool.slot k).lastUsed)
      (gone : (q.slot i).asset = none)

lemma Dislodges.mono {answers answers' : List Answer} {i : Nat}
    (h : Dislodges r₀ p₀ all answers i a) (hle : answers <+: answers') :
    Dislodges r₀ p₀ all answers' i a := by
  obtain ⟨walk, wants, fails, answered, above, shows, unpinned, oldest, gone⟩ := h
  exact ⟨walk, wants, fails, answered.trans hle, above, shows, unpinned, oldest, gone⟩

variable {base : Pool}

/-- What the slot showed at first has been dislodged. -/
def IsLost (r₀ : Rig) (p₀ : Pass) (all : List PassItem) (base : Pool) (answers : List Answer)
    (i : Nat) : Prop :=
  ∃ a, (base.slot i).asset = some a ∧ Dislodges r₀ p₀ all answers i a

lemma IsLost.mono {answers answers' : List Answer} {i : Nat}
    (h : IsLost r₀ p₀ all base answers i) (hle : answers <+: answers') :
    IsLost r₀ p₀ all base answers' i := by
  obtain ⟨a, ha, hlost⟩ := h
  exact ⟨a, ha, hlost.mono hle⟩

/-- The clips so far have found their assets where they were at first. -/
structure Recurs (r₀ : Rig) (p₀ : Pass) (all : List PassItem) (base : Pool) (own : List Nat)
    (done : List PassItem) (as : List Answer) (p : Pool) (pinned : List Nat) : Prop where
  keeps : base.Keeps own (IsLost r₀ p₀ all base as) p pinned
  failing : p.backend.failing = base.backend.failing
  again : ∀ item ∈ done, ∀ i ∈ own, (base.slot i).asset = some item.active.clip.asset →
    (i ∈ pinned ∧ ∃ stale, ⟨item.zIndex, .ok ⟨item.active.clip.asset, i, stale⟩⟩ ∈ as) ∨
      IsLost r₀ p₀ all base as i

/-- What is ousted by a load that fails is dislodged by it. The clips gone over so far do not show
it: theirs are pinned, or have been dislodged before. -/
lemma Recurs.loses {q : Pool} {i : Nat} {reason : String}
    (hrecurs : Recurs r₀ p₀ all base own done as r.pool s.pinned) (hall : all = done ++ item :: rest)
    (hwalk : Walk r₀ p₀ all as r s (item :: rest)) (hp : r.pool.Alone)
    (idle : r.pool.work? .main = none) (wants : s.Wants item asset target)
    (answers : r.pool.Answers (s.request asset target) (.error (.loadFailed asset.url reason)) q)
    (hi : i ∈ own) (hsame : base.SameAt r.pool i)
    (hout : r.pool.Ousts q (s.request asset target) (.error (.loadFailed asset.url reason)) i) :
    IsLost r₀ p₀ all base (as ++ [⟨item.zIndex, .error (.loadFailed asset.url reason)⟩]) i := by
  have hkeeps : base.Keeps own (IsLost r₀ p₀ all base as) r.pool (s.request asset target).pinned :=
    hrecurs.keeps
  by_cases hlost : IsLost r₀ p₀ all base as i
  · exact hlost.mono (List.prefix_append _ _)
  · obtain ⟨a, ha⟩ := Option.ne_none_iff_exists'.mp (hkeeps.bound i hi)
    have hs : r.pool.Shows i a := hkeeps.shows hp idle hi hsame ha
    refine ⟨a, ha, .intro hwalk wants answers (List.prefix_refl _) (fun x hx hkey => ?_) hs
      hout.unpinned hout.oldest (answers.unbound_of_failed hp idle hout.taken rfl)⟩
    rw [hall, List.mem_append, List.mem_cons] at hx
    rcases hx with hx | rfl | hx
    · rcases hrecurs.again x hx i hi (hkey ▸ ha) with ⟨hpin, -⟩ | hlost'
      · exact absurd hpin hout.unpinned
      · exact absurd hlost' hlost
    · obtain rfl : asset.id = a := wants.id.symm.trans hkey
      exact absurd hs (hout.unshown i)
    · exact hx

/-- The slots of the first pass are kept. Its asset was shown in one of them, or they were all
pinned when it had its turn, or it does not load. -/
lemma Recurs.keeps_asked {q : Pool} (hrecurs : Recurs r₀ p₀ all base own done as r.pool s.pinned)
    (hbase : Settles p₀.assets (assetsOf all) as' base own) (hall : all = done ++ item :: rest)
    (hwalk : Walk r₀ p₀ all as r s (item :: rest)) (hp : r.pool.Alone)
    (idle : r.pool.work? .main = none) (wants : s.Wants item asset target)
    (answers : r.pool.Answers (s.request asset target) result q) :
    base.Keeps own (IsLost r₀ p₀ all base (as ++ [⟨item.zIndex, result⟩])) q
      (Pool.pinnedBy s.pinned result) := by
  have hkeeps : base.Keeps own (IsLost r₀ p₀ all base as) r.pool (s.request asset target).pinned :=
    hrecurs.keeps
  have hmono : ∀ i, IsLost r₀ p₀ all base as i →
      IsLost r₀ p₀ all base (as ++ [⟨item.zIndex, result⟩]) i :=
    fun _ hlost => hlost.mono (List.prefix_append _ _)
  have hloses : ∀ i ∈ own, base.SameAt r.pool i →
      r.pool.Ousts q (s.request asset target) result i →
      ∀ reason, result = .error (.loadFailed asset.url reason) →
        IsLost r₀ p₀ all base (as ++ [⟨item.zIndex, result⟩]) i := by
    rintro i hi hsame hout reason rfl
    exact hrecurs.loses hall hwalk hp idle wants answers hi hsame hout
  have hfared := hbase.fared (assetsOf done) item.active.clip.asset (assetsOf rest)
    (by simp [hall, assetsOf])
  rw [wants.id] at hfared
  cases hfared with
  | shown hi shows => exact hkeeps.step answers hp idle (.known hi shows.2) hmono hloses
  | crowded hcrowd =>
    refine hkeeps.step_firm answers hp idle (fun i hi => ?_) hmono
    obtain ⟨a, ha⟩ := Option.ne_none_iff_exists'.mp (hkeeps.bound i hi)
    obtain ⟨-, b, hb, hs⟩ := hcrowd i (base.lt_size_of_asset ha)
    obtain ⟨x, hx, rfl⟩ := List.mem_map.mp hb
    exact (hrecurs.again x hx i hi hs.2).imp_left And.left
  | vain refused =>
    refine hkeeps.step answers hp idle (.refused ?_) hmono hloses
    rw [Backend.refuses, hrecurs.failing]
    exact refused asset (hwalk.kin.assets ▸ wants.id ▸ wants.found) wants.needed

/-- The pool is asked for what a clip wants. -/
lemma Recurs.asked {q : Pool} (hrecurs : Recurs r₀ p₀ all base own done as r.pool s.pinned)
    (hbase : Settles p₀.assets (assetsOf all) as' base own) (hall : all = done ++ item :: rest)
    (hwalk : Walk r₀ p₀ all as r s (item :: rest)) (hp : r.pool.Alone)
    (idle : r.pool.work? .main = none) (wants : s.Wants item asset target)
    (answers : r.pool.Answers (s.request asset target) result q)
    (other : result ≠ .error .disposed) :
    Recurs r₀ p₀ all base own (done ++ [item]) (as ++ [⟨item.zIndex, result⟩]) q
      (Pool.pinnedBy s.pinned result) where
  keeps := hrecurs.keeps_asked hbase hall hwalk hp idle wants answers
  failing := by
    obtain ⟨⟨hsince, -⟩, -⟩ := answers.since hp idle
    exact hsince.eases.failing.trans hrecurs.failing
  again x hx i hi hasset := by
    rcases List.mem_append.mp hx with hx | hx
    · refine (hrecurs.again x hx i hi hasset).imp ?_ (·.mono (List.prefix_append _ _))
      rintro ⟨hpin, stale, hmem⟩
      exact ⟨Pool.mem_pinnedBy hpin, stale, List.mem_append_left _ hmem⟩
    · obtain rfl := List.mem_singleton.mp hx
      have hkeeps : base.Keeps own (IsLost r₀ p₀ all base as) r.pool
        (s.request asset target).pinned := hrecurs.keeps
      refine (hkeeps.kept i hi).imp (fun hsame => ?_) (·.mono (List.prefix_append _ _))
      have hfound : p₀.assets.find? x.active.clip.asset = some asset :=
        hwalk.kin.assets ▸ wants.found
      rw [wants.id] at hasset hfound ⊢
      have hs : r.pool.Shows i asset.id := hkeeps.shows hp idle hi hsame hasset
      have named : asset.url.isEmpty = false := by
        obtain ⟨b, -, hb, m, hm, -, hnamed⟩ := hbase.known i hi
        obtain rfl : asset.id = b := Option.some.inj (hasset.symm.trans hb.2)
        exact Option.some.inj (hfound.symm.trans hm) ▸ hnamed
      obtain ⟨stale, rfl⟩ := answers.gives hp idle hs named other
      exact ⟨List.mem_cons_self, stale, by simp [request]⟩

lemma Recurs.skip {p : Pool} (h : Recurs r₀ p₀ all base own done as p pinned)
    (hbase : Settles p₀.assets (assetsOf all) as' base own)
    (needless : ∀ asset, p₀.assets.find? item.active.clip.asset = some asset →
      asset.needsElement = false) :
    Recurs r₀ p₀ all base own (done ++ [item]) as p pinned := by
  refine ⟨h.keeps, h.failing, fun x hx i hi hasset => ?_⟩
  rcases List.mem_append.mp hx with hx | hx
  · exact h.again x hx i hi hasset
  · obtain rfl := List.mem_singleton.mp hx
    obtain ⟨b, -, hb, m, hm, hneeded, -⟩ := hbase.known i hi
    obtain rfl := Option.some.inj (hasset.symm.trans hb.2)
    simp [needless m hm] at hneeded

/-- **What a second pass finds** where it was. -/
lemma Walk.recurs (h : Walk r₀ p₀ all as r s items) (hp : r₀.pool.Alone)
    (idle : r₀.pool.work? .main = none)
    (hbase : Settles p₀.assets (assetsOf all) as' r₀.pool own) :
    ∃ done, all = done ++ items ∧ Recurs r₀ p₀ all r₀.pool own done as r.pool s.pinned := by
  induction h with
  | start =>
    have hbound : ∀ i ∈ own, ∃ a, r₀.pool.Shows i a := fun i hi => by
      obtain ⟨a, -, hs, -⟩ := hbase.known i hi
      exact ⟨a, hs⟩
    refine ⟨[], rfl, ⟨fun i hi => ?_, fun i hi => ?_, fun i _ => .inl (.refl _ i),
      .whole fun i _ => .stays (.refl _ i)⟩, rfl, fun x hx => by cases hx⟩
    · obtain ⟨a, hs⟩ := hbound i hi
      exact hp.isOpen_of_prepared hs.1
    · obtain ⟨a, hs⟩ := hbound i hi
      simp [hs.2]
  | @unknown as r s item rest hwalk hnone ih =>
    obtain ⟨done, hall, hrecurs⟩ := ih
    rw [hwalk.kin.assets] at hnone
    exact ⟨done ++ [item], by simp [hall], hrecurs.skip hbase (by simp [hnone])⟩
  | @plain as r s item rest asset hwalk found needless ih =>
    obtain ⟨done, hall, hrecurs⟩ := ih
    rw [hwalk.kin.assets] at found
    refine ⟨done ++ [item], by simp [hall], ?_⟩
    rw [pinned_addLayer]
    exact hrecurs.skip hbase fun m hm => Option.some.inj (found.symm.trans hm) ▸ needless
  | @serve as r r' s item rest asset target hd hwalk wants answers _ _ ih =>
    obtain ⟨done, hall, hrecurs⟩ := ih
    obtain ⟨halone, hidle⟩ := hwalk.alone hp idle
    have hasked := hrecurs.asked hbase hall hwalk halone hidle wants answers (by simp)
    refine ⟨done ++ [item], by simp [hall], ?_⟩
    rw [pool_serve, pinned_serve]
    exact ⟨hasked.keeps.modifyElement _ _, hasked.failing, hasked.again⟩
  | @refuse as r r' s item rest asset target e hwalk wants answers other _ _ ih =>
    obtain ⟨done, hall, hrecurs⟩ := ih
    obtain ⟨halone, hidle⟩ := hwalk.alone hp idle
    exact ⟨done ++ [item], by simp [hall],
      hrecurs.asked hbase hall hwalk halone hidle wants answers (by simpa using other)⟩

lemma abides_finish (s : Pass) (hp : r.pool.Alone) (idle : r.pool.work? .main = none) :
    r.pool.Abides (s.finish r).1.pool := by
  let pauses : Pool.Event := .pauseExcept s.activeAssets
  let loads : Pool.Event :=
    .preload (s.snapshot.upcoming s.frame r.compositor.config.preloadHorizon) s.assets
  have hpause : r.pool.Abides (pauses.apply r.pool) := by
    refine .of_background trivial hp idle rfl fun {i a} _ => ?_
    exact (r.pool.keeps_pauseExcept s.activeAssets i).binding
  have hload : (pauses.apply r.pool).Abides (loads.apply (pauses.apply r.pool)) := by
    refine .of_background trivial hpause.alone hpause.idle ?_ fun hs => ?_
    · exact ((pauses.apply r.pool).eases_preload _ _).failing
    · refine congrArg Slot.binding (Pool.slot_preload_of_bound _ s.assets ?_)
      rw [hs.2]
      exact Option.some_ne_none _
  rw [pool_finish]
  exact hpause.trans hload

end Pass

/-- **What a pass serves is served again.** Two passes that are applied follow each other, over
clips with the same assets and with the same table of assets. Nobody makes requests beside them,
though loads in advance may have their turns. Whatever the pool has held before, each asset that the
first pass has served is served by the second one to all its clips, from the same slot and without
being loaded anew. The one exception is an asset that a clip further down, whose load fails, has
dislodged from its slot. Assets that are unknown, have no url or find all slots pinned make no
difference. -/
theorem evaluate_again_serves (config : PoolConfig) (backend : Backend) (es : List Pool.Event)
    (r r₁ r₂ r₃ : Rig) (snapshot snapshot₂ : Snapshot) (assets : AssetTable)
    (playback playback₂ : PlaybackState) (report report₂ : Report)
    (pool : r.pool = (Pool.new config backend).run es) (idle : r.pool.work? .main = none)
    (others : ∀ t ≠ TaskId.main, ∀ q stage, r.pool.work? t = some (.request q stage) →
      ∃ result, stage = .done result)
    (first : Pass.Proceeds (r.evaluate snapshot assets playback).1
      (r.evaluate snapshot assets playback).2 r₁ (.ended (.ok (.applied report))))
    (between : r₁.pool.Idles r₂.pool)
    (second : Pass.Proceeds (r₂.evaluate snapshot₂ assets playback₂).1
      (r₂.evaluate snapshot₂ assets playback₂).2 r₃ (.ended (.ok (.applied report₂))))
    (same : Pass.assetsOf (Pass.start r₂ snapshot₂ assets playback₂).2 =
      Pass.assetsOf (Pass.start r snapshot assets playback).2) :
    let p₀ := (Pass.start r₂ snapshot₂ assets playback₂).1
    let all := (Pass.start r₂ snapshot₂ assets playback₂).2
    ∃ answers q p answers₂ q₂ p₂,
      Pass.Walks r (Pass.start r snapshot assets playback).1
        (Pass.start r snapshot assets playback).2 answers q p r₁ report ∧
      Pass.Walks r₂ p₀ all answers₂ q₂ p₂ r₃ report₂ ∧
      ∀ a ∈ answers, ∀ h, a.result = .ok h → h.asset ∈ Pass.assetsOf all ∧
        ((r₃.pool.slot h.slot).generation = (r₁.pool.slot h.slot).generation ∧
          (∀ item ∈ all, item.active.clip.asset = h.asset →
            ∃ stale, ⟨item.zIndex, .ok ⟨h.asset, h.slot, stale⟩⟩ ∈ answers₂) ∨
          Pass.Dislodges r₂ p₀ all answers₂ h.slot h.asset) := by
  intro p₀ all
  have halone : r.pool.Alone := .of_run pool idle others
  obtain ⟨answers, q, p, hwalks⟩ := first.walks
  obtain ⟨answers₂, q₂, p₂, hwalks₂⟩ := second.walks
  -- The first pass, and what is left of it when the second one begins.
  obtain ⟨done, hdone, hsettles⟩ := hwalks.walk.settles halone idle rfl
  rw [List.append_nil] at hdone
  obtain ⟨hq, hidle⟩ := hwalks.walk.alone halone idle
  have hfinish : q.pool.Abides r₁.pool := hwalks.rig ▸ Pass.abides_finish p hq hidle
  have hbetween := between.abides hfinish.alone hfinish.idle
  have habides := hfinish.trans hbetween
  have hbase : Pass.Settles assets (Pass.assetsOf all) answers r₂.pool p.pinned := by
    rw [show Pass.assetsOf all = Pass.assetsOf done from hdone ▸ same]
    exact hsettles.keep habides.size habides.failing fun i _ a hs => (habides.shows hs).2
  -- The second pass.
  obtain ⟨done₂, hdone₂, hrecurs⟩ := hwalks₂.walk.recurs habides.alone habides.idle hbase
  rw [List.append_nil] at hdone₂
  obtain ⟨hq₂, hidle₂⟩ := hwalks₂.walk.alone habides.alone habides.idle
  have hfinish₂ : q₂.pool.Abides r₃.pool := hwalks₂.rig ▸ Pass.abides_finish p₂ hq₂ hidle₂
  refine ⟨answers, q, p, answers₂, q₂, p₂, hwalks, hwalks₂, fun a ha h hresult => ?_⟩
  obtain ⟨hpin, hs, hmem⟩ := hbase.given a ha h hresult
  refine ⟨hmem, ?_⟩
  by_cases hlost : Pass.IsLost r₂ p₀ all r₂.pool answers₂ h.slot
  · obtain ⟨b, hb, hdislodges⟩ := hlost
    obtain rfl : h.asset = b := Option.some.inj (hs.2.symm.trans hb)
    exact .inr hdislodges
  · have hsame := (hrecurs.keeps.kept h.slot hpin).resolve_right hlost
    have hs₂ : q₂.pool.Shows h.slot h.asset :=
      hq₂.shows hidle₂ (hrecurs.keeps.opens h.slot hpin) (hsame.2.trans hs.2)
    have hs₁ : r₁.pool.Shows h.slot h.asset :=
      (hfinish.shows (hsettles.given a ha h hresult).2.1).2
    refine .inl ⟨?_, fun item hitem hkey => ?_⟩
    · calc
        (r₃.pool.slot h.slot).generation = (q₂.pool.slot h.slot).generation :=
          (hfinish₂.shows hs₂).1.1
        _ = (r₂.pool.slot h.slot).generation := hsame.1
        _ = (r₁.pool.slot h.slot).generation := (hbetween.shows hs₁).1.1
    · rcases hrecurs.again item (hdone₂ ▸ hitem) h.slot hpin (hkey ▸ hs.2) with
        ⟨-, stale, hanswer⟩ | hlost'
      · exact ⟨stale, hkey ▸ hanswer⟩
      · exact absurd hlost' hlost

/-- The pass over the torn shot once more, after so many loads. -/
def Rig.tornAgain : Nat → Rig × Pass.Step
  | 0 => (Pass.start (Rig.tornAfter 2).1 .torn .torn {}).1.run (Rig.tornAfter 2).1 PassItem.torn
  | n + 1 => Pass.resume ((Rig.tornAgain n).1.modifyPool fun pool =>
      Pool.Event.apply pool (.schedule { now := 40 + 20 * (n + 1) })) (Rig.tornAgain n).2

lemma Rig.start_tornAfter :
    (Pass.start (Rig.tornAfter 2).1 .torn .torn {}).2 = PassItem.torn :=
  Pass.start_torn (by decide +kernel) _ _

lemma Rig.evaluate_tornAfter :
    (Rig.tornAfter 2).1.evaluate .torn .torn {} = Rig.tornAgain 0 :=
  Rig.evaluate_of_start (by decide +kernel) (by decide) Rig.start_tornAfter

/-- Both passes over the torn shot are applied. -/
lemma Rig.applies_torn : ∃ report report₂,
    Pass.Proceeds (Rig.torn.evaluate .torn .torn {}).1 (Rig.torn.evaluate .torn .torn {}).2
      (Rig.tornAfter 2).1 (.ended (.ok (.applied report))) ∧
    Pass.Proceeds ((Rig.tornAfter 2).1.evaluate .torn .torn {}).1
      ((Rig.tornAfter 2).1.evaluate .torn .torn {}).2
      (Rig.tornAgain 2).1 (.ended (.ok (.applied report₂))) ∧
    report.failures.map (·.clip) = [⟨⟨1⟩⟩] := by
  have hlacks : (Rig.tornAfter 2).2.report?.any
      (fun report => report.failures.map (·.clip) = [⟨⟨1⟩⟩]) = true := by decide +kernel
  have hends₂ : (Rig.tornAgain 2).2.report?.isSome = true := by decide +kernel
  obtain ⟨report, hreport, hfailures⟩ := (Option.any_eq_true _ _).mp hlacks
  obtain ⟨report₂, hreport₂⟩ := Option.isSome_iff_exists.mp hends₂
  have hzero : (Rig.tornAgain 0).2.isWaiting = true := by decide +kernel
  have hone : (Rig.tornAgain 1).2.isWaiting = true := by decide +kernel
  have hsecond : Pass.Proceeds (Rig.tornAgain 0).1 (Rig.tornAgain 0).2 (Rig.tornAgain 2).1
      (Rig.tornAgain 2).2 := (Pass.Proceeds.refl.wake hzero _).wake hone _
  rw [← Rig.evaluate_tornAfter, Pass.Step.eq_of_report? hreport₂] at hsecond
  have hfirst := Rig.proceeds_torn
  rw [Pass.Step.eq_of_report? hreport] at hfirst
  exact ⟨report, report₂, hfirst, hsecond, by simpa using hfailures⟩

lemma Rig.reloads_torn : ((Rig.tornAfter 2).1.pool.slot 0).asset = some ⟨"first"⟩ ∧
    ((Rig.tornAgain 2).1.pool.slot 0).generation ≠
      ((Rig.tornAfter 2).1.pool.slot 0).generation := by
  decide +kernel

/-- A shot that a pass has served is in the one slot at the end, if that slot is bound to it. -/
lemma Pass.Walks.served_torn {snapshot : Snapshot} {answers : List Answer} {q r' : Rig} {p : Pass}
    {report : Report}
    (h : Walks Rig.torn (start Rig.torn snapshot .torn {}).1 (start Rig.torn snapshot .torn {}).2
      answers q p r' report)
    (item : PassItem) (hitem : item ∈ (start Rig.torn snapshot .torn {}).2)
    (hon : isOnRoster .torn .torn Rig.torn.pool.size (start Rig.torn snapshot .torn {}).2 item = true)
    (hsize : r'.pool.size = 1) (hbound : (r'.pool.slot 0).asset = some ⟨"first"⟩) :
    ∃ stale, ⟨item.zIndex, .ok ⟨⟨"first"⟩, 0, stale⟩⟩ ∈ answers := by
  have hpool : Rig.torn.pool = (Pool.new { poolSize := 1 } .torn).run [] := rfl
  have halone : Rig.torn.pool.Alone := .of_run hpool rfl fun t _ q stage hw => by cases hw
  have hrostered := h.rostered hpool (by simp) AssetTable.urls_torn rfl halone
  obtain ⟨⟨place, result⟩, ha, hplace⟩ :=
    List.any_eq_true.mp ((hrostered.answered item hitem).trans hon)
  simp only [Bool.and_eq_true, decide_eq_true_eq] at hplace
  obtain ⟨rfl, hok⟩ := hplace
  rcases result with e | ⟨asset, slot, stale⟩
  · cases hok
  obtain ⟨_, -, hsettles⟩ := h.walk.settles halone rfl rfl
  obtain ⟨hq, hidle⟩ := h.walk.alone halone rfl
  have habides : q.pool.Abides r'.pool := h.rig ▸ abides_finish p hq hidle
  have hshows := (habides.shows (hsettles.given _ ha _ rfl).2.1).2
  obtain rfl : slot = 0 := by
    have hlt : slot < r'.pool.size := hshows.lt_size
    omega
  obtain rfl : asset = ⟨"first"⟩ := Option.some.inj (hshows.2.symm.trans hbound)
  exact ⟨stale, ha⟩

/-- A shot below another whose file is broken. -/
def ActiveClip.spared : List ActiveClip := [.layered 1 "first", .layered 2 "broken"]

def Snapshot.spared : Snapshot :=
  .ofClips .fps30 (ActiveClip.spared.map (·.track)) (ActiveClip.spared.map (·.clip))

lemma Snapshot.clips_spared : (Snapshot.spared.activeAt 0).clips = ActiveClip.spared := by
  have hsorted : (Snapshot.spared.activeAt 0).clips =
      ActiveClip.spared.mergeSort fun a b => (a.compare b).isLE := rfl
  rw [hsorted]
  exact List.mergeSort_of_pairwise (by decide)

def PassItem.spared : List PassItem := [⟨0, .layered 1 "first"⟩, ⟨1, .layered 2 "broken"⟩]

/-- The first pass over the two shots, after so many loads. -/
def Rig.sparedAfter : Nat → Rig × Pass.Step :=
  Rig.wakes ((Pass.start Rig.torn .spared .torn {}).1.run Rig.torn PassItem.spared)

/-- The second pass, which waits for nothing. -/
def Rig.sparedAgain : Rig × Pass.Step :=
  (Pass.start (Rig.sparedAfter 1).1 .spared .torn {}).1.run (Rig.sparedAfter 1).1 PassItem.spared

lemma Pass.start_spared {r : Rig} (h : r.host.playhead = 0) (assets : AssetTable)
    (playback : PlaybackState) : (Pass.start r .spared assets playback).2 = PassItem.spared :=
  Pass.start_of_clips h Snapshot.clips_spared _ _

lemma Rig.evaluate_sparedAfter :
    (Rig.sparedAfter 1).1.evaluate .spared .torn {} = Rig.sparedAgain :=
  Rig.evaluate_of_start (by decide +kernel) (by decide) (Pass.start_spared (by decide +kernel) _ _)

/-- Both passes over the two shots are applied. The second one lacks the upper shot. -/
lemma Rig.applies_spared : ∃ report report₂,
    Pass.Proceeds (Rig.torn.evaluate .spared .torn {}).1 (Rig.torn.evaluate .spared .torn {}).2
      (Rig.sparedAfter 1).1 (.ended (.ok (.applied report))) ∧
    Pass.Proceeds ((Rig.sparedAfter 1).1.evaluate .spared .torn {}).1
      ((Rig.sparedAfter 1).1.evaluate .spared .torn {}).2
      Rig.sparedAgain.1 (.ended (.ok (.applied report₂))) ∧
    report₂.failures.map (·.clip) = [⟨⟨2⟩⟩] := by
  have hends : (Rig.sparedAfter 1).2.report?.isSome = true := by decide +kernel
  have hlacks₂ : Rig.sparedAgain.2.report?.any
      (fun report => report.failures.map (·.clip) = [⟨⟨2⟩⟩]) = true := by decide +kernel
  obtain ⟨report, hreport⟩ := Option.isSome_iff_exists.mp hends
  obtain ⟨report₂, hreport₂, hfailures⟩ := (Option.any_eq_true _ _).mp hlacks₂
  have hfirst : Pass.Proceeds (Rig.torn.evaluate .spared .torn {}).1
      (Rig.torn.evaluate .spared .torn {}).2 (Rig.sparedAfter 1).1 (Rig.sparedAfter 1).2 := by
    rw [Rig.evaluate_of_start rfl (by decide) (Pass.start_spared rfl _ _)]
    exact Rig.proceeds_wakes (by decide +kernel)
  rw [Pass.Step.eq_of_report? hreport] at hfirst
  refine ⟨report, report₂, hfirst, ?_, by simpa using hfailures⟩
  rw [Rig.evaluate_sparedAfter, ← Pass.Step.eq_of_report? hreport₂]
  exact .refl

lemma Pass.not_dislodges_spared {r : Rig} {p : Pass} {answers : List Answer} {i : Nat} :
    ¬Dislodges r p PassItem.spared answers i ⟨"first"⟩ := by
  rintro ⟨walk, -, -, -, above, -⟩
  have hmem := above ⟨0, .layered 1 "first"⟩ (by simp [PassItem.spared]) rfl
  rcases List.suffix_cons_iff.mp walk.suffix with heq | hsuffix
  · obtain ⟨-, rfl⟩ := List.cons.inj heq
    simp at hmem
  · rcases List.suffix_cons_iff.mp hsuffix with heq | hnil
    · obtain ⟨-, rfl⟩ := List.cons.inj heq
      simp at hmem
    · simp at hnil

/-- The broken file dislodges the shot above it, each time. A shot below it is served again from its
slot, and not loaded a second time; it is the broken file that finds no slot then. -/
theorem evaluate_again_serves_torn :
    (∃ answers, Pass.Dislodges (Rig.tornAfter 2).1
      (Pass.start (Rig.tornAfter 2).1 .torn .torn {}).1 PassItem.torn answers 0 ⟨"first"⟩) ∧
    ∃ answers answers₂ q q₂ p p₂ report report₂ stale stale₂,
      Pass.Walks Rig.torn (Pass.start Rig.torn .spared .torn {}).1 PassItem.spared answers q p
        (Rig.sparedAfter 1).1 report ∧
      Pass.Walks (Rig.sparedAfter 1).1 (Pass.start (Rig.sparedAfter 1).1 .spared .torn {}).1
        PassItem.spared answers₂ q₂ p₂ Rig.sparedAgain.1 report₂ ∧
      ⟨0, .ok ⟨⟨"first"⟩, 0, stale⟩⟩ ∈ answers ∧ ⟨0, .ok ⟨⟨"first"⟩, 0, stale₂⟩⟩ ∈ answers₂ ∧
      (Rig.sparedAgain.1.pool.slot 0).generation =
        ((Rig.sparedAfter 1).1.pool.slot 0).generation ∧
      Rig.sparedAgain.1.pool.backend.loads = 1 ∧
      report₂.failures.map (·.clip) = [⟨⟨2⟩⟩] := by
  have hothers : ∀ t ≠ TaskId.main, ∀ q stage, Rig.torn.pool.work? t = some (.request q stage) →
      ∃ result, stage = .done result := fun t _ q stage hw => by cases hw
  constructor
  · obtain ⟨report, report₂, hfirst, hsecond, -⟩ := Rig.applies_torn
    obtain ⟨answers, q, p, answers₂, q₂, p₂, hwalks, -, hserves⟩ := evaluate_again_serves
      { poolSize := 1 } .torn [] Rig.torn (Rig.tornAfter 2).1 (Rig.tornAfter 2).1
      (Rig.tornAgain 2).1 .torn .torn .torn {} {} report report₂ rfl rfl hothers hfirst .refl hsecond
      (by rw [Rig.start_tornAfter, Pass.start_torn rfl])
    rw [Rig.start_tornAfter] at hserves
    have hstart : (Pass.start Rig.torn .torn .torn {}).2 = PassItem.torn := Pass.start_torn rfl _ _
    obtain ⟨hupper, hanew⟩ := Rig.reloads_torn
    obtain ⟨stale, hanswer⟩ := hwalks.served_torn ⟨1, .tornUpper⟩
      (by rw [hstart]; simp [PassItem.torn]) (by rw [hstart]; rfl) (by decide +kernel) hupper
    obtain ⟨-, ⟨hsame, -⟩ | hdislodges⟩ := hserves _ hanswer _ rfl
    · exact absurd hsame hanew
    · exact ⟨answers₂, hdislodges⟩
  · have hloads : Rig.sparedAgain.1.pool.backend.loads = 1 := by decide +kernel
    have hafter : (Rig.sparedAfter 1).1.host.playhead = 0 ∧ (Rig.sparedAfter 1).1.pool.size = 1 ∧
        ((Rig.sparedAfter 1).1.pool.slot 0).asset = some ⟨"first"⟩ := by
      decide +kernel
    obtain ⟨report, report₂, hfirst, hsecond, hfailures⟩ := Rig.applies_spared
    have hstart : (Pass.start Rig.torn .spared .torn {}).2 = PassItem.spared :=
      Pass.start_spared rfl _ _
    have hstart₂ : (Pass.start (Rig.sparedAfter 1).1 .spared .torn {}).2 = PassItem.spared :=
      Pass.start_spared hafter.1 _ _
    obtain ⟨answers, q, p, answers₂, q₂, p₂, hwalks, hwalks₂, hserves⟩ := evaluate_again_serves
      { poolSize := 1 } .torn [] Rig.torn (Rig.sparedAfter 1).1 (Rig.sparedAfter 1).1
      Rig.sparedAgain.1 .spared .spared .torn {} {} report report₂ rfl rfl hothers hfirst .refl
      hsecond (by rw [hstart, hstart₂])
    obtain ⟨stale, hanswer⟩ := hwalks.served_torn ⟨0, .layered 1 "first"⟩
      (by rw [hstart]; simp [PassItem.spared]) (by rw [hstart]; rfl) hafter.2.1 hafter.2.2
    rw [hstart₂] at hserves hwalks₂
    rw [hstart] at hwalks
    obtain ⟨-, ⟨hsame, hagain⟩ | hdislodges⟩ := hserves _ hanswer _ rfl
    · obtain ⟨stale₂, hanswer₂⟩ := hagain ⟨0, .layered 1 "first"⟩ (by simp [PassItem.spared]) rfl
      exact ⟨answers, answers₂, q, q₂, p, p₂, report, report₂, stale, stale₂, hwalks, hwalks₂,
        hanswer, hanswer₂, hsame, hloads, hfailures⟩
    · exact absurd hdislodges Pass.not_dislodges_spared

/-- What a pass serves may have to be loaded anew in the next one: the upper shot is loaded twice,
though the clips and the assets are the same. -/
theorem torn_loaded_anew : ∃ report report₂,
    Pass.Proceeds (Rig.torn.evaluate .torn .torn {}).1 (Rig.torn.evaluate .torn .torn {}).2
      (Rig.tornAfter 2).1 (.ended (.ok (.applied report))) ∧
    Pass.Proceeds ((Rig.tornAfter 2).1.evaluate .torn .torn {}).1
      ((Rig.tornAfter 2).1.evaluate .torn .torn {}).2
      (Rig.tornAgain 2).1 (.ended (.ok (.applied report₂))) ∧
    (Pass.start (Rig.tornAfter 2).1 .torn .torn {}).2 = (Pass.start Rig.torn .torn .torn {}).2 ∧
    report.failures.map (·.clip) = [⟨⟨1⟩⟩] ∧
    ((Rig.tornAfter 2).1.pool.slot 0).asset = some ⟨"first"⟩ ∧
    ((Rig.tornAgain 2).1.pool.slot 0).generation ≠
      ((Rig.tornAfter 2).1.pool.slot 0).generation := by
  obtain ⟨report, report₂, hfirst, hsecond, hfailures⟩ := Rig.applies_torn
  obtain ⟨hupper, hanew⟩ := Rig.reloads_torn
  exact ⟨report, report₂, hfirst, hsecond, by rw [Rig.start_tornAfter, Pass.start_torn rfl],
    hfailures, hupper, hanew⟩

end Montage
