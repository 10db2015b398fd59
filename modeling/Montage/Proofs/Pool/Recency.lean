import Mathlib.Data.List.Induction
import Mathlib.Data.List.Perm.Subperm
import Mathlib.Data.List.Sort
import Montage.Proofs.Pool.Acquiring

/-!
The pool as a cache.

When each request is waited for before anything else is asked of the pool, the pool does what a
cache does that makes room by dropping the asset used longest ago. The cache keeps its assets in the
order of their use. The pool keeps no such list: it has slots with the counts of their last uses,
and the order is that of the counts.
-/

namespace Montage

/-- A cache of assets that drops the one used longest ago when it needs room. -/
structure Cache where
  capacity : Nat
  /-- Urls that nothing can be loaded from. -/
  failing : List String
  /-- The asset used longest ago comes first. -/
  assets : List AssetId := []
  /-- How often an asset was asked for that was not there. -/
  misses : Nat := 0

namespace Cache

def isFull (c : Cache) : Bool := c.capacity ≤ c.assets.length

/-- The assets that stay when room is made for another one. -/
def others (c : Cache) : List AssetId := if c.isFull then c.assets.tail else c.assets

lemma mem_of_mem_others {c : Cache} {a : AssetId} (h : a ∈ c.others) : a ∈ c.assets := by
  unfold others at h
  split at h
  · exact List.mem_of_mem_tail h
  · exact h

def insert (c : Cache) (a : AssetId) : Cache :=
  { c with assets := c.others ++ [a], misses := c.misses + 1 }

def remove (c : Cache) (a : AssetId) : Cache := { c with assets := c.assets.erase a }

def clear (c : Cache) : Cache := { c with assets := [] }

/-- An asset is asked for. If it is there it is now the one used last; otherwise it is put in, and
taken out again if it cannot be loaded. -/
def acquire (c : Cache) (asset : MediaAsset) : Cache :=
  if asset.id ∈ c.assets then { c with assets := c.assets.erase asset.id ++ [asset.id] }
  else if c.failing.contains asset.url then (c.insert asset.id).remove asset.id
  else c.insert asset.id

end Cache

lemma Backend.refuses_of_named (b : Backend) {url : String} (named : url.isEmpty = false) :
    b.refuses url = b.failing.contains url := by
  rw [refuses, named, Bool.false_or]

namespace Pool

/-- Something that is asked of a pool when it is at rest. -/
inductive Call where
  /-- An asset with a url is needed at a time, and it is waited for. -/
  | acquire (asset : MediaAsset) (named : asset.url.isEmpty = false) (target : Float)
      (playing : Bool)
  | release (asset : AssetId)
  | reset
  /-- From now on loads and seeks take other times, and they fail or hang otherwise. -/
  | tune (loadMs seekMs : Nat) (failing : List String) (hanging : Bool)

def Call.apply (p : Pool) : Call → Pool
  | acquire asset _ target playing => (p.acquire ⟨asset, target, playing, []⟩).1
  | release asset => (p.release asset).2
  | reset => p.reset
  | tune loadMs seekMs failing hanging =>
    { p with backend := { p.backend with loadMs, seekMs, failing, hanging } }

/-- What the cache does about it. -/
def Call.reflect (c : Cache) : Call → Cache
  | acquire asset .. => c.acquire asset
  | release asset => c.remove asset
  | reset => c.clear
  | tune _ _ failing _ => { c with failing }

@[simp] lemma Call.capacity_reflect (e : Call) (c : Cache) :
    (e.reflect c).capacity = c.capacity := by
  cases e with
  | acquire asset =>
    dsimp only [reflect, Cache.acquire]
    split
    · rfl
    · split <;> rfl
  | release | reset | tune => rfl

lemma Call.capacity_foldl (es : List Call) (c : Cache) :
    (es.foldl reflect c).capacity = c.capacity := by
  induction es generalizing c with
  | nil => rfl
  | cons e es ih => exact (ih (e.reflect c)).trans (e.capacity_reflect c)

/-- The assets that are bound, the one used longest ago first. -/
def recency (p : Pool) : List AssetId := (p.byAge []).filterMap fun i => (p.slot i).asset

/-- The slots that are bound, in the order of their last uses. -/
structure Ranks (p : Pool) (order : List Nat) : Prop where
  sorted : order.Pairwise fun i j => (p.slot i).lastUsed < (p.slot j).lastUsed
  mem : ∀ {i}, i ∈ order ↔ (p.slot i).asset ≠ none

namespace Ranks

variable {p q : Pool} {order order' : List Nat} {i j : Nat}

lemma nodup (h : p.Ranks order) : order.Nodup := h.sorted.imp fun hlt => by
  rintro rfl
  exact Nat.lt_irrefl _ hlt

lemma unique (h : p.Ranks order) (h' : p.Ranks order') : order = order' := by
  have : Std.Antisymm fun i j => (p.slot i).lastUsed < (p.slot j).lastUsed :=
    ⟨fun _ _ hlt hlt' => absurd hlt (Nat.lt_asymm hlt')⟩
  have : Std.Irrefl fun i j => (p.slot i).lastUsed < (p.slot j).lastUsed :=
    ⟨fun _ => Nat.lt_irrefl _⟩
  exact h.sorted.eq_of_mem_iff h'.sorted fun _ => h.mem.trans h'.mem.symm

lemma byAge (hp : p.Tidy) : p.Ranks ((p.byAge []).filter fun i => (p.slot i).asset.isSome) := by
  have hmem : ∀ {i}, i ∈ (p.byAge []).filter (fun i => (p.slot i).asset.isSome) ↔
      (p.slot i).asset ≠ none := by
    intro i
    rw [List.mem_filter, mem_byAge, Option.isSome_iff_ne_none]
    exact ⟨fun h => h.2, fun h =>
      ⟨⟨p.lt_size_of_slot fun hs => h (by rw [hs]), List.not_mem_nil⟩, h⟩⟩
  have hnodup : (p.byAge []).Nodup :=
    (List.mergeSort_perm _ _).nodup_iff.mpr (List.nodup_range.filter _)
  have hle : (p.byAge []).Pairwise fun i j =>
      decide ((p.slot i).lastUsed ≤ (p.slot j).lastUsed) = true :=
    List.pairwise_mergeSort (fun a b c => by simpa using Nat.le_trans)
      (fun a b => by simpa using Nat.le_total _ _) _
  refine ⟨((hle.and hnodup).filter _).imp_of_mem fun {i j} hi hj h => ?_, hmem⟩
  have hused : (p.slot i).lastUsed ≠ 0 := fun h0 =>
    hmem.mp hi ((hp.sound i).asset_eq_none_iff.mpr h0)
  exact Nat.lt_of_le_of_ne (by simpa using h.1) fun heq => h.2 (hp.ages hused heq)

lemma recency (h : p.Ranks order) (hp : p.Tidy) :
    p.recency.map some = order.map fun i => (p.slot i).asset := by
  rw [h.unique (byAge hp), Pool.recency]
  induction p.byAge [] with
  | nil => rfl
  | cons i rest ih =>
    rcases hi : (p.slot i).asset with _ | a
    · simpa [hi] using ih
    · simpa [hi] using ih

section Change

variable (h : p.Ranks order) (hne : ∀ k ≠ j, (q.slot k).record = (p.slot k).record)

include h hne

lemma sorted_erase :
    (order.erase j).Pairwise fun i k => (q.slot i).lastUsed < (q.slot k).lastUsed := by
  have hused : ∀ k ∈ order.erase j, (q.slot k).lastUsed = (p.slot k).lastUsed := fun k hk =>
    (Slot.record_eq_iff.mp (hne k (h.nodup.mem_erase_iff.mp hk).1)).2.2.2.1
  refine (h.sorted.sublist List.erase_sublist).imp_of_mem fun {i k} hi hk hlt => ?_
  rwa [hused i hi, hused k hk]

lemma mem_erase {i : Nat} : i ∈ order.erase j ↔ i ≠ j ∧ (q.slot i).asset ≠ none := by
  rw [h.nodup.mem_erase_iff, h.mem]
  exact and_congr_right fun hi => by rw [(Slot.record_eq_iff.mp (hne i hi)).1]

lemma map_erase : (order.erase j).map (fun i => (q.slot i).asset) =
    (order.erase j).map fun i => (p.slot i).asset :=
  List.map_congr_left fun i hi =>
    (Slot.record_eq_iff.mp (hne i (h.nodup.mem_erase_iff.mp hi).1)).1

lemma drop (hj : (q.slot j).asset = none) : q.Ranks (order.erase j) := by
  refine ⟨h.sorted_erase hne, fun {i} => (h.mem_erase hne).trans ⟨And.right, fun hi => ⟨?_, hi⟩⟩⟩
  rintro rfl
  exact hi hj

lemma use (hj : (q.slot j).asset ≠ none)
    (hlast : ∀ k ≠ j, (q.slot k).lastUsed < (q.slot j).lastUsed) :
    q.Ranks (order.erase j ++ [j]) := by
  refine ⟨List.pairwise_append.mpr ⟨h.sorted_erase hne, List.pairwise_singleton _ _,
    fun i hi k hk => ?_⟩, fun {i} => ?_⟩
  · rw [List.mem_singleton.mp hk]
    exact hlast i ((h.mem_erase hne).mp hi).1
  · rw [List.mem_append, h.mem_erase hne, List.mem_singleton]
    by_cases hi : i = j
    · simp [hi, hj]
    · simp [hi]

end Change

lemma map_erase_of_asset {a : AssetId} (hp : p.Tidy) (hj : (p.slot j).asset = some a)
    (order : List Nat) : (order.erase j).map (fun i => (p.slot i).asset) =
      (order.map fun i => (p.slot i).asset).erase (some a) := by
  induction order with
  | nil => rfl
  | cons i rest ih =>
    by_cases hij : i = j
    · simp [hij, hj]
    · have hi : (p.slot i).asset ≠ some a := fun hi => hij (hp.distinct hi hj)
      rw [List.erase_cons_tail (by simpa using hij), List.map_cons, ih, List.map_cons,
        List.erase_cons_tail (by simpa using hi)]

lemma subset (h : p.Ranks order) : order ⊆ List.range p.size := fun i hi =>
  List.mem_range.mpr (p.lt_size_of_slot fun hs => h.mem.mp hi (by rw [hs]))

lemma length_le (h : p.Ranks order) : order.length ≤ p.size := by
  simpa using (h.nodup.subperm h.subset).length_le

lemma exists_unbound (h : p.Ranks order) (hlt : order.length < p.size) :
    ∃ k < p.size, (p.slot k).asset = none := by
  by_contra hall
  have hsub : List.range p.size ⊆ order := fun k hk => by
    rw [h.mem]
    exact fun hnone => hall ⟨k, List.mem_range.mp hk, hnone⟩
  have hle := (List.nodup_range.subperm hsub).length_le
  rw [List.length_range] at hle
  omega

/-- **The slot that is taken**: an unbound one if there is any, and otherwise the first in the
order of the last uses. -/
lemma erase_oldest (h : p.Ranks order) (hp : p.Tidy) (lt : j < p.size)
    (oldest : ∀ k < p.size, (p.slot j).lastUsed ≤ (p.slot k).lastUsed) :
    order.length < p.size ∧ (p.slot j).asset = none ∧ order.erase j = order ∨
      order.length = p.size ∧ ∃ rest, order = j :: rest := by
  rcases Nat.lt_or_eq_of_le h.length_le with hlt | heq
  · obtain ⟨k, hk, hunbound⟩ := h.exists_unbound hlt
    have hzero : (p.slot j).lastUsed = 0 := by
      have hle := oldest k hk
      rw [(hp.sound k).asset_eq_none_iff.mp hunbound] at hle
      exact Nat.le_zero.mp hle
    have hnone := (hp.sound j).asset_eq_none_iff.mpr hzero
    exact .inl ⟨hlt, hnone, List.erase_of_not_mem fun hj => h.mem.mp hj hnone⟩
  · have hmem : j ∈ order := by
      by_contra hj
      have hsub' : j :: order ⊆ List.range p.size :=
        List.cons_subset.mpr ⟨List.mem_range.mpr lt, h.subset⟩
      have hle := ((List.nodup_cons.mpr ⟨hj, h.nodup⟩).subperm hsub').length_le
      rw [List.length_cons, List.length_range] at hle
      omega
    obtain ⟨i, rest, rfl⟩ := List.exists_cons_of_ne_nil (List.ne_nil_of_mem hmem)
    rcases List.mem_cons.mp hmem with rfl | hrest
    · exact .inr ⟨heq, rest, rfl⟩
    · have hlt := List.rel_of_pairwise_cons h.sorted hrest
      have hle := oldest i (List.mem_range.mp (h.subset List.mem_cons_self))
      omega

end Ranks

section Even

variable {p q : Pool} {i : Nat} {a : AssetId}

lemma Even.loaded
    (h : ((p.rebind .main i a).modifySlot i Slot.finishLoad).countLoad.Even q) (lt : i < p.size) :
    q.size = p.size ∧ (∀ k ≠ i, (q.slot k).record = (p.slot k).record) ∧
      (q.slot i).asset = some a ∧ (q.slot i).lastUsed = p.clock + 1 := by
  have hslot : ∀ k, (q.slot k).record =
      (((p.rebind .main i a).modifySlot i Slot.finishLoad).slot k).record := h.record
  refine ⟨h.size.trans ((size_modifySlot _ _ _).trans (p.size_rebind _ _ _)), fun k hk => ?_, ?_⟩
  · rw [hslot, slot_modifySlot, if_neg fun hik => hk hik.1.symm, slot_rebind,
      if_neg fun hik => hk hik.1.symm]
  · have hi := hslot i
    rw [slot_modifySlot, size_rebind, if_pos ⟨rfl, lt⟩, slot_rebind, if_pos ⟨rfl, lt⟩,
      Slot.record_eq_iff] at hi
    exact ⟨hi.1, hi.2.2.2.1⟩

lemma Even.failed (h : ((p.rebind .main i a).unbind i).countLoad.Even q) (lt : i < p.size) :
    q.size = p.size ∧ (∀ k ≠ i, (q.slot k).record = (p.slot k).record) ∧
      (q.slot i).asset = none := by
  have hslot : ∀ k, (q.slot k).record = (((p.rebind .main i a).unbind i).slot k).record := h.record
  refine ⟨h.size.trans ((size_unbind _ _).trans (p.size_rebind _ _ _)), fun k hk => ?_, ?_⟩
  · rw [hslot, slot_unbind, if_neg fun hik => hk hik.1.symm, slot_rebind,
      if_neg fun hik => hk hik.1.symm]
  · have hi := hslot i
    rw [slot_unbind, size_rebind, if_pos ⟨rfl, lt⟩, Slot.record_eq_iff] at hi
    exact hi.1

end Even

/-- The pool is at rest and has the assets of the cache, in the order of their last uses. -/
structure Mirrors (p : Pool) (c : Cache) : Prop where
  rest : p.AtRest
  size : p.size = c.capacity
  failing : p.backend.failing = c.failing
  order : ∃ order, p.Ranks order ∧
    order.map (fun i => (p.slot i).asset) = c.assets.map some

namespace Mirrors

variable {p q : Pool} {c : Cache} {a : AssetId} {i j : Nat}

lemma tidy (h : p.Mirrors c) : p.Tidy := h.rest.ordered.good.tidy

lemma mem_assets (h : p.Mirrors c) : a ∈ c.assets ↔ ∃ i, (p.slot i).asset = some a := by
  obtain ⟨order, hranks, hassets⟩ := h.order
  have hmem : a ∈ c.assets ↔ some a ∈ order.map fun i => (p.slot i).asset := by simp [hassets]
  rw [hmem, List.mem_map]
  constructor
  · rintro ⟨i, -, hi⟩
    exact ⟨i, hi⟩
  · rintro ⟨i, hi⟩
    exact ⟨i, hranks.mem.mpr (by simp [hi]), hi⟩

lemma recency (h : p.Mirrors c) : p.recency = c.assets := by
  obtain ⟨order, hranks, hassets⟩ := h.order
  have hmap := (hranks.recency h.tidy).trans hassets
  exact List.map_injective_iff.mpr (Option.some_injective _) hmap

lemma new (config : PoolConfig) (backend : Backend) : (Pool.new config backend).Mirrors
    { capacity := max config.poolSize.toNat 1, failing := backend.failing } where
  rest := ⟨.new config backend, rfl, rfl, rfl, rfl⟩
  size := by simp [Pool.new, Pool.size]
  failing := rfl
  order := ⟨[], ⟨.nil, fun {i} => by simp⟩, rfl⟩

lemma drop (h : p.Mirrors c) {others : List AssetId}
    (hothers : ∀ order, p.Ranks order → order.map (fun i => (p.slot i).asset) = c.assets.map some →
      (order.erase j).map (fun i => (p.slot i).asset) = others.map some)
    (rest : q.AtRest) (hsize : q.size = p.size) (hfailing : q.backend.failing = p.backend.failing)
    (hne : ∀ k ≠ j, (q.slot k).record = (p.slot k).record) (hj : (q.slot j).asset = none)
    (misses : Nat) : q.Mirrors { c with assets := others, misses } where
  rest := rest
  size := hsize.trans h.size
  failing := hfailing.trans h.failing
  order := by
    obtain ⟨order, hranks, hassets⟩ := h.order
    exact ⟨order.erase j, hranks.drop hne hj,
      (hranks.map_erase hne).trans (hothers order hranks hassets)⟩

lemma use (h : p.Mirrors c) {others : List AssetId}
    (hothers : ∀ order, p.Ranks order → order.map (fun i => (p.slot i).asset) = c.assets.map some →
      (order.erase j).map (fun i => (p.slot i).asset) = others.map some)
    (rest : q.AtRest) (hsize : q.size = p.size) (hfailing : q.backend.failing = p.backend.failing)
    (hne : ∀ k ≠ j, (q.slot k).record = (p.slot k).record) (hj : (q.slot j).asset = some a)
    (hused : (q.slot j).lastUsed = p.clock + 1)
    (misses : Nat) : q.Mirrors { c with assets := others ++ [a], misses } where
  rest := rest
  size := hsize.trans h.size
  failing := hfailing.trans h.failing
  order := by
    obtain ⟨order, hranks, hassets⟩ := h.order
    refine ⟨order.erase j ++ [j], hranks.use hne (by simp [hj]) fun k hk => ?_, ?_⟩
    · rw [hused, (Slot.record_eq_iff.mp (hne k hk)).2.2.2.1]
      exact Nat.lt_succ_of_le (h.tidy.sound k).lastUsed_le
    · rw [List.map_append, hranks.map_erase hne, hothers order hranks hassets, List.map_append]
      simp [hj]

lemma erase (h : p.Mirrors c) (hj : (p.slot j).asset = some a) (order : List Nat)
    (hassets : order.map (fun i => (p.slot i).asset) = c.assets.map some) :
    (order.erase j).map (fun i => (p.slot i).asset) = (c.assets.erase a).map some := by
  rw [Ranks.map_erase_of_asset h.tidy hj, hassets, List.map_erase (Option.some_injective _)]

/-- Without the slot used longest ago there are the assets that stay when room is made. -/
lemma others (h : p.Mirrors c) (lt : j < p.size)
    (oldest : ∀ k < p.size, (p.slot j).lastUsed ≤ (p.slot k).lastUsed) {order : List Nat}
    (hranks : p.Ranks order)
    (hassets : order.map (fun i => (p.slot i).asset) = c.assets.map some) :
    (order.erase j).map (fun i => (p.slot i).asset) = c.others.map some ∧
      (p.slot j).asset = if c.isFull then c.assets.head? else none := by
  have hlength : order.length = c.assets.length := by
    simpa using congrArg List.length hassets
  rcases hranks.erase_oldest h.tidy lt oldest with ⟨hlt, hnone, herase⟩ | ⟨hfull, rest, rfl⟩
  · have hfull : c.isFull = false := by
      rw [Cache.isFull, ← h.size, ← hlength]
      simpa using hlt
    rw [herase, hassets, Cache.others, hfull]
    exact ⟨rfl, hnone⟩
  · have hfull : c.isFull = true := by
      rw [Cache.isFull, ← h.size, ← hlength]
      simpa using Nat.le_of_eq hfull.symm
    obtain ⟨a, others, hcons⟩ : ∃ a others, c.assets = a :: others :=
      List.exists_cons_of_length_pos (hlength ▸ Nat.succ_pos _)
    rw [hcons, List.map_cons, List.map_cons, List.cons.injEq] at hassets
    rw [List.erase_cons_head, Cache.others, hfull, hcons]
    exact ⟨hassets.2, hassets.1⟩

lemma release (h : p.Mirrors c) (a : AssetId) : (p.release a).2.Mirrors (c.remove a) := by
  unfold Pool.release
  split
  · next j hj =>
    have hbound := slotOf?_eq_some hj
    have hlt := p.lt_size_of_asset hbound
    refine h.drop (fun order _ => h.erase hbound order) (h.rest.unbind hlt) (size_modifySlot _ _ _)
      rfl (fun k hk => ?_) ?_ c.misses
    · simp [Ne.symm hk]
    · simp [hlt, Slot.unbind]
  · next hnone =>
    have hnot : a ∉ c.assets := fun ha => by
      obtain ⟨i, hi⟩ := h.mem_assets.mp ha
      exact slotOf?_eq_none hnone i hi
    rw [Cache.remove, List.erase_of_not_mem hnot]
    exact h

lemma reset (h : p.Mirrors c) : p.reset.Mirrors c.clear where
  rest := h.rest.reset
  size := p.size_reset.trans h.size
  failing := h.failing
  order := by
    refine ⟨[], ⟨.nil, fun {i} => ?_⟩, rfl⟩
    have hnone : (p.reset.slot i).asset = none := p.closed_dispose.unbound i
    exact ⟨fun hi => absurd hi List.not_mem_nil, fun hi => absurd hnone hi⟩

lemma backend (h : p.Mirrors c) (b : Backend) :
    ({ p with backend := b } : Pool).Mirrors { c with failing := b.failing } where
  rest := ⟨h.rest.ordered.run [.backend b], h.rest.alive, h.rest.work, h.rest.timers,
    h.rest.ready⟩
  size := h.size
  failing := rfl
  order := by
    obtain ⟨order, hranks, hassets⟩ := h.order
    exact ⟨order, ⟨hranks.sorted, hranks.mem⟩, hassets⟩

/-- **A request** does to the pool what it does to the cache, and a load is started when the asset
is not there. -/
lemma acquire (h : p.Mirrors c) {r : Request} {out : Pool × Option (Except MediaError Handle)}
    (named : r.asset.url.isEmpty = false) (hout : p.Acquires r out) :
    out.1.Mirrors (c.acquire r.asset) ∧
      out.1.backend.loads + c.misses = p.backend.loads + (c.acquire r.asset).misses := by
  have hrefuses : p.backend.refuses r.asset.url = c.failing.contains r.asset.url :=
    h.failing ▸ p.backend.refuses_of_named named
  have habsent : (∀ j, (p.slot j).asset ≠ some r.asset.id) → r.asset.id ∉ c.assets := by
    intro hnot hmem
    obtain ⟨i, hi⟩ := h.mem_assets.mp hmem
    exact hnot i hi
  cases hout with
  | @hits q i stale bound rest even =>
    have hslot := even.record i
    rw [slot_touch, if_pos ⟨rfl, p.lt_size_of_asset bound⟩, Slot.record_eq_iff] at hslot
    rw [Cache.acquire, if_pos (h.mem_assets.mpr ⟨i, bound⟩)]
    have hsize := even.size.trans (size_modifySlot _ _ _)
    refine ⟨h.use (fun order _ => h.erase bound order) rest hsize
      even.failing (fun k hk => ?_) (hslot.1.trans bound) hslot.2.2.2.1 _, ?_⟩
    · rw [even.record k, slot_touch, if_neg fun hik => hk hik.1.symm]
    · rw [even.loads]
      rfl
  | @loads q i stale unbound lt oldest good rest even =>
    obtain ⟨hsize, hne, hasset, hused⟩ := even.loaded lt
    rw [Cache.acquire, if_neg (habsent unbound), ← hrefuses, good, if_neg Bool.false_ne_true]
    refine ⟨h.use (fun order hranks hassets => (h.others lt oldest hranks hassets).1) rest hsize
      even.failing hne hasset hused _, ?_⟩
    rw [even.loads]
    exact Nat.add_right_comm _ 1 _
  | @fails q i reason unbound lt oldest bad rest even =>
    obtain ⟨hsize, hne, hasset⟩ := even.failed lt
    have hothers : (c.others ++ [r.asset.id]).erase r.asset.id = c.others := by
      have hnot : r.asset.id ∉ c.others := fun hmem =>
        habsent unbound (Cache.mem_of_mem_others hmem)
      simp [List.erase_append_right _ hnot]
    rw [Cache.acquire, if_neg (habsent unbound), ← hrefuses, bad, if_pos rfl, Cache.remove,
      Cache.insert, hothers]
    refine ⟨h.drop (fun order hranks hassets => (h.others lt oldest hranks hassets).1) rest hsize
      even.failing hne hasset _, ?_⟩
    rw [even.loads]
    exact Nat.add_right_comm _ 1 _

/-- **A call** does to the pool what it does to the cache. -/
lemma call (h : p.Mirrors c) (sized : 0 < c.capacity) (e : Call) :
    (e.apply p).Mirrors (e.reflect c) ∧
      (e.apply p).backend.loads + c.misses = p.backend.loads + (e.reflect c).misses := by
  cases e with
  | acquire asset named target playing =>
    exact h.acquire named (h.rest.acquires (h.size ▸ sized) named rfl)
  | release asset =>
    refine ⟨h.release asset, ?_⟩
    dsimp only [Call.apply, Pool.release]
    split <;> rfl
  | reset => exact ⟨h.reset, rfl⟩
  | tune loadMs seekMs failing hanging => exact ⟨h.backend _, rfl⟩

end Mirrors

/-- A request for an asset that is there: nothing is loaded, and all slots stay bound as they are.
-/
structure Hits (p : Pool) (asset : MediaAsset) (q : Pool)
    (result : Option (Except MediaError Handle)) : Prop where
  result : ∃ i stale, (p.slot i).asset = some asset.id ∧ result = some (.ok ⟨asset.id, i, stale⟩)
  binding : ∀ i, (q.slot i).binding = (p.slot i).binding
  loads : q.backend.loads = p.backend.loads

/-- A request for an asset that is not there. It takes a slot, which was used no later than any
other one; this is an unbound slot if there is one. The slot is bound to the asset, unless that
cannot be loaded. -/
structure Misses (p : Pool) (c : Cache) (asset : MediaAsset) (i : Nat) (q : Pool)
    (result : Option (Except MediaError Handle)) : Prop where
  lt : i < p.size
  oldest : ∀ k < p.size, (p.slot i).lastUsed ≤ (p.slot k).lastUsed
  unbound : (∃ k < p.size, (p.slot k).asset = none) → (p.slot i).asset = none
  dropped : (p.slot i).asset = if c.isFull then c.assets.head? else none
  others : ∀ k ≠ i, (q.slot k).record = (p.slot k).record
  loads : q.backend.loads = p.backend.loads + 1
  served : c.failing.contains asset.url = false →
    (q.slot i).asset = some asset.id ∧ ∃ stale, result = some (.ok ⟨asset.id, i, stale⟩)
  failed : c.failing.contains asset.url = true →
    (q.slot i).asset = none ∧ ∃ reason, result = some (.error (.loadFailed asset.url reason))

namespace Mirrors

variable {p q : Pool} {c : Cache} {i : Nat}

lemma misses (h : p.Mirrors c) {asset : MediaAsset} {result : Option (Except MediaError Handle)}
    (lt : i < p.size) (oldest : ∀ k < p.size, (p.slot i).lastUsed ≤ (p.slot k).lastUsed)
    (others : ∀ k ≠ i, (q.slot k).record = (p.slot k).record)
    (loads : q.backend.loads = p.backend.loads + 1)
    (served : c.failing.contains asset.url = false →
      (q.slot i).asset = some asset.id ∧ ∃ stale, result = some (.ok ⟨asset.id, i, stale⟩))
    (failed : c.failing.contains asset.url = true →
      (q.slot i).asset = none ∧ ∃ reason, result = some (.error (.loadFailed asset.url reason))) :
    p.Misses c asset i q result := by
  obtain ⟨order, hranks, hassets⟩ := h.order
  refine ⟨lt, oldest, ?_, (h.others lt oldest hranks hassets).2, others, loads, served, failed⟩
  rintro ⟨k, hk, hunbound⟩
  have hle := oldest k hk
  rw [(h.tidy.sound k).asset_eq_none_iff.mp hunbound] at hle
  exact (h.tidy.sound i).asset_eq_none_iff.mpr (Nat.le_zero.mp hle)

lemma hits_or_misses (h : p.Mirrors c) {r : Request}
    {out : Pool × Option (Except MediaError Handle)} (named : r.asset.url.isEmpty = false)
    (hout : p.Acquires r out) :
    (r.asset.id ∈ c.assets → p.Hits r.asset out.1 out.2) ∧
      (r.asset.id ∉ c.assets → ∃ i, p.Misses c r.asset i out.1 out.2) := by
  have hrefuses : p.backend.refuses r.asset.url = c.failing.contains r.asset.url :=
    h.failing ▸ p.backend.refuses_of_named named
  have hnone : (∀ j, (p.slot j).asset ≠ some r.asset.id) → r.asset.id ∉ c.assets :=
    fun hnot hmem => absurd (h.mem_assets.mp hmem) (not_exists.mpr hnot)
  cases hout with
  | @hits q i stale bound rest even =>
    refine ⟨fun _ => ⟨⟨i, stale, bound, rfl⟩, fun k => ?_, even.loads⟩,
      fun hnot => absurd (h.mem_assets.mpr ⟨i, bound⟩) hnot⟩
    obtain ⟨ha, hl, hp, -, hg⟩ := Slot.record_eq_iff.mp (even.record k)
    have htouch : ((p.touch i).slot k).binding = (p.slot k).binding := by
      rw [slot_touch]
      split <;> rfl
    exact (Slot.binding_eq_iff.mpr ⟨ha, hl, hp, hg⟩).trans htouch
  | @loads q i stale unbound lt oldest good rest even =>
    obtain ⟨-, hne, hasset, -⟩ := even.loaded lt
    refine ⟨fun hmem => absurd hmem (hnone unbound), fun _ => ⟨i, h.misses lt oldest hne even.loads
      (fun _ => ⟨hasset, stale, rfl⟩) fun hbad => ?_⟩⟩
    rw [← hrefuses, good] at hbad
    cases hbad
  | @fails q i reason unbound lt oldest bad rest even =>
    obtain ⟨-, hne, hasset⟩ := even.failed lt
    refine ⟨fun hmem => absurd hmem (hnone unbound), fun _ => ⟨i, h.misses lt oldest hne even.loads
      (fun hgood => ?_) fun _ => ⟨hasset, reason, rfl⟩⟩⟩
    rw [← hrefuses, bad] at hgood
    cases hgood

/-- **Any calls** do to the pool what they do to the cache. -/
lemma calls (h : p.Mirrors c) (sized : 0 < c.capacity) (es : List Call) :
    (es.foldl Call.apply p).Mirrors (es.foldl Call.reflect c) ∧
      (es.foldl Call.apply p).backend.loads + c.misses =
        p.backend.loads + (es.foldl Call.reflect c).misses := by
  induction es generalizing p c with
  | nil => exact ⟨h, rfl⟩
  | cons e es ih =>
    obtain ⟨hcall, hloads⟩ := h.call sized e
    have hsized : 0 < (e.reflect c).capacity := by
      rw [e.capacity_reflect]
      exact sized
    obtain ⟨hcalls, hrest⟩ := ih hcall hsized
    refine ⟨hcalls, ?_⟩
    rw [List.foldl_cons, List.foldl_cons]
    omega

end Mirrors

/-- **The pool is a cache** that drops what was used longest ago. After any calls it has the assets
that the cache has, used in the same order, and it has started a load whenever the cache missed an
asset; and so it goes on. -/
theorem recency_of_calls (config : PoolConfig) (backend : Backend) (calls : List Call) :
    let p := calls.foldl Call.apply (Pool.new config backend)
    let c := calls.foldl Call.reflect
      { capacity := max config.poolSize.toNat 1, failing := backend.failing }
    p.recency = c.assets ∧ (∀ a, (∃ i, (p.slot i).asset = some a) ↔ a ∈ c.assets) ∧
      p.backend.loads = backend.loads + c.misses ∧
      ∀ asset : MediaAsset, asset.url.isEmpty = false → ∀ target playing,
        let out := p.acquire ⟨asset, target, playing, []⟩
        (asset.id ∈ c.assets → p.Hits asset out.1 out.2) ∧
          (asset.id ∉ c.assets → ∃ i, p.Misses c asset i out.1 out.2) := by
  intro p c
  have hsized : 0 < max config.poolSize.toNat 1 := by omega
  obtain ⟨hmirrors, hloads⟩ : p.Mirrors c ∧ p.backend.loads + 0 = backend.loads + c.misses :=
    (Mirrors.new config backend).calls hsized calls
  refine ⟨hmirrors.recency, fun a => hmirrors.mem_assets.symm, hloads,
    fun asset named target playing => ?_⟩
  have hcapacity : p.size = max config.poolSize.toNat 1 :=
    hmirrors.size.trans (Call.capacity_foldl calls _)
  have hacquires := hmirrors.rest.acquires (r := ⟨asset, target, playing, []⟩)
    (hcapacity ▸ hsized) named rfl
  exact hmirrors.hits_or_misses named hacquires

/-- A shot whose url is its name. -/
def shotNamed (name : String) : MediaAsset := .video ⟨name⟩ name 10.0

/-- Two slots and three shots: the second of them is dropped for the third, as the first one was
needed again; and a shot that cannot be loaded takes the place of the first. -/
theorem recency_of_calls_three :
    let calls : List Call := [.acquire (shotNamed "a") rfl 0.0 false,
      .acquire (shotNamed "b") rfl 0.0 false, .acquire (shotNamed "a") rfl 2.0 true,
      .acquire (shotNamed "c") rfl 0.0 false]
    let p := calls.foldl Call.apply (Pool.new { poolSize := 2 } { failing := ["d"] })
    let out := p.acquire ⟨shotNamed "d", 0.0, false, []⟩
    p.recency = [⟨"a"⟩, ⟨"c"⟩] ∧ p.backend.loads = 3 ∧
      ∃ i, (p.slot i).asset = some ⟨"a"⟩ ∧ (out.1.slot i).asset = none := by
  intro calls p out
  obtain ⟨hrecency, -, hloads, hnext⟩ :=
    recency_of_calls { poolSize := 2 } { failing := ["d"] } calls
  obtain ⟨i, hmisses⟩ := (hnext (shotNamed "d") (by decide) 0.0 false).2 (by decide)
  exact ⟨hrecency.trans (by decide), hloads.trans (by decide), i,
    hmisses.dropped.trans (by decide), (hmisses.failed (by decide)).1⟩

end Pool

end Montage
