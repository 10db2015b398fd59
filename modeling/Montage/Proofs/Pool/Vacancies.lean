import Mathlib.Data.List.Basic
import Montage.Proofs.Pool.Elements

/-!
Which slots are filled in advance, and with what.

Assets that are wanted and not in the pool are taken in their order, each once, and the slots that
are vacant in theirs. One after the other they are brought together, until the assets or the slots
run out, or as many have been bound as may be. A slot that was unbound while somebody still works on
it is not vacant.

Assets are looked up in any way there is. For what becomes of a pool nothing but tables matters:
each time it ends up as if what it was told of stood in a table.
-/

namespace Montage

namespace Pool

variable {p q : Pool} {lookup : AssetId → Option MediaAsset} {ids : List AssetId} {id : AssetId}
  {i : Nat}

/-- The asset is known and plays on an element, from a source, and no slot is bound to it. -/
def Lacks (p : Pool) (lookup : AssetId → Option MediaAsset) (id : AssetId) : Prop :=
  (∀ i < p.size, (p.slot i).asset ≠ some id) ∧
    ∃ a ∈ lookup id, a.needsElement = true ∧ a.url ≠ ""

instance : Decidable (p.Lacks lookup id) := inferInstanceAs (Decidable (_ ∧ _))

/-- The assets that are yet to be loaded, each once. -/
def wanted (p : Pool) (lookup : AssetId → Option MediaAsset) (ids : List AssetId) : List AssetId :=
  (ids.filter fun id => decide (p.Lacks lookup id)).eraseDups

/-- The slots that nothing is bound to and nobody works on, in their order. -/
def vacancies (p : Pool) : List Nat :=
  (List.range p.size).filter fun i => (p.slot i).asset.isNone && p.isFree i

/-! ### Looking for a slot -/

lemma slotOf?_eq_none_iff : p.slotOf? id = none ↔ ∀ i < p.size, (p.slot i).asset ≠ some id := by
  refine ⟨fun h i _ => slotOf?_eq_none h i, fun h => ?_⟩
  rw [slotOf?, List.findIdx?_eq_none_iff]
  intro s hs
  obtain ⟨i, hi, rfl⟩ := List.mem_iff_getElem.mp hs
  simpa [slot, hi] using h i hi

lemma lacks_iff {a : MediaAsset} (h : lookup id = some a) :
    p.Lacks lookup id ↔ p.wantsWarmup id a = true := by
  simp [Lacks, wantsWarmup, h, slotOf?_eq_none_iff, and_assoc]

lemma findIdx?_slots (p : Pool) (f : Slot → Bool) :
    p.slots.findIdx? f = (List.range p.size).find? fun i => f (p.slot i) := by
  have hslot : ∀ (i : Nat) (h : i < p.slots.length), p.slots[i] = p.slot i := by
    intro i h
    simp [slot, h]
  cases hfind : (List.range p.size).find? fun i => f (p.slot i) with
  | none =>
    rw [List.findIdx?_eq_none_iff]
    intro s hs
    obtain ⟨i, hi, rfl⟩ := List.mem_iff_getElem.mp hs
    rw [hslot]
    simpa using List.find?_range_eq_none.mp hfind i hi
  | some i =>
    obtain ⟨hi, hmem, hbefore⟩ := List.find?_range_eq_some.mp hfind
    have hlt : i < p.slots.length := List.mem_range.mp hmem
    refine List.findIdx?_eq_some_iff_getElem.mpr ⟨hlt, by rwa [hslot], fun j hj => ?_⟩
    rw [hslot j (Nat.lt_trans hj hlt)]
    simpa using hbefore j hj

lemma idleSlot?_eq_head? (h : ∀ i, (p.slot i).asset = none → (p.slot i).lastUsed = 0) :
    p.idleSlot? = p.vacancies.head? := by
  rw [idleSlot?, findIdx?_slots, vacancies, List.head?_filter]
  congr 1
  funext i
  cases ha : (p.slot i).asset with
  | none => simp [h i ha, isFree]
  | some a => rfl

lemma mem_vacancies :
    i ∈ p.vacancies ↔ i < p.size ∧ (p.slot i).asset = none ∧ p.isFree i = true := by
  simp [vacancies]

lemma nodup_vacancies (p : Pool) : p.vacancies.Nodup := List.nodup_range.filter _

/-! ### Ways to look assets up -/

/-- What is looked up of an asset is whether it plays on an element, and its source. -/
lemma warmUp_congr {lookup' : AssetId → Option MediaAsset}
    (h : ∀ id ∈ ids, (lookup id).map (fun a => (a.needsElement, a.url)) =
      (lookup' id).map fun a => (a.needsElement, a.url)) (budget n : Nat) (p : Pool) :
    warmUp lookup budget ids n p = warmUp lookup' budget ids n p := by
  induction ids generalizing budget n p with
  | nil => cases budget <;> rfl
  | cons id rest ih =>
    have ih := ih fun x hx => h x (List.mem_cons_of_mem _ hx)
    have hid := h id List.mem_cons_self
    cases budget with
    | zero => rfl
    | succ budget =>
      rw [warmUp, warmUp]
      cases ha : lookup id with
      | none =>
        rw [ha, Option.map_none, eq_comm, Option.map_eq_none_iff] at hid
        rw [hid]
        exact ih _ _ _
      | some a =>
        rw [ha, Option.map_some, eq_comm, Option.map_eq_some_iff] at hid
        obtain ⟨b, hb, heq⟩ := hid
        obtain ⟨hneeds, hurl⟩ := Prod.mk.inj heq
        simp only [hb, wantsWarmup, hneeds, hurl, ih]

/-- The table of what a lookup tells of these assets. -/
def table (lookup : AssetId → Option MediaAsset) (ids : List AssetId) : AssetTable :=
  ⟨ids.filterMap fun id => (lookup id).map fun a => { a with id }⟩

lemma find?_table (h : id ∈ ids) :
    (table lookup ids).find? id = (lookup id).map fun a => { a with id } := by
  rw [AssetTable.find?, table, List.find?_filterMap]
  cases hfind : ids.find? fun x => ((lookup x).map fun a => { a with id := x }).any (·.id = id) with
  | none =>
    have hnone := List.find?_eq_none.mp hfind id h
    cases ha : lookup id with
    | none => rfl
    | some a => simp [ha] at hnone
  | some x =>
    have hx : x = id := by
      have hany := List.find?_some hfind
      cases ha : lookup x with
      | none => simp [ha] at hany
      | some a => simpa [ha] using hany
    rw [hx]
    rfl

/-- However assets are looked up, to load them is to load from some table. -/
lemma exists_preload_eq (p : Pool) (upcoming : List AssetId)
    (lookup : AssetId → Option MediaAsset) :
    ∃ assets, p.preloadFrom upcoming lookup = p.preload upcoming assets := by
  refine ⟨table lookup upcoming, ?_⟩
  rw [preload, preloadFrom, preloadFrom]
  have hfinds : ∀ id ∈ upcoming, (lookup id).map (fun a => (a.needsElement, a.url)) =
      ((table lookup upcoming).find? id).map fun a => (a.needsElement, a.url) := by
    intro id hid
    rw [find?_table hid, Option.map_map]
    rfl
  rw [warmUp_congr hfinds]

/-! ### One load in advance -/

variable {a : AssetId} {url : String}

lemma slot_startWarmup_of_ne {j : Nat} (h : i ≠ j) : (p.startWarmup i a url).slot j = p.slot j := by
  rw [slot_startWarmup, slot_rebind, if_neg fun hij => h hij.1]

lemma slot_startWarmup_self (h : i < p.size) : (p.startWarmup i a url).slot i =
    { (p.slot i).bind p.now a (p.clock + 1) with
      lock := (p.slot i).lock.take (p.agenda.started + 1) } := by
  rw [slot_startWarmup, slot_rebind, if_pos ⟨rfl, h⟩]

/-- The slot that is bound is not vacant any more, and all others are as before. -/
lemma vacancies_startWarmup {slots : List Nat} (h : p.vacancies = i :: slots) :
    (p.startWarmup i a url).vacancies = slots := by
  have hi : i < p.size := (mem_vacancies.mp (h ▸ List.mem_cons_self)).1
  have hfilter : (p.startWarmup i a url).vacancies = p.vacancies.filter (· != i) := by
    rw [vacancies, vacancies, List.filter_filter, size_startWarmup]
    refine List.filter_congr fun j _ => ?_
    by_cases hij : i = j
    · subst hij
      simp [slot_startWarmup_self hi, Slot.bind]
    · rw [isFree, slot_startWarmup_of_ne hij]
      simp [isFree, Ne.symm hij]
  have hnodup := p.nodup_vacancies
  rw [h, List.nodup_cons] at hnodup
  rw [hfilter, h, List.filter_cons_of_neg (by simp), List.filter_eq_self]
  intro j hj
  have hji : j ≠ i := fun hji => hnodup.1 (hji ▸ hj)
  simpa using hji

lemma neverUsed_startWarmup (h : ∀ j, (p.slot j).asset = none → (p.slot j).lastUsed = 0)
    (hi : i < p.size) (j : Nat) (hj : ((p.startWarmup i a url).slot j).asset = none) :
    ((p.startWarmup i a url).slot j).lastUsed = 0 := by
  by_cases hij : i = j
  · rw [← hij, slot_startWarmup_self hi] at hj
    cases hj
  · rw [slot_startWarmup_of_ne hij] at hj ⊢
    exact h j hj

/-- Its asset is in the pool now, and of all others the pool has what it had. -/
lemma lacks_startWarmup (h : i < p.size) (unbound : (p.slot i).asset = none) :
    (p.startWarmup i a url).Lacks lookup id ↔ p.Lacks lookup id ∧ id ≠ a := by
  have hslots : (∀ j < p.size, ((p.startWarmup i a url).slot j).asset ≠ some id) ↔
      (∀ j < p.size, (p.slot j).asset ≠ some id) ∧ id ≠ a := by
    constructor
    · intro hall
      refine ⟨fun j hj => ?_, fun heq => hall i h (by rw [slot_startWarmup_self h, heq]; rfl)⟩
      by_cases hij : i = j
      · simp [← hij, unbound]
      · rw [← slot_startWarmup_of_ne hij]
        exact hall j hj
    · rintro ⟨hall, hne⟩ j hj
      by_cases hij : i = j
      · rw [← hij, slot_startWarmup_self h]
        exact fun heq => hne (Option.some.inj heq).symm
      · rw [slot_startWarmup_of_ne hij]
        exact hall j hj
  rw [Lacks, Lacks, size_startWarmup, hslots, and_right_comm]

lemma wanted_cons (hlacks : p.Lacks lookup id) (h : i < p.size)
    (unbound : (p.slot i).asset = none) :
    p.wanted lookup (id :: ids) = id :: (p.startWarmup i id url).wanted lookup ids := by
  rw [wanted, wanted, List.filter_cons_of_pos (by simpa using hlacks), List.eraseDups_cons,
    List.filter_filter]
  congr 2
  refine List.filter_congr fun x _ => ?_
  by_cases hx : x = id <;> simp [lacks_startWarmup h unbound, hx]

lemma wanted_cons_of_not (h : ¬p.Lacks lookup id) :
    p.wanted lookup (id :: ids) = p.wanted lookup ids := by
  rw [wanted, wanted, List.filter_cons_of_neg (by simpa using h)]

/-! ### All of them -/

/-- These slots have been bound to these assets, one after the other, and all other slots are as
before. -/
structure Fills (p q : Pool) (slots : List Nat) (ids : List AssetId) : Prop where
  others : ∀ i ∉ slots, q.slot i = p.slot i
  assets : slots.map (fun i => (q.slot i).asset) = ids.map some
  /-- Each is a use of the pool. -/
  uses : slots.map (fun i => (q.slot i).lastUsed) = List.range' (p.clock + 1) slots.length
  loading : ∀ i ∈ slots, (q.slot i).loading = true ∧ (q.slot i).prepared = false
  generation : ∀ i ∈ slots, (q.slot i).generation = (p.slot i).generation + 1

lemma Fills.refl (p : Pool) : p.Fills p [] [] := ⟨fun _ _ => rfl, rfl, rfl, nofun, nofun⟩

lemma Fills.cons {slots : List Nat} (h : (p.startWarmup i a url).Fills q slots ids)
    (lt : i < p.size) (other : i ∉ slots) : p.Fills q (i :: slots) (a :: ids) := by
  have hself : q.slot i = { (p.slot i).bind p.now a (p.clock + 1) with
      lock := (p.slot i).lock.take (p.agenda.started + 1) } :=
    (h.others i other).trans (slot_startWarmup_self lt)
  refine ⟨fun j hj => ?_, ?_, ?_, fun j hj => ?_, fun j hj => ?_⟩
  · rw [List.mem_cons, not_or] at hj
    rw [h.others j hj.2, slot_startWarmup_of_ne (Ne.symm hj.1)]
  · rw [List.map_cons, List.map_cons, h.assets, hself]
    rfl
  · rw [List.map_cons, h.uses, hself]
    rfl
  · rcases List.mem_cons.mp hj with rfl | hj
    · rw [hself]
      exact ⟨rfl, rfl⟩
    · exact h.loading j hj
  · rcases List.mem_cons.mp hj with rfl | hj
    · rw [hself]
      rfl
    · have hij : i ≠ j := fun hij => other (hij ▸ hj)
      rw [h.generation j hj, slot_startWarmup_of_ne hij]

/-- **Loading in advance** goes through the vacant slots and the assets that are wanted, as far as
both go and as many may be loaded. -/
lemma fills_warmUp (lookup : AssetId → Option MediaAsset) (budget : Nat) (ids : List AssetId)
    (n : Nat) (h : ∀ i, (p.slot i).asset = none → (p.slot i).lastUsed = 0) :
    let r := min budget (min (p.wanted lookup ids).length p.vacancies.length)
    (warmUp lookup budget ids n p).1 = n + r ∧
      p.Fills (warmUp lookup budget ids n p).2 (p.vacancies.take r)
        ((p.wanted lookup ids).take r) := by
  fun_induction warmUp lookup budget ids n p with
  | case1 => simp [wanted, Fills.refl]
  | case2 => simp [Fills.refl]
  | case3 budget id rest n p hnone ih =>
    rw [wanted_cons_of_not fun hlacks => by simp [Lacks, hnone] at hlacks]
    exact ih h
  | case4 budget id rest n p a hfound hwants hidle =>
    rw [idleSlot?_eq_head? h, List.head?_eq_none_iff] at hidle
    simp [hidle, Fills.refl]
  | case5 budget id rest n p a hfound hwants i hidle ih =>
    -- The first asset goes to the first slot, and what is left is the same to the pool after that.
    obtain ⟨hlt, hunbound, -⟩ := idleSlot?_eq_some hidle
    rw [idleSlot?_eq_head? h] at hidle
    obtain ⟨slots, hslots⟩ := List.head?_eq_some_iff.mp hidle
    obtain ⟨hcount, hfills⟩ := ih (neverUsed_startWarmup h hlt)
    rw [vacancies_startWarmup hslots] at hcount hfills
    rw [wanted_cons ((lacks_iff hfound).mpr hwants) hlt hunbound, hslots]
    have hmin : ∀ w v, min (budget + 1) (min (w + 1) (v + 1)) = min budget (min w v) + 1 := by
      omega
    dsimp only
    rw [List.length_cons, List.length_cons, hmin, List.take_succ_cons, List.take_succ_cons]
    refine ⟨by omega, hfills.cons hlt fun hmem => ?_⟩
    have hnodup := p.nodup_vacancies
    rw [hslots, List.nodup_cons] at hnodup
    exact hnodup.1 (List.mem_of_mem_take hmem)
  | case6 budget id rest n p a hfound hnot ih =>
    rw [wanted_cons_of_not fun hlacks => hnot ((lacks_iff hfound).mp hlacks)]
    exact ih h

/-- **Loading in advance fills the vacant slots,** at any time of a pool that is in use. The assets
that are wanted and not in the pool, as many of them as may be loaded and as there are vacant slots
for, are bound in their order to the vacant slots in theirs; all other slots, among them all that
are bound, stay as they are. -/
theorem preload_fills_vacancies (config : PoolConfig) (backend : Backend) {es : List Event}
    {p : Pool} (reached : p = (Pool.new config backend).run es) (attended : p.attended = true)
    (alive : p.disposed = false) (upcoming : List AssetId) (lookup : AssetId → Option MediaAsset) :
    let r := (p.preloadFrom upcoming lookup).1
    let q := (p.preloadFrom upcoming lookup).2
    r = min p.config.preloadCount.toNat
      (min (p.wanted lookup upcoming).length p.vacancies.length) ∧
    (∀ i, (p.slot i).asset ≠ none → q.slot i = p.slot i) ∧
    p.Fills q (p.vacancies.take r) ((p.wanted lookup upcoming).take r) := by
  have hnever : ∀ i, (p.slot i).asset = none → (p.slot i).lastUsed = 0 := by
    have hsound := ((Ordered.new config backend).run es).good.tidy.sound
    rw [← reached] at hsound
    exact fun i => (hsound i).asset_eq_none_iff.mp
  obtain ⟨hcount, hfills⟩ := fills_warmUp lookup p.config.preloadCount.toNat upcoming 0 hnever
  have hpreload : p.preloadFrom upcoming lookup =
      warmUp lookup p.config.preloadCount.toNat upcoming 0 p := by
    simp [preloadFrom, attended, alive]
  rw [hpreload]
  rw [Nat.zero_add] at hcount
  dsimp only
  rw [hcount]
  refine ⟨rfl, fun i hi => hfills.others i fun hmem => ?_, hfills⟩
  exact hi (mem_vacancies.mp (List.mem_of_mem_take hmem)).2.1

/-- A video by this name, with a source. -/
def footage (name : String) : MediaAsset := .video ⟨name⟩ (name ++ ".mp4") 20.0

/-- Four videos and an image. -/
def library : AssetTable :=
  ⟨[footage "first", footage "second", .image ⟨"logo"⟩ "logo.png", footage "third",
    footage "fourth"]⟩

/-- Two loads are under way, one of them for an asset that has been taken out. -/
def halfway : Pool :=
  (Pool.new { poolSize := 5 } {}).run
    [.preload [⟨"first"⟩, ⟨"second"⟩] library, .release ⟨"first"⟩]

/-- Assets that are needed soon, and among them one that is in the pool, an image, and one that is
not known. -/
def soon : List AssetId :=
  [⟨"second"⟩, ⟨"logo"⟩, ⟨"third"⟩, ⟨"third"⟩, ⟨"nothing"⟩, ⟨"fourth"⟩, ⟨"first"⟩]

/-- The first slot is unbound but still locked, and the second is bound; so the first two assets
that are wanted are bound to the slots after them. -/
theorem preload_fills_vacancies_halfway :
    halfway.attended = true ∧ halfway.disposed = false ∧ (halfway.slot 0).asset = none ∧
      halfway.vacancies = [2, 3, 4] ∧
      halfway.wanted library.find? soon = [⟨"third"⟩, ⟨"fourth"⟩, ⟨"first"⟩] ∧
      (halfway.preloadFrom soon library.find?).1 = 2 ∧
      halfway.Fills (halfway.preloadFrom soon library.find?).2 [2, 3] [⟨"third"⟩, ⟨"fourth"⟩] := by
  have reached : halfway = (Pool.new { poolSize := 5 } {}).run
      [.preload [⟨"first"⟩, ⟨"second"⟩] library, .release ⟨"first"⟩] := rfl
  have attended : halfway.attended = true := by decide +kernel
  have alive : halfway.disposed = false := by decide +kernel
  have hvacancies : halfway.vacancies = [2, 3, 4] := by decide +kernel
  have hwanted : halfway.wanted library.find? soon = [⟨"third"⟩, ⟨"fourth"⟩, ⟨"first"⟩] := by
    decide +kernel
  have hcount : (halfway.preloadFrom soon library.find?).1 = 2 := by decide +kernel
  obtain ⟨-, -, hfills⟩ :=
    preload_fills_vacancies { poolSize := 5 } {} reached attended alive soon library.find?
  rw [hcount, hvacancies, hwanted] at hfills
  exact ⟨attended, alive, by decide +kernel, hvacancies, hwanted, hcount, hfills⟩

end Pool

end Montage
