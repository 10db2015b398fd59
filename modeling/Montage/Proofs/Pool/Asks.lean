import Montage.Proofs.Pool.Alone
import Montage.Proofs.Pool.Contests

/-!
A turn of the main task's request, when nobody else has a request.

The request never comes to nothing for want of picks: it waits for a load in advance of its asset at
most once, and for any other at most once after that. So it is served unless its asset has no
source, fails to load, or finds all slots pinned. It takes a slot away only when its asset is not
bound, and then it is, of the slots that may be had, the one used longest ago.
-/

namespace Montage

/-- The slot is left alone, apart from its lock and from a use of the asset that is counted. -/
structure Slot.Stays (a : AssetId) (s s' : Slot) : Prop where
  binding : s'.binding = s.binding
  element : s'.element = s.element
  used : s'.lastUsed = s.lastUsed ∨ s.asset = some a

namespace Slot.Stays

variable {a : AssetId} {s s' s'' : Slot}

lemma refl (a : AssetId) (s : Slot) : s.Stays a s := ⟨rfl, rfl, .inl rfl⟩

lemma asset (h : s.Stays a s') : s'.asset = s.asset := (binding_eq_iff.mp h.binding).1

lemma prepared (h : s.Stays a s') : s'.prepared = s.prepared :=
  (binding_eq_iff.mp h.binding).2.2.1

lemma generation (h : s.Stays a s') : s'.generation = s.generation :=
  (binding_eq_iff.mp h.binding).2.2.2

lemma trans (h : s.Stays a s') (h' : s'.Stays a s'') : s.Stays a s'' := by
  refine ⟨h'.binding.trans h.binding, h'.element.trans h.element, ?_⟩
  rcases h'.used with hused | hasset
  · rw [hused]
    exact h.used
  · exact .inr (h.asset ▸ hasset)

end Slot.Stays

namespace Pool

variable {p q : Pool} {i j : Nat} {a : AssetId}

lemma stays_unlock (p : Pool) (i j : Nat) (a : AssetId) :
    (p.slot j).Stays a ((p.unlock i).slot j) := by
  rw [slot_unlock]
  split <;> exact ⟨rfl, rfl, .inl rfl⟩

lemma stays_lock (p : Pool) (i j : Nat) (t : TaskId) (a : AssetId) :
    (p.slot j).Stays a ((p.lock i t).slot j) := by
  rw [slot_lock]
  split <;> exact ⟨rfl, rfl, .inl rfl⟩

lemma stays_enqueue (p : Pool) (i j : Nat) (t : TaskId) (a : AssetId) :
    (p.slot j).Stays a ((p.enqueue i t).slot j) := by
  rw [slot_enqueue]
  split <;> exact ⟨rfl, rfl, .inl rfl⟩

@[simp] lemma now_unlock (p : Pool) (i : Nat) : (p.unlock i).now = p.now := by
  unfold unlock
  dsimp only
  split
  · rfl
  · unfold now Agenda.wake
    split <;> rfl

lemma stays_touch (hi : (p.slot i).asset = some a) (j : Nat) :
    (p.slot j).Stays a ((p.touch i).slot j) := by
  rw [slot_touch]
  split
  · next hij => exact ⟨rfl, rfl, .inr (hij.1 ▸ hi)⟩
  · exact .refl _ _

lemma Tame.stays (h : p.Tame q) (still : ∀ j, q.element j = p.element j) (j : Nat) (a : AssetId) :
    (p.slot j).Stays a (q.slot j) :=
  ⟨h.binding j, still j, .inl (Slot.record_eq_iff.mp (h.record j)).2.2.2.1⟩

lemma Tidy.alive (h : p.Tidy) (ha : (p.slot i).asset = some a) : p.disposed = false := by
  by_contra hd
  simp [h.closed (by simpa using hd) i] at ha

/-- The element of a slot is where a request wants it, or close enough. -/
def Aligned (p : Pool) (i : Nat) (r : Request) : Prop :=
  Scalar.abs ((p.element i).time p.now - r.seekTarget) ≤ p.config.tolerance r.playing ∨
    ∃ e : Element, p.element i = e.finishSeek p.now r.seekTarget

end Pool

namespace Request

/-- A request of the main task as it may stand while nobody else has one. -/
inductive Keen (p : Pool) (r : Request) : Stage → Prop
  | unstarted : Keen p r .unstarted
  /-- The asset is being loaded in advance, unless that has failed. -/
  | joins {i g n : Nat} (two : 2 ≤ n)
      (bound : (p.slot i).generation = g ∧ (p.slot i).asset = some r.asset.id ∨
        ∀ j, (p.slot j).asset ≠ some r.asset.id) : Keen p r (.queued i (some g) n)
  | waits {i n : Nat} (one : 1 ≤ n) (hi : i ∉ r.pinned)
      (unbound : ∀ j, (p.slot j).asset ≠ some r.asset.id) : Keen p r (.queued i none n)
  | loads {i g due : Nat} (hi : i ∉ r.pinned) (same : (p.slot i).generation = g)
      (source : (p.element i).source = some r.asset.url) : Keen p r (.loading i g due)
  | seeks {i g deadline : Nat} {due : Option Nat}
      (serves : (p.slot i).serves r.asset.id g = true) : Keen p r (.seeking i g due deadline)

/-- What may come of a request to a pool, which is another then, and why. -/
inductive Verdict (p q : Pool) (r : Request) : Except MediaError Handle → Prop
  | served {i : Nat} {stale : Bool} (shows : q.Shows i r.asset.id)
      (aligned : stale = false → q.Aligned i r) : Verdict p q r (.ok ⟨r.asset.id, i, stale⟩)
  | missing (empty : r.asset.url.isEmpty = true) :
      Verdict p q r (.error (.missingSource r.asset.id))
  | disposed (disposed : q.disposed = true) : Verdict p q r (.error .disposed)
  | exhausted (unbound : ∀ j, (q.slot j).asset ≠ some r.asset.id)
      (all : ∀ j, j < q.size → j ∈ r.pinned) : Verdict p q r (.error (.poolExhausted r.asset.id))
  | failed {reason : String} (unbound : ∀ j, (q.slot j).asset ≠ some r.asset.id)
      (refuses : p.backend.refuses r.asset.url = true) :
      Verdict p q r (.error (.loadFailed r.asset.url reason))

/-- What becomes of a slot in a turn of the main task's request. -/
inductive Fares (r : Request) (p : Pool) (s : Slot) (stage : Stage) (j : Nat) : Prop
  | stays (h : (p.slot j).Stays r.asset.id s)
  /-- The element is moved, and the request is over. -/
  | lands (shows : p.Shows j r.asset.id) (binding : s.binding = (p.slot j).binding)
      (done : stage = .done (.ok ⟨r.asset.id, j, false⟩))
  | loads (empty : (p.slot j).prepared = false)
  /-- The slot is taken away from what it was bound to. -/
  | takes (later : (p.slot j).generation < s.generation) (hj : j ∉ r.pinned)
      (unbound : ∀ i, (p.slot i).asset ≠ some r.asset.id)
      (oldest : ∀ k, k < p.size → k ∉ r.pinned → p.isFree k = true →
        (p.slot j).lastUsed ≤ (p.slot k).lastUsed)

/-- The slot is bound as it was, or to the asset of the request if to anything. -/
def Rebound (r : Request) (s s' : Slot) : Prop :=
  (s'.generation = s.generation ∧ s'.asset = s.asset) ∨ s'.asset = some r.asset.id ∨ s'.asset = none

lemma Rebound.of_stays {r : Request} {s s' : Slot} (h : s.Stays r.asset.id s') : r.Rebound s s' :=
  .inl ⟨h.generation, h.asset⟩

/-- Whether a request may still pick a slot. -/
def Stage.picks : Stage → Bool
  | unstarted | queued .. => true
  | _ => false

/-- All that a turn of the main task's request does. -/
structure Outcome (r : Request) (p : Pool) (out : Pool × Stage) : Prop where
  next : Keen out.1 r out.2 ∨ ∃ result, out.2 = .done result ∧ Verdict p out.1 r result
  fares : ∀ j, Fares r p (out.1.slot j) out.2 j
  rebound : ∀ j, r.Rebound (p.slot j) (out.1.slot j)
  rests : out.2.picks = true → ∀ j, (p.slot j).Stays r.asset.id (out.1.slot j) ∧
    (p.isFree j = true → out.1.isFree j = true)

variable {r : Request} {p q u : Pool} {i g n due : Nat} {stage : Stage} {out : Pool × Stage}

lemma Outcome.of_stays
    (next : Keen q r stage ∨ ∃ result, stage = .done result ∧ Verdict p q r result)
    (h : ∀ j, (p.slot j).Stays r.asset.id (q.slot j))
    (rests : stage.picks = true → ∀ j, p.isFree j = true → q.isFree j = true) :
    Outcome r p (q, stage) :=
  ⟨next, fun j => .stays (h j), fun j => .of_stays (h j), fun hp j => ⟨h j, rests hp j⟩⟩

/-- One slot is spoken for, and the others are left alone. -/
lemma Outcome.of_others
    (next : Keen q r stage ∨ ∃ result, stage = .done result ∧ Verdict p q r result)
    (hothers : ∀ j ≠ i, (p.slot j).Stays r.asset.id (q.slot j))
    (own : Fares r p (q.slot i) stage i) (rebound : r.Rebound (p.slot i) (q.slot i))
    (ended : stage.picks = false) : Outcome r p (q, stage) := by
  refine ⟨next, fun j => ?_, fun j => ?_, fun hpicks => by simp [ended] at hpicks⟩
  all_goals by_cases hij : j = i
  · exact hij ▸ own
  · exact .stays (hothers j hij)
  · exact hij ▸ rebound
  · exact .of_stays (hothers j hij)

/-! ### Seeks and loads -/

lemma Arrives.stays {q : Pool} {stale : Bool} (h : Arrives r u i q stale) (tame : u.Tame q)
    (a : AssetId) (j : Nat) : (u.slot j).Stays a (q.slot j) ∨ j = i ∧ stale = false := by
  cases h with
  | near still | late still => exact .inl (tame.stays still j a)
  | lands moved =>
    by_cases hij : j = i
    · exact .inr ⟨hij, rfl⟩
    · refine .inl ⟨tame.binding j, ?_, .inl (Slot.record_eq_iff.mp (tame.record j)).2.2.2.1⟩
      have helement := moved j
      rw [Pool.element_modifyElement, if_neg (by simp [Ne.symm hij])] at helement
      exact helement

lemma Arrives.aligned {q : Pool} (h : Arrives r u i q false) (tame : u.Tame q) (hi : i < u.size) :
    (q.unlock i).Aligned i r := by
  have helement : (q.unlock i).element i = q.element i := (q.record_unlock i i).2
  have hnow : (q.unlock i).now = u.now := (q.now_unlock i).trans tame.now
  have hconfig : (q.unlock i).config = u.config := (q.config_unlock i).trans tame.config
  rw [Pool.Aligned, helement, hnow, hconfig]
  cases h with
  | near still near =>
    rw [still]
    exact .inl near
  | lands moved =>
    refine .inr ⟨u.element i, ?_⟩
    rw [moved, Pool.element_modifyElement, if_pos ⟨rfl, hi⟩]

/-- A seek leaves all elements alone, unless it is over and has moved its own. -/
lemma Seeks.stays (h : Seeks r u i g out) (had : u.isLost i g = false) (j : Nat) :
    (u.slot j).Stays r.asset.id (out.1.slot j) ∨
      j = i ∧ out.2 = .done (.ok ⟨r.asset.id, i, false⟩) := by
  cases h with
  | waits tame still => exact .inl (tame.stays still j _)
  | @ends q stale tame _ arrives =>
    rcases arrives.stays tame r.asset.id j with hstays | ⟨hij, hstale⟩
    · exact .inl (hstays.trans (q.stays_unlock i j _))
    · subst hstale
      exact .inr ⟨hij, rfl⟩
  | lost _ lost => simp [had] at lost

lemma Seeks.next (h : Seeks r u i g out) (had : u.isLost i g = false)
    (serves : (u.slot i).serves r.asset.id g = true) :
    Keen out.1 r out.2 ∨ ∃ result, out.2 = .done result ∧ Verdict p out.1 r result := by
  obtain ⟨-, hprepared, -, hasset⟩ := Slot.serves_eq_true.mp serves
  have hshows : out.1.Shows i r.asset.id :=
    Pool.Shows.of_binding ⟨hprepared, hasset⟩ (h.binding i)
  cases h with
  | waits tame =>
    refine .inl (.seeks ?_)
    rw [Slot.serves_of_binding (tame.binding i)]
    exact serves
  | @ends q stale tame _ arrives =>
    refine .inr ⟨_, rfl, .served hshows fun hstale => ?_⟩
    subst hstale
    exact arrives.aligned tame (u.lt_size_of_asset hasset)
  | lost _ lost => simp [had] at lost

lemma Seeks.not_picks (h : Seeks r u i g out) : out.2.picks = false := by
  cases h <;> rfl

lemma Seeks.outcome (h : Seeks r u i g out) (alive : u.disposed = false)
    (serves : (u.slot i).serves r.asset.id g = true)
    (hu : ∀ j, (p.slot j).Stays r.asset.id (u.slot j)) : Outcome r p out := by
  obtain ⟨hg, hprepared, -, hasset⟩ := Slot.serves_eq_true.mp serves
  have had := Pool.isLost_eq_false.mpr ⟨alive, hg⟩
  have hbinding := fun j => (h.binding j).trans (hu j).binding
  refine ⟨h.next had serves, fun j => ?_, fun j => ?_,
    fun hpicks => by simp [h.not_picks] at hpicks⟩
  · rcases h.stays had j with hstays | ⟨rfl, hdone⟩
    · exact .stays ((hu j).trans hstays)
    · exact .lands ⟨(hu j).prepared ▸ hprepared, (hu j).asset ▸ hasset⟩ (hbinding j) hdone
  · obtain ⟨hsame, -, -, hgen⟩ := Slot.binding_eq_iff.mp (hbinding j)
    exact .inl ⟨hgen, hsame⟩

/-- A load of the request is under way in a slot. What becomes of that slot is for whoever has
bound it to say. -/
lemma Loads.outcome (h : Loads r u i g due out) (had : u.isLost i g = false)
    (hasset : (u.slot i).asset = some r.asset.id)
    (distinct : ∀ j, (u.slot j).asset = some r.asset.id → j = i)
    (source : (u.element i).source = some r.asset.url) (hi : i ∉ r.pinned)
    (hf : u.backend.failing = p.backend.failing)
    (hu : ∀ j ≠ i, (p.slot j).Stays r.asset.id (u.slot j))
    (own : ∀ s stage, (u.slot i).generation ≤ s.generation → Fares r p s stage i) :
    Outcome r p out := by
  obtain ⟨alive, hg⟩ := Pool.isLost_eq_false.mp had
  have hlt := u.lt_size_of_asset hasset
  cases h with
  | waits =>
    exact .of_others (.inl (.loads hi hg source)) hu (own _ _ (Nat.le_refl _))
      (.inr (.inl hasset)) rfl
  | lost _ lost => simp [had] at lost
  | @fails q reason _ tame _ still bad =>
    have hslot : ∀ j, ((u.unbind i).slot j).Stays r.asset.id ((q.unlock i).slot j) := fun j =>
      (tame.stays still j _).trans (q.stays_unlock i j _)
    have hunbind : ∀ j ≠ i, (u.unbind i).slot j = u.slot j := fun j hij => by
      simp [Ne.symm hij]
    have hnone : ((q.unlock i).slot i).asset = none := by
      rw [(hslot i).asset]
      simp [hlt, Slot.unbind]
    have hgen : ((q.unlock i).slot i).generation = (u.slot i).generation + 1 := by
      rw [(hslot i).generation]
      simp [hlt, Slot.unbind]
    refine .of_others (.inr ⟨_, rfl, .failed (fun j hj => ?_) ?_⟩)
      (fun j hij => (hu j hij).trans (hunbind j hij ▸ hslot j)) (own _ _ (by omega))
      (.inr (.inr hnone)) rfl
    · by_cases hij : j = i
      · subst hij
        cases hnone.symm.trans hj
      · rw [(hslot j).asset, hunbind j hij] at hj
        exact hij (distinct j hj)
    · have hrefuses := bad source
      rwa [Backend.refuses, hf] at hrefuses
  | loads _ _ _ seeks =>
    have hload : ∀ j ≠ i, (u.modifySlot i Slot.finishLoad).slot j = u.slot j := fun j hij => by
      simp [Ne.symm hij]
    have had' := isLost_finishLoad had
    have hserves : ((u.modifySlot i Slot.finishLoad).slot i).serves r.asset.id g = true := by
      simp [hlt, Slot.serves, Slot.finishLoad, hg, hasset]
    obtain ⟨hsame, -, -, hgen⟩ := Slot.binding_eq_iff.mp (seeks.binding i)
    rw [Pool.slot_modifySlot, if_pos ⟨rfl, hlt⟩] at hsame hgen
    have hothers : ∀ j ≠ i, (p.slot j).Stays r.asset.id (out.1.slot j) := fun j hij => by
      rcases seeks.stays had' j with hstays | ⟨hji, -⟩
      · exact (hu j hij).trans (hload j hij ▸ hstays)
      · exact absurd hji hij
    exact .of_others (seeks.next had' hserves) hothers (own _ _ (Nat.le_of_eq hgen.symm))
      (.inr (.inl (hsame.trans hasset))) seeks.not_picks

lemma Loads.not_picks (h : Loads r u i g due out) : out.2.picks = false := by
  cases h with
  | waits | lost | fails => rfl
  | loads _ _ _ seeks => exact seeks.not_picks

/-! ### Picks -/

/-- Picks for an asset that no slot is bound to. With a single pick there is a slot to be had. -/
lemma Runs.outcome_of_unbound (h : Runs .main r n u out) (hn : 1 ≤ n)
    (hlast : n = 1 → ∃ j, j < u.size ∧ j ∉ r.pinned ∧ u.isFree j = true)
    (unbound : ∀ j, (u.slot j).asset ≠ some r.asset.id) (hsize : u.size = p.size)
    (hf : u.backend.failing = p.backend.failing)
    (hu : ∀ j, (p.slot j).Stays r.asset.id (u.slot j))
    (hfree : ∀ j, p.isFree j = true → u.isFree j = true) : Outcome r p out := by
  have hof : ∀ i, u.slotOf? r.asset.id ≠ some i := fun i hi =>
    unbound i (Pool.slotOf?_eq_some hi)
  cases h with
  | spent => omega
  | refused hd => exact .of_stays (.inr ⟨_, rfl, .disposed hd⟩) hu (fun hpicks => by cases hpicks)
  | serves bound | again bound | joins bound => exact absurd bound (hof _)
  | @binds n i _ q _ alive _ free lt hi tame loads still failing oldest =>
    have hq : ∀ j ≠ i, (u.slot j).Stays r.asset.id (q.slot j) := fun j hij => by
      have hstays := tame.stays still j r.asset.id
      rwa [Pool.slot_begun, if_neg (by simp [Ne.symm hij])] at hstays
    have hi' := tame.stays still i r.asset.id
    rw [Pool.slot_begun, if_pos ⟨rfl, lt⟩] at hi'
    have hgen : (q.slot i).generation = (u.slot i).generation + 1 := hi'.generation
    refine loads.outcome ?_ hi'.asset (fun j hj => ?_) ?_ hi (failing.trans hf)
      (fun j hij => (hu j).trans (hq j hij)) fun s stage hle => .takes ?_ hi ?_ ?_
    · exact Pool.isLost_eq_false.mpr ⟨tame.disposed.trans alive, hgen⟩
    · by_contra hij
      exact unbound j ((hq j hij).asset ▸ hj)
    · have hsource := congrArg Element.source hi'.element
      exact hsource
    · have hp := (hu i).generation
      omega
    · exact fun j hj => unbound j ((hu j).asset.trans hj)
    · intro k hk hpin hkfree
      have hold := oldest k (hsize ▸ hk) hpin (hfree k hkfree)
      -- A slot that is not bound to the asset was last used when it was.
      have hused : ∀ j, (u.slot j).lastUsed = (p.slot j).lastUsed := fun j =>
        (hu j).used.resolve_right fun hj => unbound j ((hu j).asset.trans hj)
      rwa [hused, hused] at hold
  | @waits n i _ alive _ busy oldest =>
    have hmem := Pool.mem_byAge.mp (List.mem_of_mem_head? oldest)
    have hstays : ∀ j, (p.slot j).Stays r.asset.id ((u.countUse.enqueue i .main).slot j) :=
      fun j => (hu j).trans (u.countUse.stays_enqueue i j _ _)
    refine .of_stays (.inl (.waits ?_ hmem.2 fun j hj => ?_)) hstays fun _ j hj => ?_
    · by_contra hzero
      obtain ⟨j, hj, hpin, hjfree⟩ := hlast (by omega)
      simp [busy j hj hpin] at hjfree
    · rw [(hstays j).asset] at hj
      exact unbound j ((hu j).asset.trans hj)
    · exact (u.countUse.isFree_enqueue i j _).trans (hfree j hj)
  | exhausted _ all _ =>
    exact .of_stays (.inr ⟨_, rfl, .exhausted unbound all⟩) hu (fun hpicks => by cases hpicks)

/-- Picks for an asset that a slot is bound to. -/
lemma Runs.outcome_of_bound (h : Runs .main r (n + 1) p out) (hn : 2 ≤ n) (hp : p.Alone)
    (hof : p.slotOf? r.asset.id = some i) : Outcome r p out := by
  have hasset := Pool.slotOf?_eq_some hof
  have alive : p.disposed = false := hp.ordered.good.tidy.alive hasset
  cases h with
  | refused hd => exact absurd hd (by simp [alive])
  | binds _ unbound | waits _ unbound | exhausted _ _ unbound => simp [hof] at unbound
  | @serves n j _ out bound free serves seeks =>
    obtain rfl : j = i := Option.some.inj (bound.symm.trans hof)
    have hstays : ∀ k, (p.slot k).Stays r.asset.id (((p.touch j).lock j .main).slot k) := fun k =>
      (Pool.stays_touch hasset k).trans ((p.touch j).stays_lock j k _ _)
    refine seeks.outcome alive ?_ hstays
    rw [Slot.serves_of_binding (hstays j).binding]
    exact serves
  | @again n j _ out bound free _ other =>
    obtain rfl : j = i := Option.some.inj (bound.symm.trans hof)
    have hprepared := hp.prepared_of_isFree free (by simp [hasset])
    have hflags : (p.slot j).loading = !(p.slot j).prepared :=
      (hp.ordered.good.tidy.sound j).flags_of_bound (by rw [Pool.account, hasset]; simp)
    simp [Slot.serves, hprepared, hflags, hasset] at other
  | @joins n j _ bound busy =>
    obtain rfl : j = i := Option.some.inj (bound.symm.trans hof)
    have hstays : ∀ k, (p.slot k).Stays r.asset.id (((p.touch j).enqueue j .main).slot k) :=
      fun k => (Pool.stays_touch hasset k).trans ((p.touch j).stays_enqueue j k _ _)
    have hbound := (hstays j).asset.trans hasset
    refine .of_stays (.inl (.joins hn (.inl ⟨(hstays j).generation, hbound⟩))) hstays fun _ k hk => ?_
    simpa using hk

lemma Steps.picks {t : TaskId} (h : Steps t r p stage out) (hp : out.2.picks = true) :
    stage.picks = true := by
  cases h with
  | refused | starts | stays | uses | again => rfl
  | loads loads => simp [loads.not_picks] at hp
  | seeks seeks => simp [seeks.not_picks] at hp

namespace Keen

lemma ne_done (k : Keen p r stage) (result : Except MediaError Handle) : stage ≠ .done result := by
  cases k <;> nofun

lemma outcome_again (h : p.Alone) (holds : p.holds i .main = true)
    (runs : Runs .main r n (p.unlock i) out) (hn : 1 ≤ n) (hlast : n = 1 → i ∉ r.pinned)
    (unbound : ∀ j, (p.slot j).asset ≠ some r.asset.id) : Outcome r p out := by
  have hholder := Pool.holds_iff.mp holds
  have hlt := p.lt_size_of_holds holds
  have hstays := fun j => p.stays_unlock i j r.asset.id
  refine runs.outcome_of_unbound hn (fun hone => ⟨i, by simpa using hlt, hlast hone, ?_⟩)
    (fun j hj => unbound j ((hstays j).asset.symm.trans hj)) (by simp) (by simp) hstays
    fun j hj => ?_
  · rw [Pool.isFree_iff, Pool.slot_unlock, if_pos ⟨rfl, hlt⟩]
    simp [Lock.release, h.waiting_eq_nil hholder]
  · have hij : i ≠ j := by
      rintro rfl
      simp [Pool.isFree_iff.mp hj] at hholder
    rw [Pool.isFree, Pool.slot_unlock, if_neg (by simp [hij])]
    exact hj

/-- **What comes of a turn** of the main task's request. -/
theorem outcome (k : Keen p r stage) (h : p.Alone)
    (hw : p.work? .main = some (.request r stage)) : Outcome r p (r.poll .main p stage) := by
  have hstake := Pool.stake_of_work? hw
  have hsteps : Steps .main r p stage (r.poll .main p stage) :=
    .poll h.ordered.good.tidy k.ne_done
  obtain ⟨out, hout⟩ : ∃ out, r.poll .main p stage = out := ⟨_, rfl⟩
  rw [hout] at hsteps ⊢
  have hrefl : ∀ j, (p.slot j).Stays r.asset.id (p.slot j) := fun j => .refl _ _
  cases k with
  | unstarted =>
    cases hsteps with
    | refused empty => exact .of_stays (.inr ⟨_, rfl, .missing empty⟩) hrefl nofun
    | starts runs =>
      rcases hof : p.slotOf? r.asset.id with _ | i
      · exact runs.outcome_of_unbound (by decide) (fun hone => by cases hone)
          (Pool.slotOf?_eq_none hof) rfl rfl hrefl fun _ => id
      · exact Runs.outcome_of_bound (n := 3) runs (by decide) h hof
  | @joins i g n two bound =>
    cases hsteps with
    | stays => exact .of_stays (.inl (.joins two bound)) hrefl fun _ _ => id
    | uses _ serves seeks =>
      obtain ⟨-, -, -, hasset⟩ := Slot.serves_eq_true.mp serves
      exact seeks.outcome (h.ordered.good.tidy.alive hasset) serves hrefl
    | again holds runs other =>
      refine outcome_again h holds runs (by omega) (by omega) ?_
      rcases bound with ⟨hg, hasset⟩ | unbound
      · have hopen : p.IsOpen i := fun t ht hholder => by
          rw [Pool.holds_iff.mp holds, Option.some.injEq] at hholder
          exact ht hholder.symm
        have hprepared := h.prepared_of_isOpen hopen
          (fun g a hs => by simp [hstake] at hs; cases hs) (by simp [hasset])
        have hflags : (p.slot i).loading = !(p.slot i).prepared :=
          (h.ordered.good.tidy.sound i).flags_of_bound (by rw [Pool.account, hasset]; simp)
        have hserves := other g rfl
        simp [Slot.serves, hg, hprepared, hflags, hasset] at hserves
      · exact unbound
  | @waits i n one hi unbound =>
    cases hsteps with
    | stays => exact .of_stays (.inl (.waits one hi unbound)) hrefl fun _ _ => id
    | again holds runs => exact outcome_again h holds runs one (fun _ => hi) unbound
  | @loads i g due hi same source =>
    obtain ⟨-, howned⟩ := h.ordered.good.owned.loading hstake
    obtain ⟨hloading, hasset⟩ := howned same
    cases hsteps with
    | loads loads =>
      refine loads.outcome ?_ hasset (fun j hj => h.ordered.good.tidy.distinct hj hasset) source hi
        rfl (fun j _ => hrefl j) fun _ _ _ => .loads ?_
      · exact Pool.isLost_eq_false.mpr ⟨h.ordered.good.tidy.alive hasset, same⟩
      · exact (h.ordered.good.tidy.sound i).not_prepared hloading
  | @seeks i g deadline due serves =>
    obtain ⟨-, -, -, hasset⟩ := Slot.serves_eq_true.mp serves
    cases hsteps with
    | seeks seeks => exact seeks.outcome (h.ordered.good.tidy.alive hasset) serves hrefl

end Keen

end Request

end Montage
