import Montage.Proofs.Pool.Steps

/-!
Requests that compete for slots while nothing is taken out of the pool.

Whoever loads a slot or is served by it keeps it to the end, and a request for an asset of its own
finds no slot bound to it. So a request either binds a slot that is free or waits for the one used
longest ago. When that is handed to it, it lets go of it before it picks again; then whoever is next
in line has the slot, and the request has spent one of its picks.
-/

namespace Montage

/-- Nobody has lost the slot that it loads or is served by. -/
def Account.Steady (c : Account) : Prop :=
  ∀ t i g a, c.stake t = .loading i g a ∨ c.stake t = .serving i g a →
    (c.pool.slot i).generation = g

namespace Account.Steady

variable {c d : Account} {ns : List Note} {q : Pool} {t : TaskId} {s : Stake}

lemma put (h : c.Steady)
    (hq : ∀ u j, u ≠ t → (c.stake u).held? = some j →
      (q.slot j).generation = (c.pool.slot j).generation)
    (hs : ∀ j g a, s = .loading j g a ∨ s = .serving j g a → (q.slot j).generation = g) :
    (c.put q t s).Steady := by
  intro u j g a hu
  simp only [Account.put, Function.update_apply] at hu ⊢
  split at hu
  · exact hs j g a hu
  · next hne =>
    rw [hq u j hne ?_, h u j g a hu]
    rcases hu with hu | hu <;> rw [hu] <;> rfl

lemma congr (h : c.Steady) (hq : ∀ j, (q.slot j).generation = (c.pool.slot j).generation) :
    Steady ⟨q, c.stake⟩ := fun u j g a hu => (hq j).trans (h u j g a hu)

/-- Somebody who holds the lock of a slot, or finds it free, may bind it anew without taking it away
from anybody. -/
lemma move (h : c.Steady) (hc : c.Good) (m : Move c ns d) (hn : ∀ i, .unbound i ∉ ns) :
    d.Steady := by
  have hgen := m.generation
  cases m with
  | still hq => exact h.congr fun j => (Slot.binding_eq_iff.mp (hq.binding j)).2.2.2
  | count | close => exact h.congr fun _ => rfl
  | keep | wait | enter | leave =>
    refine h.put (fun u j _ _ => ?_) (by simp)
    have hj := hgen j
    simpa [Note.rebinds] using hj
  | serve was holds serves =>
    refine h.put (fun _ _ _ _ => rfl) fun j g a hs => ?_
    simp only [reduceCtorEq, Stake.serving.injEq, false_or] at hs
    obtain ⟨rfl, rfl, rfl⟩ := hs
    exact (Slot.serves_eq_true.mp serves).1
  | @take t a i idle alive unbound free lt =>
    refine h.put (fun u j _ hu => ?_) fun j g a hs => ?_
    · simp [hc.ne_of_isFree hu free]
    · simp only [reduceCtorEq, Stake.loading.injEq, or_false] at hs
      obtain ⟨rfl, rfl, rfl⟩ := hs
      simp [lt, Slot.bind]
  | @load t i g a was same =>
    refine h.put (fun u j _ _ => ?_) fun j k b hs => ?_
    · rw [Pool.slot_modifySlot]
      split <;> rfl
    · simp only [reduceCtorEq, Stake.serving.injEq, false_or] at hs
      obtain ⟨rfl, rfl, rfl⟩ := hs
      rw [Pool.slot_modifySlot]
      split <;> exact same
  | @fail t i g a was same holds =>
    refine h.put (fun u j hne hu => ?_) (by simp)
    simp [hc.ne_of_holds hu hne holds]
  | lose => exact h.put (fun _ _ _ _ => rfl) (by simp)
  | unbind => exact absurd (List.mem_singleton.mpr rfl) (hn _)
  | reset =>
    intro u j g a hu
    have hj := c.pool.slot_reset j
    have hlt : ¬j < c.pool.size := fun hlt =>
      hn j (List.mem_map_of_mem (List.mem_range.mpr hlt))
    rw [if_neg hlt] at hj
    exact (congrArg Slot.generation hj).trans (h u j g a hu)

lemma course (h : c.Steady) (hc : c.Good) (k : Course c ns d) (hn : ∀ i, .unbound i ∉ ns) :
    d.Steady := by
  induction k with
  | refl => exact h
  | move k m ih =>
    exact (ih fun i hi => hn i (List.mem_append_left _ hi)).move (k.good hc) m
      fun i hi => hn i (List.mem_append_right _ hi)
  | book _ hq ih => exact (ih hn).congr fun j => (Slot.binding_eq_iff.mp (hq.binding j)).2.2.2

end Account.Steady

namespace Request

/-- Still has to get a slot. -/
def Stage.waits : Stage → Bool
  | unstarted | queued .. => true
  | _ => false

variable {t : TaskId} {r : Request} {p : Pool} {i g due n : Nat} {out : Pool × Stage}

lemma Seeks.binding (h : Seeks r p i g out) (j : Nat) :
    (out.1.slot j).binding = (p.slot j).binding := by
  have hunlock : ∀ q : Pool, ((q.unlock i).slot j).binding = (q.slot j).binding := by
    intro q
    rw [Pool.slot_unlock]
    split <;> rfl
  cases h with
  | waits tame => exact tame.binding j
  | ends tame | lost tame => exact (hunlock _).trans (tame.binding j)

lemma Seeks.ended (h : Seeks r p i g out) (had : p.isLost i g = false) :
    out.2.waits = false ∧ ∀ a, out.2 ≠ .done (.error (.abandoned a)) := by
  cases h with
  | waits => exact ⟨rfl, nofun⟩
  | ends => exact ⟨rfl, nofun⟩
  | lost _ lost => simp [lost] at had

lemma isLost_finishLoad (had : p.isLost i g = false) :
    (p.modifySlot i Slot.finishLoad).isLost i g = false := by
  rw [Pool.isLost_eq_false] at had ⊢
  refine ⟨had.1, ?_⟩
  rw [Pool.slot_modifySlot]
  split <;> exact had.2

lemma Loads.asset (h : Loads r p i g due out) (j : Nat) :
    (out.1.slot j).asset = (p.slot j).asset ∨ (out.1.slot j).asset = none := by
  cases h with
  | waits => exact .inl rfl
  | @lost q tame =>
    refine .inl (Eq.trans ?_ (Slot.binding_eq_iff.mp (tame.binding j)).1)
    rw [Pool.slot_unlock]
    split <;> rfl
  | @fails q _ _ tame =>
    have hq : ((q.unlock i).slot j).asset = (q.slot j).asset := by
      rw [Pool.slot_unlock]
      split <;> rfl
    rw [hq, (Slot.binding_eq_iff.mp (tame.binding j)).1, Pool.slot_unbind]
    split
    · exact .inr rfl
    · exact .inl rfl
  | loads _ _ _ seeks =>
    refine .inl ((Slot.binding_eq_iff.mp (seeks.binding j)).1.trans ?_)
    rw [Pool.slot_modifySlot]
    split <;> rfl

lemma Loads.ended (h : Loads r p i g due out) (had : p.isLost i g = false) :
    out.2.waits = false ∧ ∀ a, out.2 ≠ .done (.error (.abandoned a)) := by
  cases h with
  | waits => exact ⟨rfl, nofun⟩
  | lost _ lost => simp [lost] at had
  | fails => exact ⟨rfl, nofun⟩
  | loads _ had' _ seeks => exact seeks.ended (isLost_finishLoad had')

/-- Picks of a request that may bind any slot, for an asset that no slot is bound to. -/
inductive Competes (t : TaskId) (r : Request) (n : Nat) (p : Pool) (out : Pool × Stage) : Prop
  | binds {i : Nat} {q : Pool} (free : p.isFree i = true) (lt : i < p.size)
      (tame : ((p.rebind t i r.asset.id).modifyElement i fun e => e.beginLoad r.asset.url).Tame q)
      (had : q.isLost i ((p.slot i).generation + 1) = false)
      (loads : Loads r q i ((p.slot i).generation + 1) (p.now + p.backend.loadMs) out)
  | waits {i : Nat} (busy : ∀ j, j < p.size → p.isFree j = false)
      (oldest : (p.byAge []).head? = some i)
      (eq : out = (p.countUse.enqueue i t, .queued i none n))

lemma Runs.competes (h : Runs t r (n + 1) p out) (alive : p.disposed = false)
    (hpinned : r.pinned = []) (hof : p.slotOf? r.asset.id = none) (hpos : 0 < p.size) :
    Competes t r n p out := by
  cases h with
  | refused hd => simp [alive] at hd
  | @binds _ i _ q _ _ _ free lt _ tame loads =>
    refine .binds free lt tame ?_ loads
    rw [tame.isLost, Pool.isLost_eq_false]
    refine ⟨alive, ?_⟩
    rw [Pool.slot_begun, if_pos ⟨rfl, lt⟩]
    rfl
  | serves bound | again bound | joins bound => simp [hof] at bound
  | waits _ _ busy oldest =>
    rw [hpinned] at busy oldest
    exact .waits (fun j hj => busy j hj List.not_mem_nil) oldest rfl
  | exhausted _ hnone =>
    have hmem := hnone 0 hpos
    simp [hpinned] at hmem

end Request

namespace Pool

/-- Nothing is taken out of the pool or loaded in advance, and no slot is pinned. -/
def Event.Plain : Event → Prop
  | request r | call r => r.pinned = []
  | preload .. | release _ | reset | dispose => False
  | resume _ | collect _ | pauseExcept _ | element .. | attend _ | backend _ | schedule _ => True

def Event.asset? : Event → Option AssetId
  | request r | call r => some r.asset.id
  | _ => none

/-- The assets that are asked for. -/
def asked (es : List Event) : List AssetId := es.filterMap Event.asset?

/-- Every request is for an asset of its own. -/
structure Contest (es : List Event) : Prop where
  plain : ∀ e ∈ es, e.Plain
  distinct : (asked es).Nodup

/-- A request as it is during a contest. -/
structure Competitor (assets : List AssetId) (p : Pool) (r : Request) (stage : Request.Stage) :
    Prop where
  pinned : r.pinned = []
  asked : r.asset.id ∈ assets
  unbound : stage.waits = true → ∀ i, (p.slot i).asset ≠ some r.asset.id
  anew : ∀ i k n, stage = .queued i k n → k = none

/-- A pool during a contest. -/
structure Contested (assets : List AssetId) (p : Pool) : Prop where
  ordered : p.Ordered
  alive : p.disposed = false
  pos : 0 < p.size
  steady : p.account.Steady
  known : ∀ i a, (p.slot i).asset = some a → a ∈ assets
  requests : ∀ t w, p.work? t = some w → ∃ r stage, w = .request r stage ∧
    Competitor assets p r stage
  apart : ∀ t u r s r' s', p.work? t = some (.request r s) → p.work? u = some (.request r' s') →
    r.asset.id = r'.asset.id → t = u

variable {p q : Pool} {t : TaskId} {r : Request} {stage : Request.Stage} {as : List AssetId}

lemma Contested.competitor (h : Contested as p) (hw : p.work? t = some (.request r stage)) :
    Competitor as p r stage := by
  obtain ⟨r', stage', hw', hc⟩ := h.requests t _ hw
  cases hw'
  exact hc

lemma Contested.slotOf? (h : Contested as p) (hw : p.work? t = some (.request r stage))
    (hs : stage.waits = true) : p.slotOf? r.asset.id = none := by
  rcases hof : p.slotOf? r.asset.id with _ | i
  · rfl
  · exact absurd (slotOf?_eq_some hof) ((h.competitor hw).unbound hs i)

lemma Contested.had (h : Contested as p) {i g : Nat} {a : AssetId}
    (hs : p.stake t = .loading i g a ∨ p.stake t = .serving i g a) : p.isLost i g = false :=
  isLost_eq_false.mpr ⟨h.alive, h.steady t i g a hs⟩

/-- A step of a request during a contest, by the stage that it was at. -/
inductive Round (t : TaskId) (r : Request) (p : Pool) : Request.Stage → Pool × Request.Stage → Prop
  | refused (empty : r.asset.url.isEmpty = true) :
      Round t r p .unstarted (p, .done (.error (.missingSource r.asset.id)))
  | starts {out : Pool × Request.Stage} (competes : r.Competes t 3 p out) :
      Round t r p .unstarted out
  | stays {i n : Nat} (holds : p.holds i t = false) :
      Round t r p (.queued i none n) (p, .queued i none n)
  | again {i n : Nat} {out : Pool × Request.Stage} (holds : p.holds i t = true)
      (competes : r.Competes t n (p.unlock i) out) : Round t r p (.queued i none (n + 1)) out
  | spent {i : Nat} (holds : p.holds i t = true) :
      Round t r p (.queued i none 0) (p.unlock i, .done (.error (.abandoned r.asset.id)))
  | loads {i g due : Nat} {out : Pool × Request.Stage} (had : p.isLost i g = false)
      (loads : r.Loads p i g due out) : Round t r p (.loading i g due) out
  | seeks {i g deadline : Nat} {due : Option Nat} {out : Pool × Request.Stage}
      (had : p.isLost i g = false) (seeks : r.Seeks p i g out) :
      Round t r p (.seeking i g due deadline) out

/-- **What a step of a request does during a contest.** -/
lemma Contested.round (h : Contested as p) (hw : p.work? t = some (.request r stage))
    (hs : ∀ result, stage ≠ .done result) : Round t r p stage (r.poll t p stage) := by
  have hc := h.competitor hw
  have hstake := stake_of_work? hw
  have hsteps : Request.Steps t r p stage (r.poll t p stage) := .poll h.ordered.good.tidy hs
  obtain ⟨out, hout⟩ : ∃ out, r.poll t p stage = out := ⟨_, rfl⟩
  rw [hout] at hsteps ⊢
  cases hsteps with
  | refused empty => exact .refused empty
  | starts runs => exact .starts (runs.competes h.alive hc.pinned (h.slotOf? hw rfl) h.pos)
  | stays holds =>
    obtain rfl := hc.anew _ _ _ rfl
    exact .stays holds
  | uses holds serves => cases hc.anew _ _ _ rfl
  | @again i n k _ holds runs =>
    obtain rfl := hc.anew _ _ _ rfl
    cases n with
    | zero =>
      cases runs
      exact .spent holds
    | succ n =>
      have hof : (p.unlock i).slotOf? r.asset.id = none := by
        rcases hof : (p.unlock i).slotOf? r.asset.id with _ | j
        · rfl
        · have hj := slotOf?_eq_some hof
          refine absurd ?_ (hc.unbound rfl j)
          rw [← hj, slot_unlock]
          split <;> rfl
      exact .again holds (runs.competes (by simpa using h.alive) hc.pinned hof
        (by simpa using h.pos))
  | loads loads => exact .loads (h.had (.inl hstake)) loads
  | seeks seeks => exact .seeks (h.had (.inr hstake)) seeks

/-- What every step of a contest keeps. -/
structure Moderate (p : Pool) (r : Request) (out : Pool × Request.Stage) : Prop where
  disposed : out.1.disposed = p.disposed
  asset : ∀ j, (out.1.slot j).asset = (p.slot j).asset ∨ (out.1.slot j).asset = none ∨
    (out.1.slot j).asset = some r.asset.id
  waits : out.2.waits = true → ∀ j, (out.1.slot j).binding = (p.slot j).binding
  anew : ∀ i k n, out.2 = .queued i k n → k = none

lemma binding_unlock (p : Pool) (i j : Nat) :
    ((p.unlock i).slot j).binding = (p.slot j).binding := by
  rw [slot_unlock]
  split <;> rfl

lemma Moderate.of_seeks {i g : Nat} {out : Pool × Request.Stage} (h : r.Seeks p i g out)
    (had : p.isLost i g = false) : Moderate p r out where
  disposed := by cases h with
    | waits tame => exact tame.disposed
    | ends tame | lost tame => exact (disposed_unlock _ _).trans tame.disposed
  asset j := .inl (Slot.binding_eq_iff.mp (h.binding j)).1
  waits hw := by simp [(h.ended had).1] at hw
  anew i k n ho := by
    have hw := (h.ended had).1
    simp [ho, Request.Stage.waits] at hw

lemma Moderate.of_loads {i g due : Nat} {out : Pool × Request.Stage} (h : r.Loads p i g due out)
    (had : p.isLost i g = false) : Moderate p r out where
  disposed := by cases h with
    | waits => rfl
    | lost tame => exact (disposed_unlock _ _).trans tame.disposed
    | fails _ tame => exact (disposed_unlock _ _).trans tame.disposed
    | loads _ had' _ seeks => exact (of_seeks seeks (Request.isLost_finishLoad had')).disposed
  asset j := (h.asset j).imp_right .inl
  waits hw := by simp [(h.ended had).1] at hw
  anew i k n ho := by
    have hw := (h.ended had).1
    simp [ho, Request.Stage.waits] at hw

lemma Moderate.of_competes {n : Nat} {out : Pool × Request.Stage} (h : r.Competes t n p out) :
    Moderate p r out := by
  cases h with
  | @binds i q free lt tame had loads =>
    have hout := of_loads loads had
    refine ⟨hout.disposed.trans tame.disposed, fun j => ?_, fun hw => ?_, hout.anew⟩
    · have hq : (q.slot j).asset = (p.slot j).asset ∨ (q.slot j).asset = some r.asset.id := by
        rw [(Slot.binding_eq_iff.mp (tame.binding j)).1, slot_begun]
        split
        · exact .inr rfl
        · exact .inl rfl
      rcases hout.asset j with h | h | h
      · rw [h]
        exact hq.imp_right .inr
      · exact .inr (.inl h)
      · exact .inr (.inr h)
    · simp [(loads.ended had).1] at hw
  | @waits i busy oldest eq =>
    subst eq
    have hb : ∀ j, ((p.countUse.enqueue i t).slot j).binding = (p.slot j).binding := by
      intro j
      rw [slot_enqueue]
      split <;> rfl
    refine ⟨rfl, fun j => .inl (Slot.binding_eq_iff.mp (hb j)).1, fun _ => hb, ?_⟩
    rintro _ _ _ ⟨⟩
    rfl

lemma Moderate.of_round {out : Pool × Request.Stage} (h : Round t r p stage out) :
    Moderate p r out := by
  cases h with
  | refused => exact ⟨rfl, fun _ => .inl rfl, fun _ _ => rfl, nofun⟩
  | starts competes => exact of_competes competes
  | stays =>
    refine ⟨rfl, fun _ => .inl rfl, fun _ _ => rfl, ?_⟩
    rintro _ _ _ ⟨⟩
    rfl
  | @again i n _ _ competes =>
    have hb := p.binding_unlock i
    obtain ⟨hd, ha, hw, hk⟩ := of_competes competes
    refine ⟨hd.trans (disposed_unlock _ _), fun j => ?_, fun h j => (hw h j).trans (hb j), hk⟩
    rw [← (Slot.binding_eq_iff.mp (hb j)).1]
    exact ha j
  | @spent i =>
    have hb := p.binding_unlock i
    exact ⟨disposed_unlock _ _, fun j => .inl (Slot.binding_eq_iff.mp (hb j)).1, fun _ => hb, nofun⟩
  | loads had loads => exact of_loads loads had
  | seeks had seeks => exact of_seeks seeks had

lemma Contested.congr (h : Contested as p) (hq : q.Ordered) (hd : q.disposed = p.disposed)
    (hn : q.size = p.size) (hw : ∀ t, q.work? t = p.work? t)
    (hb : ∀ j, (q.slot j).binding = (p.slot j).binding) : Contested as q := by
  have hasset : ∀ j, (q.slot j).asset = (p.slot j).asset := fun j =>
    (Slot.binding_eq_iff.mp (hb j)).1
  have hstake : q.stake = p.stake := funext fun t => stake_congr (hw t)
  refine ⟨hq, hd.trans h.alive, hn ▸ h.pos, fun t i g a hs => ?_, fun i a ha => ?_,
    fun t w ht => ?_, fun t u r s r' s' ht hu => ?_⟩
  · have hs' : p.stake t = .loading i g a ∨ p.stake t = .serving i g a := hstake ▸ hs
    exact (Slot.binding_eq_iff.mp (hb i)).2.2.2.trans (h.steady t i g a hs')
  · rw [hasset] at ha
    exact h.known i a ha
  · rw [hw] at ht
    obtain ⟨r, stage, rfl, hc⟩ := h.requests t w ht
    refine ⟨r, stage, rfl, hc.pinned, hc.asked, fun hs i => ?_, hc.anew⟩
    rw [hasset]
    exact hc.unbound hs i
  · rw [hw] at ht hu
    exact h.apart t u r s r' s' ht hu

lemma work_poll (hp : p.Ordered) {w : Work} (hw : p.work? t = some w) :
    (w.poll t p).1.work = p.work := by
  obtain ⟨_, hns, -⟩ := Work.moves_poll hp.good (stake_of_work? hw)
  exact hns.frame.1

lemma Ordered.work?_resume_self (hp : p.Ordered) {w : Work} (hw : p.work? t = some w) :
    (p.resume t).work? t = some (w.poll t p).2 :=
  work?_resume hw (work_poll hp hw)

lemma Ordered.work?_resume_other (hp : p.Ordered) {u : TaskId} (hu : u ≠ t) :
    (p.resume t).work? u = p.work? u := by
  rcases hw : p.work? t with _ | w
  · rw [resume_eq_self hw]
  · exact work?_resume_of_ne hw (work_poll hp hw) hu

lemma Contested.moderate (h : Contested as p) (hw : p.work? t = some (.request r stage)) :
    Moderate p r (r.poll t p stage) := by
  by_cases hs : ∃ result, stage = .done result
  · obtain ⟨result, rfl⟩ := hs
    exact ⟨rfl, fun _ => .inl rfl, fun _ _ => rfl, nofun⟩
  · exact .of_round (h.round hw fun result hr => hs ⟨result, hr⟩)

lemma Contested.waited (h : Contested as p) (hw : p.work? t = some (.request r stage))
    (hout : (r.poll t p stage).2.waits = true) : stage.waits = true := by
  by_cases hs : ∃ result, stage = .done result
  · obtain ⟨result, rfl⟩ := hs
    exact hout
  · have hround := h.round hw fun result hr => hs ⟨result, hr⟩
    obtain ⟨out, heq⟩ : ∃ out, r.poll t p stage = out := ⟨_, rfl⟩
    rw [heq] at hround hout
    cases hround with
    | loads had loads => simp [(loads.ended had).1] at hout
    | seeks had seeks => simp [(seeks.ended had).1] at hout
    | _ => rfl

/-- After a turn of one of them, all requests are still as they are during a contest. -/
lemma Contested.requests_resume (h : Contested as p) (hw : p.work? t = some (.request r stage))
    {u : TaskId} {w : Work} (hu : (p.resume t).work? u = some w) :
    ∃ r stage, w = .request r stage ∧ Competitor as (p.resume t) r stage := by
  have hc := h.competitor hw
  have hmod := h.moderate hw
  have hslot : ∀ j, (p.resume t).slot j = (r.poll t p stage).1.slot j := slot_resume hw
  by_cases hut : u = t
  · subst hut
    rw [h.ordered.work?_resume_self hw] at hu
    cases hu
    refine ⟨r, _, rfl, hc.pinned, hc.asked, fun hs i => ?_, hmod.anew⟩
    rw [hslot, (Slot.binding_eq_iff.mp (hmod.waits hs i)).1]
    exact hc.unbound (h.waited hw hs) i
  · rw [h.ordered.work?_resume_other hut] at hu
    obtain ⟨r', s', rfl, hc'⟩ := h.requests u w hu
    refine ⟨r', s', rfl, hc'.pinned, hc'.asked, fun hs i => ?_, hc'.anew⟩
    rw [hslot]
    rcases hmod.asset i with hi | hi | hi
    · rw [hi]
      exact hc'.unbound hs i
    · simp [hi]
    · rw [hi]
      intro heq
      exact hut (h.apart u t r' s' r stage hu hw (Option.some.inj heq).symm)

lemma Contested.work?_of_resume (h : Contested as p) (hw : p.work? t = some (.request r stage))
    {u : TaskId} {r' : Request} {s' : Request.Stage}
    (hu : (p.resume t).work? u = some (.request r' s')) :
    ∃ s, p.work? u = some (.request r' s) := by
  by_cases hut : u = t
  · subst hut
    rw [h.ordered.work?_resume_self hw] at hu
    cases hu
    exact ⟨stage, hw⟩
  · exact ⟨s', h.ordered.work?_resume_other hut ▸ hu⟩

lemma Contested.resume (h : Contested as p) (t : TaskId) : Contested as (p.resume t) := by
  rcases hw : p.work? t with _ | w
  · rwa [resume_eq_self hw]
  obtain ⟨r, stage, rfl, hc⟩ := h.requests t w hw
  obtain ⟨ns, ⟨hcourse, hordered⟩, hleaves⟩ := course_resume h.ordered hw
  have hmod := h.moderate hw
  have hsize : (p.resume t).size = p.size := hcourse.size
  exact {
    ordered := hordered
    alive := by
      rw [resume_eq hw]
      exact hmod.disposed.trans h.alive
    pos := hsize ▸ h.pos
    steady := h.steady.course h.ordered.good hcourse fun i hi => hleaves _ hi
    known := fun i a ha => by
      rw [slot_resume hw] at ha
      rcases hmod.asset i with hi | hi | hi
      · exact h.known i a (hi ▸ ha)
      · cases hi.symm.trans ha
      · cases hi.symm.trans ha
        exact hc.asked
    requests := fun _ _ => h.requests_resume hw
    apart := fun u v _ _ _ _ hu hv ha => by
      obtain ⟨_, hu⟩ := h.work?_of_resume hw hu
      obtain ⟨_, hv⟩ := h.work?_of_resume hw hv
      exact h.apart u v _ _ _ _ hu hv ha }

/-- A request for an asset that was not asked for before. -/
lemma Contested.append (h : Contested as p) (hq : q.Ordered) (hd : q.disposed = p.disposed)
    (hs : q.slots = p.slots) (hw : q.work = p.work ++ [(t, .request r .unstarted)])
    (ht : p.work? t = none) (hpinned : r.pinned = []) (hnew : r.asset.id ∉ as) :
    Contested (as ++ [r.asset.id]) q := by
  have hslot : ∀ i, q.slot i = p.slot i := fun i => by rw [slot, hs, slot]
  have hwork : ∀ u, q.work? u = if u = t then some (.request r .unstarted) else p.work? u := by
    intro u
    rw [work?_append hw]
    split
    · next hu => rw [hu, ht, Option.none_or]
    · exact Option.or_none
  have hstake : q.stake = p.stake := by
    rw [stake_append hw ht]
    exact Function.update_eq_self_iff.mpr (stake_of_none ht).symm
  have hunknown : ∀ i, (p.slot i).asset ≠ some r.asset.id := fun i hi => hnew (h.known i _ hi)
  have hother : ∀ {u r' s'}, p.work? u = some (.request r' s') → r'.asset.id ≠ r.asset.id :=
    fun hu heq => hnew (heq ▸ (h.competitor hu).asked)
  refine ⟨hq, hd.trans h.alive, ?_, fun u i g a hu => ?_, fun i a ha => ?_, fun u w hu => ?_,
    fun u v r₁ s₁ r₂ s₂ hu hv ha => ?_⟩
  · rw [size, hs]
    exact h.pos
  · have hu' : p.stake u = .loading i g a ∨ p.stake u = .serving i g a := hstake ▸ hu
    exact (congrArg Slot.generation (hslot i)).trans (h.steady u i g a hu')
  · rw [hslot] at ha
    exact List.mem_append_left _ (h.known i a ha)
  · rw [hwork] at hu
    split at hu
    · cases hu
      refine ⟨r, _, rfl, hpinned, List.mem_append_right _ (List.mem_singleton_self _),
        fun _ i => ?_, fun _ _ _ h => by cases h⟩
      rw [hslot]
      exact hunknown i
    · obtain ⟨r', s', rfl, hc⟩ := h.requests u w hu
      refine ⟨r', s', rfl, hc.pinned, List.mem_append_left _ hc.asked, fun hs i => ?_, hc.anew⟩
      rw [hslot]
      exact hc.unbound hs i
  · rw [hwork] at hu hv
    split at hu <;> split at hv
    · next h1 h2 => exact h1.trans h2.symm
    · cases hu
      exact absurd ha.symm (hother hv)
    · cases hv
      exact absurd ha (hother hu)
    · exact h.apart u v _ _ _ _ hu hv ha

lemma Contested.mono {bs : List AssetId} (h : Contested as p) (hle : as ⊆ bs) : Contested bs p :=
  ⟨h.ordered, h.alive, h.pos, h.steady, fun i a ha => hle (h.known i a ha), fun t w hw => by
    obtain ⟨r, s, rfl, hc⟩ := h.requests t w hw
    exact ⟨r, s, rfl, hc.pinned, hle hc.asked, hc.unbound, hc.anew⟩, h.apart⟩

lemma Contested.forget (h : Contested as p) (ht : p.isOver t = true) :
    Contested as (p.forget t) := by
  have hsome : ∀ {u w}, (p.forget t).work? u = some w → p.work? u = some w := by
    intro u w hu
    rw [work?_forget] at hu
    split at hu
    · cases hu
    · exact hu
  have hstake : (p.forget t).stake = p.stake := stake_forget (stake_of_isOver ht)
  have hordered : (p.forget t).Ordered := by
    obtain ⟨_, ⟨_, hq⟩, _⟩ := Event.course (.collect t) h.ordered
    rwa [Event.apply, if_pos ht] at hq
  refine ⟨hordered, h.alive, h.pos, fun u i g a hu => ?_, h.known, fun u w hu => ?_,
    fun u v r s r' s' hu hv ha => h.apart u v r s r' s' (hsome hu) (hsome hv) ha⟩
  · have hu' : p.stake u = .loading i g a ∨ p.stake u = .serving i g a := hstake ▸ hu
    exact h.steady u i g a hu'
  · obtain ⟨r, s, rfl, hc⟩ := h.requests u w (hsome hu)
    exact ⟨r, s, rfl, hc.pinned, hc.asked, hc.unbound, hc.anew⟩

/-- **A contest goes on** with every event of it. -/
lemma Contested.event {e : Event} (h : Contested as p) (he : e.Plain)
    (hnew : ∀ a, e.asset? = some a → a ∉ as) : Contested (as ++ e.asset?.toList) (e.apply p) := by
  have hordered : (e.apply p).Ordered := by
    obtain ⟨_, ⟨_, hq⟩, _⟩ := e.course h.ordered
    exact hq
  cases e with
  | request r =>
    exact h.append hordered rfl rfl rfl (h.ordered.work?_eq_none (Nat.lt_succ_self _)) he
      (hnew _ rfl)
  | call r =>
    simp only [Event.apply] at hordered ⊢
    split at hordered <;> split
    · next hnone => exact h.append hordered rfl rfl rfl (by simpa using hnone) he (hnew _ rfl)
    · contradiction
    · contradiction
    · exact h.mono (List.subset_append_left _ _)
  | resume t =>
    rw [show (Event.resume t).asset? = none from rfl, Option.toList_none, List.append_nil]
    exact h.resume t
  | collect t =>
    rw [show (Event.collect t).asset? = none from rfl, Option.toList_none, List.append_nil]
    simp only [Event.apply]
    split
    · next ht => exact h.forget ht
    · exact h
  | pauseExcept active =>
    have hagrees := p.agrees_pauseExcept active
    rw [show (Event.pauseExcept active).asset? = none from rfl, Option.toList_none, List.append_nil]
    exact h.congr hordered hagrees.disposed hagrees.size (fun _ => rfl) hagrees.binding
  | element i f =>
    have hagrees := p.agrees_modifyElement i f
    rw [show (Event.element i f).asset? = none from rfl, Option.toList_none, List.append_nil]
    exact h.congr hordered hagrees.disposed hagrees.size (fun _ => rfl) hagrees.binding
  | attend on => exact (h.congr hordered rfl rfl (fun _ => rfl) fun _ => rfl).mono (by simp)
  | backend b => exact (h.congr hordered rfl rfl (fun _ => rfl) fun _ => rfl).mono (by simp)
  | schedule a => exact (h.congr hordered rfl rfl (fun _ => rfl) fun _ => rfl).mono (by simp)
  | preload | release | reset | dispose => exact he.elim

lemma asked_append (es es' : List Event) : asked (es ++ es') = asked es ++ asked es' :=
  List.filterMap_append

lemma asked_concat (es : List Event) (e : Event) :
    asked (es ++ [e]) = asked es ++ e.asset?.toList := by
  rw [asked_append]
  cases h : e.asset? <;> simp [asked, h]

lemma Contest.of_concat {es : List Event} {e : Event} (h : Contest (es ++ [e])) :
    Contest es ∧ e.Plain ∧ ∀ a, e.asset? = some a → a ∉ asked es := by
  have hd := h.distinct
  rw [asked_concat, List.nodup_append] at hd
  refine ⟨⟨fun e' he' => h.plain e' (List.mem_append_left _ he'), hd.1⟩,
    h.plain e (List.mem_append_right _ (List.mem_singleton_self e)), fun a ha hmem => ?_⟩
  exact hd.2.2 a hmem a (by simp [ha]) rfl

lemma Contest.contested (config : PoolConfig) (backend : Backend) {es : List Event}
    (h : Contest es) : Contested (asked es) ((Pool.new config backend).run es) := by
  induction es using List.reverseRecOn with
  | nil =>
    have hwork : ∀ t, (Pool.new config backend).work? t = none := fun _ => rfl
    have hstake : ∀ t, (Pool.new config backend).account.stake t = .none := fun _ => rfl
    refine ⟨.new config backend, rfl, ?_, fun t i g a hs => ?_, fun i a ha => ?_, fun t w hw => ?_,
      fun t u r s r' s' ht => ?_⟩
    · rw [run_nil, size, Pool.new, List.length_replicate]
      omega
    · simp [hstake] at hs
    · simp at ha
    · simp [hwork] at hw
    · simp [hwork] at ht
  | append_singleton es e ih =>
    obtain ⟨hes, he, hnew⟩ := h.of_concat
    rw [run_concat, asked_concat]
    exact (ih hes).event he hnew

end Pool

end Montage
