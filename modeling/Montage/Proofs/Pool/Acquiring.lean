import Montage.Proofs.Pool.Alone
import Montage.Proofs.Pool.Closing

/-!
A request to a pool that is at rest.

Nobody else is at work, so the request of the main task waits for nothing but its own load and its
own seek, each wait is as long as the next timer, and every wait uses up a timer. So the request
comes to its end, and the pool is at rest again. What it then knows of its slots depends only on
whether the asset was bound, and if not, on whether it can be loaded.
-/

namespace Montage

namespace Agenda

variable {a : Agenda} {due : Nat}

/-- Only the main task has timers, and it is nobody's turn. -/
structure Idle (a : Agenda) : Prop where
  timers : ∀ t ∈ a.timers, t.task = .main
  ready : a.ready = []

/-- The agenda when a timer is due and the main task has had its turn. -/
def later (a : Agenda) (due : Nat) : Agenda :=
  { a with
    now := max a.now due
    fresh := false
    timers := a.timers.filter (due < ·.due)
    ready := [] }

namespace Idle

lemma later (h : a.Idle) (due : Nat) : (a.later due).Idle :=
  ⟨fun t ht => h.timers t (List.mem_of_mem_filter ht), rfl⟩

lemma sleepUntil (h : a.Idle) (due : Nat) : (a.sleepUntil .main due).Idle := by
  unfold Agenda.sleepUntil
  split
  · refine ⟨fun t ht => ?_, h.ready⟩
    rcases List.mem_append.mp ht with ht | ht
    · exact h.timers t ht
    · rw [List.mem_singleton.mp ht]
  · exact h

lemma stopTimers (h : a.Idle) : (a.stopTimers .main).timers = [] := by
  rw [Agenda.stopTimers, List.filter_eq_nil_iff]
  intro t ht
  simp [h.timers t ht]

end Idle

lemma exists_nextDue? {t : Timer} (h : t ∈ a.timers) :
    ∃ due ≤ t.due, a.nextDue? = some due ∧ ∃ t' ∈ a.timers, t'.due = due := by
  have hmem : t.due ∈ a.timers.map (·.due) := List.mem_map_of_mem h
  obtain ⟨due, hdue⟩ : ∃ due, a.nextDue? = some due :=
    Option.isSome_iff_exists.mp (List.isSome_min?_of_mem hmem)
  obtain ⟨hin, hle⟩ := List.min?_eq_some_iff.mp hdue
  obtain ⟨t', ht', hd⟩ := List.mem_map.mp hin
  exact ⟨due, hle _ hmem, hdue, t', ht', hd⟩

lemma foldl_wake {ts : List Timer} (hts : ∀ t ∈ ts, t.task = .main) (hready : a.ready = [.main]) :
    ts.foldl (fun a t => a.wake t.task) a = a := by
  induction ts with
  | nil => rfl
  | cons t ts ih =>
    have hwake : a.wake t.task = a := by simp [wake, hready, hts t]
    rw [List.foldl_cons, hwake]
    exact ih fun t ht => hts t (List.mem_cons_of_mem _ ht)

/-- When the next timer is due the main task is ready, and it has the turn. -/
lemma Idle.advance (h : a.Idle) {t : Timer} (ht : t ∈ a.timers) (hdue : a.nextDue? = some t.due) :
    ∃ b, a.advance? = some b ∧ a.next? = none ∧ b.next? = some (.main, a.later t.due) := by
  have hmem : t ∈ a.timers.filter (·.due ≤ t.due) := by simp [ht]
  obtain ⟨t', ts, hts⟩ := List.exists_cons_of_ne_nil (List.ne_nil_of_mem hmem)
  have hmain : ∀ u ∈ t' :: ts, u.task = .main := fun u hu =>
    h.timers u (List.mem_of_mem_filter (hts ▸ hu))
  refine ⟨{ a.later t.due with fresh := true, ready := [.main] }, ?_, ?_, ?_⟩
  · have hwake : ({ a with
        now := max a.now t.due
        fresh := true
        timers := a.timers.filter (t.due < ·.due) } : Agenda).wake t'.task =
        { a.later t.due with fresh := true, ready := [.main] } := by
      simp [wake, Agenda.later, h.ready, hmain t' List.mem_cons_self]
    rw [advance?, hdue]
    dsimp only
    have hrest : ∀ u ∈ ts, u.task = .main := fun u hu => hmain u (List.mem_cons_of_mem _ hu)
    rw [hts, List.foldl_cons, hwake, foldl_wake hrest rfl]
  · simp [next?, h.ready]
  · simp [next?, Agenda.later, unready]

lemma length_later {t : Timer} (ht : t ∈ a.timers) :
    (a.later t.due).timers.length < a.timers.length := by
  have hnot : ¬decide (t.due < t.due) = true := by simp
  exact List.length_filter_lt_length_iff_exists.mpr ⟨t, ht, hnot⟩

end Agenda

namespace Pool

variable {p q q' : Pool} {r : Request} {i g : Nat}

/-- The pools differ in what has to do with time, in locks and in what elements do. -/
structure Even (p q : Pool) : Prop where
  size : q.size = p.size
  clock : q.clock = p.clock
  disposed : q.disposed = p.disposed
  record : ∀ i, (q.slot i).record = (p.slot i).record
  loads : q.backend.loads = p.backend.loads
  failing : q.backend.failing = p.backend.failing

namespace Even

lemma trans (h : p.Even q) (k : q.Even q') : p.Even q' where
  size := k.size.trans h.size
  clock := k.clock.trans h.clock
  disposed := k.disposed.trans h.disposed
  record i := (k.record i).trans (h.record i)
  loads := k.loads.trans h.loads
  failing := k.failing.trans h.failing

lemma of_agrees (h : p.Agrees q) (hl : q.backend.loads = p.backend.loads)
    (hf : q.backend.failing = p.backend.failing) : p.Even q :=
  ⟨h.size, h.clock, h.disposed, h.record, hl, hf⟩

lemma of_slots (hs : q.slots = p.slots) (hc : q.clock = p.clock) (hd : q.disposed = p.disposed)
    (hb : q.backend.loads = p.backend.loads ∧ q.backend.failing = p.backend.failing) :
    p.Even q where
  size := congrArg List.length hs
  clock := hc
  disposed := hd
  record i := by rw [slot, hs]; rfl
  loads := hb.1
  failing := hb.2

lemma modifyElement (p : Pool) (i : Nat) (f : Element → Element) : p.Even (p.modifyElement i f) :=
  .of_agrees (p.agrees_modifyElement i f) rfl rfl

lemma lock (p : Pool) (i : Nat) (t : TaskId) : p.Even (p.lock i t) where
  size := size_modifySlot _ _ _
  clock := rfl
  disposed := rfl
  record j := by
    rw [slot_lock]
    split <;> rfl
  loads := rfl
  failing := rfl

lemma unlock (p : Pool) (i : Nat) : p.Even (p.unlock i) where
  size := size_unlock _ _
  clock := clock_unlock _ _
  disposed := disposed_unlock _ _
  record j := (record_unlock p i j).1
  loads := by rw [backend_unlock]
  failing := by rw [backend_unlock]

lemma isLost (h : p.Even q) (i g : Nat) : q.isLost i g = p.isLost i g := by
  rw [Pool.isLost, Pool.isLost, h.disposed, (Slot.record_eq_iff.mp (h.record i)).2.2.2.2]

lemma modifySlot {f f' : Slot → Slot} (h : p.Even q)
    (hf : ∀ s s' : Slot, s'.record = s.record → (f' s').record = (f s).record) (i : Nat) :
    (p.modifySlot i f).Even (q.modifySlot i f') where
  size := by rw [size_modifySlot, size_modifySlot, h.size]
  clock := h.clock
  disposed := h.disposed
  record j := by
    rw [slot_modifySlot, slot_modifySlot, h.size]
    split
    · exact hf _ _ (h.record j)
    · exact h.record j
  loads := h.loads
  failing := h.failing

lemma unbind (h : p.Even q) (i : Nat) : (p.unbind i).Even (q.unbind i) :=
  h.modifySlot (fun s s' hs => by
    have hg := (Slot.record_eq_iff.mp hs).2.2.2.2
    simp [Slot.unbind, Slot.record, hg]) i

lemma finishLoad (h : p.Even q) (i : Nat) :
    (p.modifySlot i Slot.finishLoad).Even (q.modifySlot i Slot.finishLoad) :=
  h.modifySlot (fun s s' hs => by
    obtain ⟨ha, -, -, hu, hg⟩ := Slot.record_eq_iff.mp hs
    simp [Slot.finishLoad, Slot.record, ha, hu, hg]) i

end Even

lemma agenda_unlock (h : (p.slot i).lock.waiting = []) : (p.unlock i).agenda = p.agenda := by
  simp only [unlock, Lock.release, h]
  rfl

/-- No request and no load is under way, and nothing is waited for. -/
structure AtRest (p : Pool) : Prop where
  ordered : p.Ordered
  alive : p.disposed = false
  work : p.work = []
  timers : p.agenda.timers = []
  ready : p.agenda.ready = []

/-- The main task has a request that stands at a stage, and nobody else is at work. -/
structure Solo (p : Pool) (r : Request) (stage : Request.Stage) : Prop where
  alone : p.Alone
  alive : p.disposed = false
  work : p.work = [(.main, .request r stage)]
  agenda : p.agenda.Idle

end Pool

namespace Request

open Pool (Even)

variable {r : Request} {p q : Pool} {i g n : Nat} {out : Pool × Stage}

/-- The request has come to its end, and nothing is waited for. -/
inductive Ends (p : Pool) (result : Except MediaError Handle) : Pool × Stage → Prop
  | intro {q : Pool} (even : p.Even q) (timers : q.agenda.timers = [])
      (ready : q.agenda.ready = []) : Ends p result (q, .done result)

/-- What comes of bringing an element to a time: it is there, or a seek is waited for, with a timer
for its deadline and `n` timers at most. -/
inductive Reaches (r : Request) (p : Pool) (i g n : Nat) : Pool × Stage → Prop
  | ends {out : Pool × Stage} {stale : Bool} (ends : Ends p (.ok ⟨r.asset.id, i, stale⟩) out) :
      Reaches r p i g n out
  | waits {q : Pool} {due : Option Nat} {deadline : Nat} (even : p.Even q) (idle : q.agenda.Idle)
      (pending : ⟨deadline, .main⟩ ∈ q.agenda.timers) (few : q.agenda.timers.length ≤ n) :
      Reaches r p i g n (q, .seeking i g due deadline)

/-- What comes of a load that nobody disturbs. -/
inductive Brings (r : Request) (p : Pool) (i g due : Nat) : Pool × Stage → Prop
  | waits (early : p.now < due) : Brings r p i g due (p, .loading i g due)
  | fails {out : Pool × Stage} {reason : String} (ended : due ≤ p.now)
      (bad : p.backend.refuses r.asset.url = true)
      (ends : Ends (p.unbind i) (.error (.loadFailed r.asset.url reason)) out) :
      Brings r p i g due out
  | loads {out : Pool × Stage} (ended : due ≤ p.now)
      (good : p.backend.refuses r.asset.url = false)
      (reaches : Reaches r (p.modifySlot i Slot.finishLoad) i g 2 out) : Brings r p i g due out

lemma Ends.of_even {result : Except MediaError Handle} (h : Ends q result out) (even : p.Even q) :
    Ends p result out := by
  cases h with
  | intro k timers ready => exact .intro (even.trans k) timers ready

lemma Reaches.of_even (h : Reaches r q i g n out) (even : p.Even q) : Reaches r p i g n out := by
  cases h with
  | ends ends => exact .ends (ends.of_even even)
  | waits k idle pending few => exact .waits (even.trans k) idle pending few

lemma ends_finish (waiting : (p.slot i).lock.waiting = []) (idle : p.agenda.Idle)
    (result : Except MediaError Handle) : Ends p result (finish .main p i result) := by
  have hagenda : (({ p with agenda := p.agenda.stopTimers .main } : Pool).unlock i).agenda =
      p.agenda.stopTimers .main := Pool.agenda_unlock waiting
  have hstopped : p.Even { p with agenda := p.agenda.stopTimers .main } :=
    .of_slots rfl rfl rfl ⟨rfl, rfl⟩
  refine .intro (hstopped.trans (.unlock _ i)) ?_ ?_
  · rw [hagenda]
    exact idle.stopTimers
  · rw [hagenda]
    exact idle.ready

lemma ends_finishSeek (waiting : (p.slot i).lock.waiting = []) (idle : p.agenda.Idle)
    (had : p.isLost i g = false) (stale : Bool) :
    Ends p (.ok ⟨r.asset.id, i, stale⟩) (finishSeek .main r p i g stale) := by
  rw [finishSeek, had]
  exact ends_finish waiting idle _

lemma reaches_pollSeek {d : Nat} (waiting : (p.slot i).lock.waiting = [])
    (idle : p.agenda.Idle) (had : p.isLost i g = false) (due : Option Nat)
    (pending : p.now < d → ⟨d, .main⟩ ∈ p.agenda.timers) (few : p.agenda.timers.length ≤ n) :
    Reaches r p i g n (pollSeek .main r p i g due d) := by
  unfold pollSeek
  dsimp only
  split
  · have heven := Even.modifyElement p i fun e => e.finishSeek p.now r.seekTarget
    have hlock := (p.agrees_modifyElement i fun e => e.finishSeek p.now r.seekTarget).lock i
    have hwaiting := (congrArg Lock.waiting hlock).trans waiting
    have hends := ends_finishSeek (r := r) hwaiting idle ((heven.isLost i g).trans had) false
    exact .ends (hends.of_even heven)
  · split
    · exact .ends (ends_finishSeek waiting idle had _)
    · next hlate =>
      have heven : p.Even p := .of_slots rfl rfl rfl ⟨rfl, rfl⟩
      exact .waits heven idle (pending (Nat.lt_of_not_le hlate)) few

lemma reaches_moveToTarget (waiting : (p.slot i).lock.waiting = []) (idle : p.agenda.Idle)
    (had : p.isLost i g = false) (timers : p.agenda.timers = []) :
    Reaches r p i g 2 (moveToTarget .main r p i g) := by
  unfold moveToTarget
  dsimp only
  split
  · exact .ends (ends_finish waiting idle _)
  · refine (reaches_pollSeek ?_ ?_ ?_ _ ?_ ?_).of_even (.of_slots rfl rfl rfl ⟨rfl, rfl⟩)
    · exact waiting
    · exact (idle.sleepUntil _).sleepUntil _
    · exact had
    · intro hlt
      simp only [Pool.now, Pool.now_sleepUntil] at hlt
      have hbooked : ∀ a : Agenda, a.now = p.agenda.now →
          ⟨p.agenda.now + p.config.seekTimeoutMs.toNat, .main⟩ ∈
            (a.sleepUntil .main (p.agenda.now + p.config.seekTimeoutMs.toNat)).timers := by
        intro a ha
        rw [Agenda.sleepUntil, ha, if_pos hlt]
        simp
      exact hbooked _ (Pool.now_sleepUntil _ _ _)
    · have hbook : ∀ (a : Agenda) due, (a.sleepUntil .main due).timers.length ≤
          a.timers.length + 1 := by
        intro a due
        unfold Agenda.sleepUntil
        split <;> simp
      have hfirst := hbook p.agenda (p.now + p.backend.seekMs)
      rw [timers] at hfirst
      exact Nat.le_trans (hbook _ _) (Nat.succ_le_succ hfirst)

lemma brings_pollLoad {d : Nat} (waiting : (p.slot i).lock.waiting = []) (idle : p.agenda.Idle)
    (had : p.isLost i g = false) (source : (p.element i).source = some r.asset.url)
    (timers : d ≤ p.now → p.agenda.timers = []) :
    Brings r p i g d (pollLoad .main r p i g d) := by
  have hsame : ∀ {f : Slot → Slot}, (∀ s, (f s).lock = s.lock) →
      ((p.modifySlot i f).slot i).lock.waiting = [] := by
    intro f hf
    rw [Pool.slot_modifySlot]
    split
    · rw [hf]
      exact waiting
    · exact waiting
  unfold pollLoad
  split
  · next ended =>
    rcases loadResult_cases (p.element i) p.backend r.asset.url with
      ⟨hres, -, good⟩ | ⟨reason, hres, bad⟩
    · have hfinish : p.finishLoad i g r.asset.id r.asset.url =
          (p.modifySlot i Slot.finishLoad, .ok ()) := by
        simp [Pool.finishLoad, had, hres]
      rw [hfinish]
      refine .loads ended good (reaches_moveToTarget (hsame fun _ => rfl) idle ?_ (timers ended))
      rw [Pool.isLost_eq_false] at had ⊢
      refine ⟨had.1, ?_⟩
      rw [Pool.slot_modifySlot]
      split <;> exact had.2
    · have hfinish : p.finishLoad i g r.asset.id r.asset.url =
          (p.unbind i, .error (.loadFailed r.asset.url reason)) := by
        simp [Pool.finishLoad, had, hres]
      rw [hfinish]
      have hwaiting : ((p.unbind i).slot i).lock.waiting = [] := hsame fun _ => rfl
      exact .fails ended (bad source) (ends_finish hwaiting idle _)
  · next early => exact .waits (Nat.lt_of_not_le early)

end Request

namespace Pool

open Request (Ends Reaches Brings)

variable {p q q' : Pool} {r : Request} {i g n : Nat} {stage : Request.Stage}

namespace Solo

lemma work? (h : p.Solo r stage) : p.work? .main = some (.request r stage) := by
  simp [Pool.work?, h.work]

lemma result? (h : p.Solo r stage) : p.result? .main =
    match stage with
    | .done result => some result
    | _ => none := by
  rw [Pool.result?, h.work?]
  cases stage <;> rfl

lemma later (h : p.Solo r stage) (due : Nat) :
    ({ p with agenda := p.agenda.later due } : Pool).Solo r stage where
  alone := by
    have hevent : (Event.schedule (p.agenda.later due)).apply p =
        { p with agenda := p.agenda.later due } := by
      rw [Event.apply, Agenda.later, Nat.max_self]
    exact hevent ▸ h.alone.apply (.schedule (p.agenda.later due)) h.alone.main h.alone.others
  alive := h.alive
  work := h.work
  agenda := h.agenda.later due

lemma resume_eq (h : p.Solo r stage) : p.resume .main =
    { (r.poll .main p stage).1 with
      work := [(.main, .request r (r.poll .main p stage).2)] } := by
  obtain ⟨_, hns, -⟩ := Work.moves_poll h.alone.ordered.good (stake_of_work? h.work?)
  have hwork : (r.poll .main p stage).1.work = p.work := hns.frame.1
  rw [Pool.resume_eq h.work?]
  simp [Work.poll, setWork, hwork, h.work]

lemma resume {out : Pool × Request.Stage} (h : p.Solo r stage) (hout : r.poll .main p stage = out)
    (alive : out.1.disposed = false) (agenda : out.1.agenda.Idle) :
    (p.resume .main).Solo r out.2 where
  alone := h.alone.resume h.work?
  alive := by rw [h.resume_eq, hout]; exact alive
  work := by rw [h.resume_eq, hout]
  agenda := by rw [h.resume_eq, hout]; exact agenda

/-- Two steps are a wait: time passes up to the next timer, and the main task has its turn. -/
lemma runFor (h : p.Solo r stage) (hstage : ∀ result, stage ≠ .done result) {t : Timer}
    (ht : t ∈ p.agenda.timers) (hdue : p.agenda.nextDue? = some t.due) (fuel : Nat) :
    machine.runFor (isOver .main) (fuel + 2) p = machine.runFor (isOver .main) fuel
      (({ p with agenda := p.agenda.later t.due } : Pool).resume .main) := by
  obtain ⟨b, hb, hnow, hnext⟩ := h.agenda.advance ht hdue
  have hopen : isOver .main p = false := by
    rw [isOver, h.result?]
    cases stage with
    | done result => exact absurd rfl (hstage result)
    | _ => rfl
  have hopen' : isOver .main ({ p with agenda := b } : Pool) = false := hopen
  have hfirst : machine.step? p = some { p with agenda := b } := by
    have hnone : machine.runNext? p = none := by
      rw [Machine.runNext?, show (machine.agenda p).next? = none from hnow]
      rfl
    rw [Machine.step?, hnone]
    dsimp only
    rw [show (machine.agenda p).advance? = some b from hb]
    rfl
  have hsecond : machine.step? { p with agenda := b } =
      some (({ p with agenda := p.agenda.later t.due } : Pool).resume .main) := by
    have hsome : machine.runNext? { p with agenda := b } =
        some (({ p with agenda := p.agenda.later t.due } : Pool).resume .main) := by
      rw [Machine.runNext?, show (machine.agenda { p with agenda := b }).next? =
        some (.main, p.agenda.later t.due) from hnext]
      rfl
    rw [Machine.step?, hsome]
  rw [Machine.runFor, hopen, if_neg Bool.false_ne_true, hfirst]
  dsimp only
  rw [Machine.runFor, hopen', if_neg Bool.false_ne_true, hsecond]

lemma waiting (h : p.Solo r stage) (hi : (stage.stake r).held? = some i) :
    (p.slot i).lock.waiting = [] :=
  h.alone.waiting_eq_nil (h.alone.ordered.holder_of_work? h.work? hi)

end Solo

/-- The request is over with a result, and apart from that the pool is as it is to be. -/
structure Over (p : Pool) (r : Request) (result : Except MediaError Handle) (q : Pool) : Prop where
  solo : q.Solo r (.done result)
  timers : q.agenda.timers = []
  even : p.Even q

lemma Over.runFor {result : Except MediaError Handle} (h : p.Over r result q) (fuel : Nat) :
    machine.runFor (isOver .main) fuel q = q := by
  refine machine.runFor_of_stop ?_ fuel
  rw [isOver, h.solo.result?]
  rfl

/-- What a load has come to in the end. -/
inductive Loaded (r : Request) (p : Pool) (i : Nat) (q : Pool) : Prop
  | fails {reason : String} (bad : p.backend.refuses r.asset.url = true)
      (ended : (p.unbind i).Over r (.error (.loadFailed r.asset.url reason)) q)
  | loads {stale : Bool} (good : p.backend.refuses r.asset.url = false)
      (ended : (p.modifySlot i Slot.finishLoad).Over r (.ok ⟨r.asset.id, i, stale⟩) q)

lemma Over.of_even {result : Except MediaError Handle} (h : q.Over r result q') (even : p.Even q) :
    p.Over r result q' :=
  ⟨h.solo, h.timers, even.trans h.even⟩

lemma Loaded.of_even (h : Loaded r q i q') (even : p.Even q) : Loaded r p i q' := by
  have hrefuses : p.backend.refuses r.asset.url = q.backend.refuses r.asset.url := by
    rw [Backend.refuses, Backend.refuses, even.failing]
  cases h with
  | fails bad ended => exact .fails (hrefuses.trans bad) (ended.of_even (even.unbind i))
  | loads good ended => exact .loads (hrefuses.trans good) (ended.of_even (even.finishLoad i))

namespace Solo

lemma over_of_ends {result : Except MediaError Handle} (h : p.Solo r stage)
    (alive : q.disposed = false) (hout : Ends q result (r.poll .main p stage)) : q.Over r result (p.resume .main) := by
  obtain ⟨out, heq⟩ : ∃ out, r.poll .main p stage = out := ⟨_, rfl⟩
  rw [heq] at hout
  cases hout with
  | @intro q' even timers ready =>
    have hidle : q'.agenda.Idle := ⟨fun t ht => by simp [timers] at ht, ready⟩
    refine ⟨h.resume heq (even.disposed.trans alive) hidle, ?_, ?_⟩
    · rw [h.resume_eq, heq]
      exact timers
    · rw [h.resume_eq, heq]
      exact even.trans (.of_slots rfl rfl rfl ⟨rfl, rfl⟩)

/-- **A seek comes to its end**: each wait uses up a timer, and as long as the seek goes on there is
the timer of its deadline. -/
lemma reaches (h : p.Solo r stage) (had : q.isLost i g = false)
    (hout : Reaches r q i g n (r.poll .main p stage)) {fuel : Nat} (enough : 2 * n ≤ fuel) :
    ∃ stale, q.Over r (.ok ⟨r.asset.id, i, stale⟩)
      (machine.runFor (isOver .main) fuel (p.resume .main)) := by
  have alive := (isLost_eq_false.mp had).1
  induction n using Nat.strongRecOn generalizing p stage fuel with
  | ind n ih =>
    obtain ⟨out, heq⟩ : ∃ out, r.poll .main p stage = out := ⟨_, rfl⟩
    rw [heq] at hout
    cases hout with
    | @ends _ stale ends =>
      have hover := h.over_of_ends alive (heq ▸ ends)
      exact ⟨stale, by rwa [hover.runFor]⟩
    | @waits q' due deadline even idle pending few =>
      have hsolo := h.resume heq (even.disposed.trans alive) idle
      have hresume := h.resume_eq
      rw [heq] at hresume
      have heven : q.Even (p.resume .main) := by
        rw [hresume]
        exact even.trans (.of_slots rfl rfl rfl ⟨rfl, rfl⟩)
      have hagenda : (p.resume .main).agenda = q'.agenda := by rw [hresume]
      rw [← hagenda] at pending few
      obtain ⟨d, hle, hdue, t, ht, rfl⟩ := Agenda.exists_nextDue? pending
      have hfewer := Agenda.length_later ht
      obtain ⟨fuel, rfl⟩ : ∃ k, fuel = k + 2 := ⟨fuel - 2, by omega⟩
      rw [hsolo.runFor (by simp) ht hdue]
      have hlater := hsolo.later t.due
      refine ih (n - 1) (by omega) hlater ?_ (by omega)
      have hpoll := Request.reaches_pollSeek (r := r) (n := n - 1) (d := deadline)
        (hlater.waiting rfl) hlater.agenda ((heven.isLost i g).trans had) due (fun hlt => ?_)
        (Nat.le_pred_of_lt (Nat.lt_of_lt_of_le hfewer few))
      · exact hpoll.of_even (heven.trans (.of_slots rfl rfl rfl ⟨rfl, rfl⟩))
      · have hdeadline : t.due < deadline := Nat.lt_of_le_of_lt (Nat.le_max_right _ _) hlt
        exact List.mem_filter.mpr ⟨pending, by simpa using hdeadline⟩

lemma brings_ended {due : Nat} (h : p.Solo r stage) (had : q.isLost i g = false)
    (ended : due ≤ q.now) (hout : Brings r q i g due (r.poll .main p stage)) {fuel : Nat}
    (enough : 4 ≤ fuel) :
    Loaded r q i (machine.runFor (isOver .main) fuel (p.resume .main)) := by
  obtain ⟨out, heq⟩ : ∃ out, r.poll .main p stage = out := ⟨_, rfl⟩
  rw [heq] at hout
  cases hout with
  | waits early => exact absurd ended (Nat.not_le.mpr early)
  | fails _ bad ends =>
    have hover := h.over_of_ends (q := q.unbind i) (isLost_eq_false.mp had).1 (heq ▸ ends)
    exact .fails bad (by rwa [hover.runFor])
  | loads _ good reaches =>
    have had' : (q.modifySlot i Slot.finishLoad).isLost i g = false := by
      rw [isLost_eq_false] at had ⊢
      refine ⟨had.1, ?_⟩
      rw [slot_modifySlot]
      split <;> exact had.2
    obtain ⟨stale, hover⟩ := h.reaches had' (heq ▸ reaches) enough
    exact .loads good hover

/-- **A load comes to its end**, and what is loaded is brought to its time. -/
lemma brings {due : Nat} (h : p.Solo r stage) (had : q.isLost i g = false)
    (source : (q.element i).source = some r.asset.url)
    (idle : q.agenda.Idle) (timers : q.now < due → q.agenda.timers = [⟨due, .main⟩])
    (hout : Brings r q i g due (r.poll .main p stage)) {fuel : Nat} (enough : 6 ≤ fuel) :
    Loaded r q i (machine.runFor (isOver .main) fuel (p.resume .main)) := by
  obtain ⟨out, heq⟩ : ∃ out, r.poll .main p stage = out := ⟨_, rfl⟩
  have hcases := hout
  rw [heq] at hcases
  cases hcases with
  | fails ended | loads ended =>
    exact h.brings_ended had ended hout (Nat.le_trans (by decide) enough)
  | waits early =>
    have hsolo := h.resume heq (isLost_eq_false.mp had).1 idle
    have hresume := h.resume_eq
    rw [heq] at hresume
    have htimers : (p.resume .main).agenda.timers = [⟨due, .main⟩] := by
      rw [hresume]
      exact timers early
    have hdue : (p.resume .main).agenda.nextDue? = some due := by
      rw [Agenda.nextDue?, htimers]
      rfl
    obtain ⟨fuel, rfl⟩ : ∃ k, fuel = k + 2 := ⟨fuel - 2, by omega⟩
    rw [hsolo.runFor (t := ⟨due, .main⟩) (by simp) (by simp [htimers]) hdue]
    have hlater := hsolo.later due
    have heven : q.Even { p.resume .main with agenda := (p.resume .main).agenda.later due } := by
      rw [hresume]
      exact .of_slots rfl rfl rfl ⟨rfl, rfl⟩
    have hpoll := Request.brings_pollLoad (r := r) (d := due) (hlater.waiting rfl) hlater.agenda
      ((heven.isLost i g).trans had) (by rw [hresume]; exact source)
      fun _ => by simp [Agenda.later, htimers]
    have hloaded := hlater.brings_ended ((heven.isLost i g).trans had) (Nat.le_max_right _ _)
      hpoll (show 4 ≤ fuel by omega)
    exact hloaded.of_even heven

end Solo

namespace AtRest

lemma alone (h : p.AtRest) : p.Alone := by
  have hwork : ∀ t, p.work? t = none := fun t => by simp [work?, h.work]
  refine ⟨h.ordered, fun t i g a hs => ?_, fun w stage => by simp [hwork],
    fun t _ r stage => by simp [hwork]⟩
  rw [show p.account.stake t = .none from stake_of_none (hwork t)] at hs
  cases hs

lemma isFree (h : p.AtRest) (i : Nat) : p.isFree i = true := by
  rw [isFree_iff]
  rcases hholder : (p.slot i).lock.holder with _ | t
  · rfl
  · have hmem : t ∈ (p.slot i).lock.tasks := by simp [Lock.tasks, hholder]
    have hstake : (p.account.stake t).lock? = some i := h.ordered.good.fair.mem.mp hmem
    rw [show p.account.stake t = .none from
      stake_of_none (by simp [work?, h.work])] at hstake
    cases hstake

lemma waiting (h : p.AtRest) (i : Nat) : (p.slot i).lock.waiting = [] :=
  h.ordered.good.fair.idle (isFree_iff.mp (h.isFree i))

lemma serves {a : AssetId} (h : p.AtRest) (hi : (p.slot i).asset = some a) :
    (p.slot i).serves a (p.slot i).generation = true := by
  have hbound : (p.slot i).asset ≠ none := by simp [hi]
  have hprepared := h.alone.prepared_of_isFree (h.isFree i) hbound
  have hflags : (p.slot i).loading = !(p.slot i).prepared :=
    (h.ordered.good.tidy.sound i).flags_of_bound hbound
  rw [Slot.serves_eq_true]
  exact ⟨rfl, hprepared, by rw [hflags, hprepared]; rfl, hi⟩

lemma take (h : p.AtRest) (r : Request) : (p.take .main r).Solo r .unstarted where
  alone := (h.alone.take (by simp [work?, h.work]) r).1
  alive := h.alive
  work := by simp [Pool.take, h.work]
  agenda := ⟨fun t ht => by simp [Pool.take, h.timers] at ht, h.ready⟩

lemma reset (h : p.AtRest) : p.reset.AtRest :=
  ⟨h.ordered.reset.2, h.alive, h.work, h.timers, h.ready⟩

lemma unbind (h : p.AtRest) (hlt : i < p.size) : (p.unbind i).AtRest :=
  ⟨(h.ordered.unbind hlt).2, h.alive, h.work, h.timers, h.ready⟩

lemma release (h : p.AtRest) (a : AssetId) : (p.release a).2.AtRest := by
  unfold Pool.release
  split
  · next i hi => exact h.unbind (p.lt_size_of_asset (slotOf?_eq_some hi))
  · exact h

end AtRest

lemma Over.forget {result : Except MediaError Handle} (h : p.Over r result q) :
    (q.forget .main).AtRest ∧ p.Even (q.forget .main) ∧ q.result? .main = some result := by
  have hresult : q.result? .main = some result := h.solo.result?
  refine ⟨⟨(h.solo.alone.forget (by simp [hresult])).1.ordered, h.solo.alive, ?_, h.timers,
    h.solo.agenda.ready⟩, h.even.trans (.of_slots rfl rfl rfl ⟨rfl, rfl⟩), hresult⟩
  simp [Pool.forget, h.solo.work]

/-- A load is counted. -/
def countLoad (p : Pool) : Pool :=
  { p with backend := { p.backend with loads := p.backend.loads + 1 } }

/-- What comes of a request to a pool that is at rest. -/
inductive Acquires (p : Pool) (r : Request) : Pool × Option (Except MediaError Handle) → Prop
  | hits {q : Pool} {i : Nat} {stale : Bool} (bound : (p.slot i).asset = some r.asset.id)
      (rest : q.AtRest) (even : (p.touch i).Even q) :
      Acquires p r (q, some (.ok ⟨r.asset.id, i, stale⟩))
  | loads {q : Pool} {i : Nat} {stale : Bool} (unbound : ∀ j, (p.slot j).asset ≠ some r.asset.id)
      (lt : i < p.size) (oldest : ∀ j < p.size, (p.slot i).lastUsed ≤ (p.slot j).lastUsed)
      (good : p.backend.refuses r.asset.url = false) (rest : q.AtRest)
      (even : ((p.rebind .main i r.asset.id).modifySlot i Slot.finishLoad).countLoad.Even q) :
      Acquires p r (q, some (.ok ⟨r.asset.id, i, stale⟩))
  | fails {q : Pool} {i : Nat} {reason : String}
      (unbound : ∀ j, (p.slot j).asset ≠ some r.asset.id)
      (lt : i < p.size) (oldest : ∀ j < p.size, (p.slot i).lastUsed ≤ (p.slot j).lastUsed)
      (bad : p.backend.refuses r.asset.url = true) (rest : q.AtRest)
      (even : ((p.rebind .main i r.asset.id).unbind i).countLoad.Even q) :
      Acquires p r (q, some (.error (.loadFailed r.asset.url reason)))

/-- What comes of the first turn of a request to a pool that is at rest. -/
inductive Begins (p : Pool) (r : Request) : Pool × Request.Stage → Prop
  | finds {i g : Nat} {out : Pool × Request.Stage} (bound : (p.slot i).asset = some r.asset.id)
      (had : (p.touch i).isLost i g = false) (reaches : Reaches r (p.touch i) i g 2 out) :
      Begins p r out
  | binds {q : Pool} {i g d : Nat} {out : Pool × Request.Stage}
      (unbound : ∀ j, (p.slot j).asset ≠ some r.asset.id) (lt : i < p.size)
      (oldest : ∀ j < p.size, (p.slot i).lastUsed ≤ (p.slot j).lastUsed)
      (even : (p.rebind .main i r.asset.id).countLoad.Even q) (had : q.isLost i g = false)
      (source : (q.element i).source = some r.asset.url) (idle : q.agenda.Idle)
      (timers : q.now < d → q.agenda.timers = [⟨d, .main⟩]) (brings : Brings r q i g d out) :
      Begins p r out

/-- The pool after a slot was bound for the request of the main task, and its load has begun. -/
def bindFor (p : Pool) (r : Request) (i : Nat) : Pool :=
  { (p.rebind .main i r.asset.id).beginLoad i r.asset.url with
    agenda := p.agenda.sleepUntil .main (p.now + p.backend.loadMs) }

lemma even_bindFor (p : Pool) (r : Request) (i : Nat) :
    (p.rebind .main i r.asset.id).countLoad.Even (p.bindFor r i) :=
  (Even.modifyElement (p.rebind .main i r.asset.id).countLoad i fun e =>
    e.beginLoad r.asset.url).trans (.of_slots rfl rfl rfl ⟨rfl, rfl⟩)

lemma slot_bindFor (p : Pool) (r : Request) (i : Nat) : (p.bindFor r i).slot i =
    ((p.rebind .main i r.asset.id).modifyElement i fun e => e.beginLoad r.asset.url).slot i :=
  rfl

namespace AtRest

lemma bindFor (h : p.AtRest) (lt : i < p.size) (r : Request) :
    (p.bindFor r i).isLost i ((p.slot i).generation + 1) = false ∧
      ((p.bindFor r i).element i).source = some r.asset.url ∧
        ((p.bindFor r i).slot i).lock.waiting = [] := by
  have hslot := (p.slot_bindFor r i).trans (p.slot_begun .main i i r.asset.id r.asset.url)
  rw [if_pos ⟨rfl, lt⟩] at hslot
  rw [isLost_eq_false, element, hslot]
  exact ⟨⟨h.alive, rfl⟩, rfl, h.waiting i⟩

lemma timers_sleepUntil (h : p.AtRest) (due : Nat) :
    (p.now < due → (p.agenda.sleepUntil .main due).timers = [⟨due, .main⟩]) ∧
      (due ≤ p.now → (p.agenda.sleepUntil .main due).timers = []) := by
  unfold Agenda.sleepUntil
  refine ⟨fun hlt => ?_, fun hle => ?_⟩
  · rw [if_pos (show p.agenda.now < due from hlt)]
    simp [h.timers]
  · rw [if_neg (show ¬p.agenda.now < due from Nat.not_lt.mpr hle)]
    exact h.timers

end AtRest

lemma AtRest.begins_moveToTarget (h : p.AtRest) (hbound : (p.slot i).asset = some r.asset.id) :
    p.Begins r (Request.moveToTarget .main r (((p.take .main r).touch i).lock i .main) i
      (p.slot i).generation) := by
  have hwaiting : (((p.touch i).lock i .main).slot i).lock.waiting = [] := by
    rw [slot_lock, slot_touch]
    split <;> split <;> exact h.waiting i
  have heven : (p.touch i).Even (((p.take .main r).touch i).lock i .main) :=
    (Even.lock (p.touch i) i .main).trans (.of_slots rfl rfl rfl ⟨rfl, rfl⟩)
  have had : (p.touch i).isLost i (p.slot i).generation = false := by
    rw [isLost_eq_false, slot_touch]
    refine ⟨h.alive, ?_⟩
    split <;> rfl
  have hreaches := Request.reaches_moveToTarget (r := r) (i := i) (g := (p.slot i).generation)
    (p := ((p.take .main r).touch i).lock i .main) hwaiting (h.take r).agenda
    ((heven.isLost _ _).trans had) h.timers
  exact .finds hbound had (hreaches.of_even heven)

lemma AtRest.serves_locked (h : p.AtRest) (hbound : (p.slot i).asset = some r.asset.id) :
    (((p.touch i).lock i .main).slot i).serves r.asset.id (p.slot i).generation = true := by
  have hbinding : (((p.touch i).lock i .main).slot i).binding = (p.slot i).binding := by
    rw [slot_lock, slot_touch]
    split <;> split <;> rfl
  exact (Slot.serves_of_binding hbinding _ _).trans (h.serves hbound)

/-- The asset is not bound: the slot used longest ago is bound to it, and its load begins. -/
lemma AtRest.begins_pollLoad (h : p.AtRest) (lt : i < p.size)
    (hunbound : ∀ j, (p.slot j).asset ≠ some r.asset.id)
    (holdest : ∀ j < p.size, (p.slot i).lastUsed ≤ (p.slot j).lastUsed) :
    p.Begins r (Request.pollLoad .main r ((p.take .main r).bindFor r i) i
      ((p.slot i).generation + 1) (p.now + p.backend.loadMs)) := by
  obtain ⟨had, source, waiting⟩ := h.bindFor lt r
  have hidle := (h.take r).agenda.sleepUntil (p.now + p.backend.loadMs)
  have htimers := h.timers_sleepUntil (p.now + p.backend.loadMs)
  have hnow : ((p.take .main r).bindFor r i).now = p.now := now_sleepUntil _ _ _
  refine .binds (q := (p.take .main r).bindFor r i) (d := p.now + p.backend.loadMs) hunbound lt
    holdest ?_ had source hidle (fun hlt => ?_) ?_
  · exact (p.even_bindFor r i).trans (.of_slots rfl rfl rfl ⟨rfl, rfl⟩)
  · exact htimers.1 (by rwa [hnow] at hlt)
  · refine Request.brings_pollLoad ?_ hidle had source fun hle => ?_
    · exact waiting
    · exact htimers.2 (hnow ▸ hle)

lemma AtRest.begins (h : p.AtRest) (sized : 0 < p.size) (named : r.asset.url.isEmpty = false)
    (unpinned : r.pinned = []) : p.Begins r (r.poll .main (p.take .main r) .unstarted) := by
  rw [Request.poll, named, if_neg Bool.false_ne_true, Request.maxPicks, Request.run, unpinned]
  have hpick := (p.take .main r).picks .main r.asset.id []
  rcases hout : (p.take .main r).pick .main r.asset.id [] with ⟨q, result⟩
  have hresult : ((p.take .main r).pick .main r.asset.id []).2 = result := by rw [hout]
  rw [hout] at hpick
  cases hpick with
  | disposed hd => simp [Pool.take, h.alive] at hd
  | @kept i hi =>
    have hbound : (p.slot i).asset = some r.asset.id := slotOf?_eq_some (p := p.take .main r) hi
    have hfree : ((p.take .main r).touch i).isFree i = true := (p.isFree_touch i i).trans (h.isFree i)
    have hserves : ((((p.take .main r).touch i).lock i .main).slot i).serves r.asset.id
        ((p.take .main r).slot i).generation = true := h.serves_locked hbound
    dsimp only
    rw [hfree, if_pos rfl, hserves, if_pos rfl]
    exact h.begins_moveToTarget hbound
  | @taken i _ hi _ lt =>
    exact h.begins_pollLoad lt (fun j => slotOf?_eq_none (p := p.take .main r) hi j) fun j hj =>
      oldest_of_pick (p := p.take .main r) hresult hj List.not_mem_nil (h.isFree j)
  | awaited =>
    -- The first slot is free, so there is one to be had.
    obtain ⟨-, hbusy, -⟩ := of_pick_awaited hresult h.alive
    have hfree : (p.take .main r).isFree 0 = true := h.isFree 0
    simp [hbusy 0 sized List.not_mem_nil] at hfree
  | exhausted =>
    obtain ⟨-, hall⟩ := of_pick_exhausted hresult h.alive
    cases hall 0 sized

/-- **A request to a pool that is at rest** gets a result, and the pool is at rest again. -/
theorem AtRest.acquires (h : p.AtRest) (sized : 0 < p.size) (named : r.asset.url.isEmpty = false)
    (unpinned : r.pinned = []) : p.Acquires r (p.acquire r) := by
  have hsolo := h.take r
  obtain ⟨fuel, hfuel, enough⟩ : ∃ fuel, machine.runUntil (isOver .main)
      ((p.take .main r).resume .main) = machine.runFor (isOver .main) fuel
        ((p.take .main r).resume .main) ∧ 6 ≤ fuel := by
    refine ⟨_, rfl, ?_⟩
    simp only [machine, stepsEach]
    omega
  rw [acquire, hfuel, collect]
  obtain ⟨q, hq⟩ : ∃ q, machine.runFor (isOver .main) fuel ((p.take .main r).resume .main) = q :=
    ⟨_, rfl⟩
  rw [hq]
  cases h.begins sized named unpinned with
  | finds bound had reaches =>
    obtain ⟨stale, hover⟩ := hsolo.reaches had reaches (Nat.le_trans (by decide) enough)
    obtain ⟨hrest, heven, hresult⟩ := (hq ▸ hover).forget
    rw [hresult]
    exact .hits bound hrest heven
  | @binds q' i g due _ unbound lt oldest even had source idle timers brings =>
    have hloaded := hsolo.brings had source idle timers brings enough
    rw [hq] at hloaded
    cases hloaded with
    | fails bad ended =>
      obtain ⟨hrest, heven, hresult⟩ := ended.forget
      rw [hresult]
      refine .fails unbound lt oldest ?_ hrest ((even.unbind i).trans heven)
      rwa [Backend.refuses, even.failing] at bad
    | loads good ended =>
      obtain ⟨hrest, heven, hresult⟩ := ended.forget
      rw [hresult]
      refine .loads unbound lt oldest ?_ hrest ((even.finishLoad i).trans heven)
      rwa [Backend.refuses, even.failing] at good

end Pool

end Montage
