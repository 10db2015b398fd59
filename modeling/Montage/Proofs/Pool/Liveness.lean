import Mathlib.Algebra.BigOperators.Fin
import Mathlib.Algebra.Order.BigOperators.Group.Finset
import Montage.Proofs.Pool.Tallies
import Montage.Proofs.Pool.Wakeups

/-!
A pool whose tasks run as their turns come brings all its work to an end.

Nobody waits for a lock with another one in hand, and the schedule forgets nobody, so as long as
some work is not over there is a step to take. Every step leaves less to be done than there was, and
what is to be done is never more than the steps that a run is given. So a run ends with all work
over, and a request gets its result.
-/

namespace Montage

namespace Machine

variable {σ : Type} {m : Machine σ} {P : σ → Prop} {s : σ} {fuel : Nat}

/-- A machine that has less to do after each step stops, or has nothing left to do. -/
lemma runFor_of_lt (stop : σ → Bool) (size : σ → Nat)
    (hstep : ∀ {s s'}, P s → m.step? s = some s' → P s' ∧ size s' < size s) (hs : P s)
    (enough : size s ≤ fuel) : P (m.runFor stop fuel s) ∧
      (stop (m.runFor stop fuel s) = true ∨ m.step? (m.runFor stop fuel s) = none) := by
  induction fuel generalizing s with
  | zero =>
    refine ⟨hs, .inr ?_⟩
    rcases hnext : m.step? s with _ | s'
    · exact hnext
    · have hless := (hstep hs hnext).2
      omega
  | succ fuel ih =>
    rw [runFor]
    split
    · next hstop => exact ⟨hs, .inl hstop⟩
    · rcases hnext : m.step? s with _ | s'
      · exact ⟨hs, .inr hnext⟩
      · obtain ⟨hs', hless⟩ := hstep hs hnext
        exact ih hs' (by omega)

end Machine

namespace Agenda

lemma length_timers {a : Agenda} {n : Nat} (h : ∀ tm ∈ a.timers, tm.task < n) :
    a.timers.length = ∑ t ∈ Finset.range n, (a.duesOf t).length := by
  simp only [duesOf]
  revert h
  induction a.timers with
  | nil => simp
  | cons tm ts ih =>
    intro h
    have hcons : ∀ t, (((tm :: ts).filter (·.task == t)).map (·.due)).length =
        ((ts.filter (·.task == t)).map (·.due)).length + if tm.task = t then 1 else 0 := by
      intro t
      by_cases ht : tm.task = t <;> simp [ht]
    have hmem : tm.task ∈ Finset.range n := Finset.mem_range.mpr (h tm List.mem_cons_self)
    have hrest := ih fun tm' h' => h tm' (List.mem_cons_of_mem _ h')
    rw [List.length_cons, Finset.sum_congr rfl fun t _ => hcons t, Finset.sum_add_distrib,
      Finset.sum_ite_eq, if_pos hmem, hrest]

end Agenda

namespace Work

lemma toGo_le {w : Work}
    (h : ∀ r stage, w = .request r stage → stage.picksLeft ≤ Request.maxPicks) : w.toGo ≤ 20 := by
  rcases w with ⟨r, _ | ⟨i, k, n⟩ | ⟨i, g, due⟩ | ⟨i, g, _ | due, deadline⟩ | result⟩ |
    ⟨w, _ | due | _⟩
  case request.queued =>
    have hn : n ≤ 4 := h r _ rfl
    simp only [toGo]
    omega
  all_goals simp [toGo, Request.maxPicks]

lemma length_dues_le (w : Work) : w.dues.length ≤ 2 := by
  rcases w with ⟨r, _ | ⟨i, k, n⟩ | ⟨i, g, due⟩ | ⟨i, g, _ | due, deadline⟩ | result⟩ |
    ⟨w, _ | due | _⟩
  all_goals simp [dues]

end Work

namespace Pool

variable {p q : Pool} {t u : TaskId} {w : Work} {r : Request}

/-- A pool whose tasks run as their turns come, from its beginning on. The main task may make a
request or sleep when it does neither, and whoever is at work may do all else that can be done to a
pool. -/
inductive Driven (config : PoolConfig) (backend : Backend) : Pool → Prop
  | new : Driven config backend (.new config backend)
  | event {p : Pool} (h : Driven config backend p) (e : Event) (he : e.leavesSchedule = true) :
      Driven config backend (e.apply p)
  | acquire {p : Pool} (h : Driven config backend p) (r : Request) (idle : p.work? .main = none)
      (awake : p.agenda.duesOf .main = []) :
      Driven config backend ((p.take .main r).resume .main)
  | sleep {p : Pool} (h : Driven config backend p) (due : Nat) (idle : p.work? .main = none)
      (awake : p.agenda.duesOf .main = []) :
      Driven config backend { p with agenda := p.agenda.sleepUntil .main due }
  | rise {p : Pool} (h : Driven config backend p) (idle : p.work? .main = none) :
      Driven config backend { p with agenda := p.agenda.unready .main }
  | step {p q : Pool} (h : Driven config backend p) (hq : machine.step? p = some q) :
      Driven config backend q

namespace Driven

variable {config : PoolConfig} {backend : Backend}

/-- A pool that is driven is one that some events lead to. -/
lemma exists_run (h : Driven config backend p) : ∃ es, p = (Pool.new config backend).run es := by
  have hbook : ∀ (es : List Event) (a : Agenda),
      a.started = ((Pool.new config backend).run es).agenda.started →
      ({ (Pool.new config backend).run es with agenda := a } : Pool) =
        (Pool.new config backend).run (es ++ [.schedule a]) := by
    intro es a ha
    rw [run_concat, Event.apply, ← ha, max_self]
  have hresume : ∀ (es : List Event) (t : TaskId),
      ((Pool.new config backend).run es).resume t =
        (Pool.new config backend).run (es ++ [.resume t]) := fun es t => by
    rw [run_concat]
    rfl
  induction h with
  | new => exact ⟨[], rfl⟩
  | event _ e _ ih =>
    obtain ⟨es, rfl⟩ := ih
    exact ⟨es ++ [e], (run_concat _ _ _).symm⟩
  | acquire _ r idle _ ih =>
    obtain ⟨es, rfl⟩ := ih
    refine ⟨es ++ [.call r] ++ [.resume .main], ?_⟩
    rw [← hresume, run_concat, apply_call idle]
  | sleep _ due _ _ ih =>
    obtain ⟨es, rfl⟩ := ih
    exact ⟨_, hbook es _ (Agenda.started_sleepUntil _ _ _)⟩
  | rise _ _ ih =>
    obtain ⟨es, rfl⟩ := ih
    exact ⟨_, hbook es _ rfl⟩
  | step _ hq ih =>
    obtain ⟨es, rfl⟩ := ih
    rcases step?_eq_some hq with ⟨t, -, rfl⟩ | ⟨b, due, hb, rfl⟩
    · have hturn := hbook es (((Pool.new config backend).run es).giveTurn t).agenda rfl
      exact ⟨_, (congrArg (·.resume t) hturn).trans (hresume _ t)⟩
    · exact ⟨_, hbook es _ hb.started⟩

/-- **Nobody is left out** by the schedule. -/
lemma heeded (h : Driven config backend p) : p.Heeded := by
  induction h with
  | new =>
    have hnone : ∀ u, (Pool.new config backend).work? u = none := fun u => rfl
    have hdues : ∀ u, (Pool.new config backend).agenda.duesOf u = [] := fun u => rfl
    refine ⟨⟨.new config backend, fun hw => ?_, fun {u} _ _ => hdues u, fun _ => ?_⟩, fun hu => ?_⟩
    · rw [hnone] at hw
      cases hw
    · simp [hdues]
    · rw [wait?, hnone] at hu
      cases hu
  | event _ e he ih => exact ih.event he
  | acquire _ r idle awake ih => exact ih.acquire idle awake r
  | @sleep p _ due idle awake ih =>
    refine ih.sleepMain idle (now_sleepUntil _ _ _) (Agenda.started_sleepUntil _ _ _)
      (fun u hu => ?_) (fun u _ hu => ?_) ?_
    · simp [Agenda.duesOf_sleepUntil, hu]
    · simpa using hu
    · rw [Agenda.duesOf_sleepUntil, awake, List.nil_append]
      split
      · next hlt => exact ⟨Nat.le_refl _, fun d hd => by rw [List.mem_singleton.mp hd]; exact hlt.2⟩
      · exact ⟨Nat.zero_le _, by simp⟩
  | rise _ idle ih =>
    refine ih.sleepMain idle rfl rfl (fun _ _ => rfl) (fun u hu hready => ?_) (ih.sleep idle)
    simpa [Agenda.unready, hu] using hready
  | step _ hq ih => exact ih.step hq

end Driven

/-! ### How long it takes -/

/-- Steps that a pool may still take. -/
def toGo (p : Pool) : Nat :=
  p.agenda.toGo + ∑ t ∈ Finset.range (p.agenda.started + 1), p.toGoOf t

namespace Ordered

lemma started_resume (hp : p.Ordered) (t : TaskId) :
    (p.resume t).agenda.started = p.agenda.started := by
  rcases hw : p.work? t with _ | w
  · rw [resume_eq_self hw]
  · obtain ⟨ns, hns, -⟩ := Work.moves_poll hp.good (stake_of_work? hw)
    rw [resume_eq hw]
    exact hns.frame.2.1

lemma lt_of_work? (hp : p.Ordered) (hw : p.work? t = some w) : t < p.agenda.started + 1 := by
  by_contra hlt
  rw [hp.work?_eq_none (Nat.lt_of_succ_le (Nat.not_lt.mp hlt))] at hw
  cases hw

lemma toGo_resume_le (hp : p.Ordered) (t : TaskId) : (p.resume t).toGo ≤ p.toGo := by
  rcases hw : p.work? t with _ | w
  · rw [resume_eq_self hw]
  obtain ⟨k, hstretch, hk⟩ := (Work.turns (d := False) hp hw False.elim).spends
  have hmem : t ∈ Finset.range (p.agenda.started + 1) := Finset.mem_range.mpr (hp.lt_of_work? hw)
  have hagenda : (p.resume t).agenda.toGo ≤ p.agenda.toGo + k := by
    rw [resume_eq hw]
    exact hstretch.toGo
  have hothers : ∑ u ∈ (Finset.range (p.agenda.started + 1)).erase t, (p.resume t).toGoOf u =
      ∑ u ∈ (Finset.range (p.agenda.started + 1)).erase t, p.toGoOf u :=
    Finset.sum_congr rfl fun u hu =>
      toGoOf_congr (hp.work?_resume_other (Finset.ne_of_mem_erase hu))
  have hown := toGoOf_of_work? (hp.work?_resume_self hw)
  have hbefore := toGoOf_of_work? hw
  have hsplit : ∀ f : TaskId → Nat, ∑ u ∈ Finset.range (p.agenda.started + 1), f u =
      f t + ∑ u ∈ (Finset.range (p.agenda.started + 1)).erase t, f u := fun f =>
    (Finset.add_sum_erase _ f hmem).symm
  rw [toGo, toGo, hp.started_resume, hsplit, hsplit p.toGoOf, hothers]
  omega

end Ordered

namespace Heeded

/-- **Every step leaves less to be done.** -/
lemma toGo_lt (h : p.Heeded) (hq : machine.step? p = some q) : q.toGo < p.toGo := by
  rcases step?_eq_some hq with ⟨t, ht, rfl⟩ | ⟨b, due, hb, rfl⟩
  · refine Nat.lt_of_le_of_lt ((h.ordered.giveTurn t).toGo_resume_le t) ?_
    exact Nat.add_lt_add_right (Agenda.toGo_unready_lt ht) _
  · rw [toGo, toGo, hb.started]
    exact Nat.add_lt_add_right hb.toGo _

/-- **Where no step is left to take, all work is over.** -/
lemma wait?_eq_none (h : p.Heeded) (hrest : machine.step? p = none) (t : TaskId) :
    p.wait? t = none := by
  obtain ⟨hready, htimers⟩ := step?_eq_none hrest
  rcases ha : p.wait? t with _ | a
  · rfl
  obtain ⟨u, b, -, hb, hturn | helement⟩ := h.ordered.exists_unblocked ha
  · have hmem := h.heeded (hturn ▸ hb)
    simp [hready] at hmem
  · obtain ⟨w, hw, hwait⟩ := wait?_eq_some.mp hb
    obtain ⟨d, hd, hlater⟩ := Work.exists_due hwait helement
    have hmem : d ∈ p.agenda.duesOf u := by
      rw [h.punctual hw]
      exact List.mem_filter.mpr ⟨hd, by simpa using hlater⟩
    obtain ⟨tm, htm, -⟩ := Agenda.mem_duesOf.mp hmem
    simp [htimers] at htm

end Heeded

/-! ### Requests of the main task -/

/-- There are no more tasks with work than there is work. -/
lemma sum_tasks_le (p : Pool) (n : Nat) :
    ∑ t ∈ Finset.range n, (p.work? t).isSome.toNat ≤ p.work.length := by
  simp only [work?]
  induction p.work with
  | nil => simp
  | cons e es ih =>
    have hone : ∑ t ∈ Finset.range n, (if e.1 = t then 1 else 0) ≤ 1 := by
      rw [Finset.sum_ite_eq]
      split <;> simp
    have hsplit : ∀ t, (((e :: es).find? (·.1 == t)).map (·.2)).isSome.toNat ≤
        (if e.1 = t then 1 else 0) + ((es.find? (·.1 == t)).map (·.2)).isSome.toNat := by
      intro t
      rw [find?_fst_cons]
      by_cases he : e.1 = t <;> simp [he]
    have hsum := Finset.sum_le_sum fun t (_ : t ∈ Finset.range n) => hsplit t
    rw [Finset.sum_add_distrib] at hsum
    rw [List.length_cons]
    omega

lemma Driven.toGoOf_le {config : PoolConfig} {backend : Backend} (h : Driven config backend p)
    (t : TaskId) : p.toGoOf t ≤ 20 * (p.work? t).isSome.toNat := by
  rcases hw : p.work? t with _ | w
  · simp [toGoOf, hw]
  have hle : w.toGo ≤ 20 := by
    refine Work.toGo_le fun r stage hr => ?_
    obtain ⟨es, rfl⟩ := h.exists_run
    have hwithin := (Tally.Within.new config backend).run es
    have hpool : ((Tally.new config backend).run es).pool = (Pool.new config backend).run es :=
      Tally.pool_run _ es
    have hleft := hwithin.left t r stage (by rw [hpool, hw, hr])
    omega
  simpa [toGoOf, hw] using hle

/-- A task has two timers at most for its work, and the main task may sleep besides. -/
lemma Heeded.length_duesOf_le (h : p.Heeded) (t : TaskId) : (p.agenda.duesOf t).length ≤
    2 * (p.work? t).isSome.toNat + if TaskId.main = t then 1 else 0 := by
  rcases hw : p.work? t with _ | w
  · by_cases ht : t = TaskId.main
    · subst ht
      simpa using (h.sleep hw).1
    · simp [h.spare ht hw]
  · rw [h.punctual hw]
    have hle := Nat.le_trans (List.length_filter_le (p.now < ·) w.dues) w.length_dues_le
    simp only [Option.isSome_some, Bool.toNat_true]
    omega

lemma Heeded.lt_of_mem_timers (h : p.Heeded) {tm : Timer} (htm : tm ∈ p.agenda.timers) :
    tm.task < p.agenda.started + 1 := by
  rcases hw : p.work? tm.task with _ | w
  · by_cases hmain : tm.task = TaskId.main
    · rw [hmain]
      exact Nat.succ_pos _
    · have hmem : tm.due ∈ p.agenda.duesOf tm.task := Agenda.mem_duesOf.mpr ⟨tm, htm, rfl, rfl⟩
      rw [h.spare hmain hw] at hmem
      cases hmem
  · exact h.ordered.lt_of_work? hw

lemma Heeded.length_timers_le (h : p.Heeded) : p.agenda.timers.length ≤
    2 * ∑ t ∈ Finset.range (p.agenda.started + 1), (p.work? t).isSome.toNat + 1 := by
  rw [Agenda.length_timers fun tm => h.lt_of_mem_timers, Finset.mul_sum]
  refine Nat.le_trans (Finset.sum_le_sum fun t _ => h.length_duesOf_le t) ?_
  rw [Finset.sum_add_distrib, Finset.sum_ite_eq]
  split <;> simp

/-- **The steps that a run of the schedule is given are enough.** -/
lemma Driven.toGo_le {config : PoolConfig} {backend : Backend} (h : Driven config backend p) :
    p.toGo ≤ machine.bound p := by
  have hsteps : ∑ t ∈ Finset.range (p.agenda.started + 1), p.toGoOf t ≤
      20 * ∑ t ∈ Finset.range (p.agenda.started + 1), (p.work? t).isSome.toNat := by
    rw [Finset.mul_sum]
    exact Finset.sum_le_sum fun t _ => h.toGoOf_le t
  have htimers := h.heeded.length_timers_le
  have hcount := p.sum_tasks_le (p.agenda.started + 1)
  simp only [toGo, machine, Agenda.toGo, Agenda.size, stepsEach]
  omega

/-- The main task has a request, over or not. -/
def Asks (p : Pool) : Prop := ∃ r stage, p.work? .main = some (.request r stage)

lemma Asks.resume (h : p.Asks) (hp : p.Ordered) (t : TaskId) : (p.resume t).Asks := by
  obtain ⟨r, stage, hw⟩ := h
  by_cases ht : t = .main
  · subst ht
    exact ⟨r, _, hp.work?_resume_self hw⟩
  · exact ⟨r, stage, (hp.work?_resume_other (Ne.symm ht)).trans hw⟩

lemma Asks.step (h : p.Asks) (hp : p.Ordered) (hq : machine.step? p = some q) : q.Asks := by
  rcases step?_eq_some hq with ⟨t, -, rfl⟩ | ⟨b, due, -, rfl⟩
  · exact Asks.resume (p := p.giveTurn t) h (hp.giveTurn t) t
  · exact h

/-- **A request of the main task gets its result**, whatever else is under way, and then the main
task may go on. -/
lemma Driven.acquires {config : PoolConfig} {backend : Backend} (h : Driven config backend p)
    (idle : p.work? .main = none) (awake : p.agenda.duesOf .main = []) (r : Request) :
    ∃ q result, p.acquire r = (q, some result) ∧ Driven config backend q ∧
      q.work? .main = none ∧ q.agenda.duesOf .main = [] := by
  have hbegun := Driven.acquire h r idle awake
  have hasks : ((p.take .main r).resume .main).Asks :=
    Asks.resume ⟨r, .unstarted, work?_take idle r⟩ (h.heeded.ordered.take idle r) .main
  have hrun := Machine.runFor_of_lt (m := machine) (isOver .main) toGo
    (P := fun p => Driven config backend p ∧ p.Asks)
    (fun hp hq => ⟨⟨hp.1.step hq, hp.2.step hp.1.heeded.ordered hq⟩, hp.1.heeded.toGo_lt hq⟩)
    ⟨hbegun, hasks⟩ hbegun.toGo_le
  obtain ⟨q, hq⟩ : ∃ q, machine.runUntil (isOver .main) ((p.take .main r).resume .main) = q :=
    ⟨_, rfl⟩
  rw [show machine.runFor (isOver .main) _ ((p.take .main r).resume .main) = q from hq] at hrun
  obtain ⟨⟨hdriven, r', stage, hw⟩, hends⟩ := hrun
  obtain ⟨result, rfl⟩ : ∃ result, stage = .done result := by
    rcases hends with hover | hrest
    · obtain ⟨result, hresult⟩ := Option.isSome_iff_exists.mp hover
      obtain ⟨r'', hw'⟩ := work?_of_result? hresult
      rw [hw] at hw'
      cases hw'
      exact ⟨result, rfl⟩
    · have hnone := hdriven.heeded.wait?_eq_none hrest .main
      rw [wait?_of_work? hw] at hnone
      cases stage with
      | done result => exact ⟨result, rfl⟩
      | _ => cases hnone
  have hresult : q.result? .main = some result := by rw [result?, hw]
  have hover : q.isOver .main = true := by rw [isOver, hresult]; rfl
  refine ⟨q.forget .main, result, ?_, ?_, ?_, hdriven.heeded.punctual hw⟩
  · rw [Pool.acquire, hq, collect, hresult]
  · have hevent := hdriven.event (.collect .main) rfl
    rwa [Event.apply, if_pos hover] at hevent
  · rw [work?_forget, if_pos rfl]

/-- **Work on a pool never comes to a standstill.** Whatever has happened, whoever waits for the
lock of a slot holds no lock. So if some work is not over, that work or whoever holds the lock that
it waits for has a turn to take or waits for its element only, and goes on as soon as that has come;
and no request picks a slot more often than it may. Where turns are given out as they come, all work
is over when there is nothing left to run, that comes about within a number of steps that is known,
and the main task gets a result for every request, one after the other. -/
theorem never_deadlocks (config : PoolConfig) (backend : Backend) :
    (∀ es, let p := (Pool.new config backend).run es
      (∀ t i, p.wait? t = some (.lock i) ∨ t ∈ (p.slot i).lock.waiting →
        ∀ j, p.holds j t = false) ∧
      (∀ t a, p.wait? t = some a → ∃ u b,
        (u = t ∨ ∃ i, a = .lock i ∧ (p.slot i).lock.holder = some u) ∧
          p.wait? u = some b ∧ (p.GoesOn u ∨ b.forElement = true)) ∧
      (∀ t a es', p.wait? t = some a → (p.run es').work? t = p.work? t →
        a.Ends (p.run es').now → (p.run es').GoesOn t) ∧
      ((Tally.new config backend).run es).pool = p ∧
      ∀ t, ((Tally.new config backend).run es).picks t ≤ Request.maxPicks) ∧
    ∀ p, Driven config backend p →
      (machine.step? p = none → ∀ t, p.wait? t = none) ∧
      (∀ n, p.toGo ≤ n → ∀ t, (machine.runFor (fun _ => false) n p).wait? t = none) ∧
      (p.work? .main = none → p.agenda.duesOf .main = [] →
        ∀ r, ∃ q result, p.acquire r = (q, some result) ∧ Driven config backend q ∧
          q.work? .main = none ∧ q.agenda.duesOf .main = []) := by
  refine ⟨fun es => ?_, fun p hp => ⟨hp.heeded.wait?_eq_none, fun n hn t => ?_, fun idle awake r =>
    hp.acquires idle awake r⟩⟩
  · intro p
    have hnew := Ordered.new config backend
    have hp : p.Ordered := hnew.run es
    refine ⟨fun t i hwaits => ?_, fun t a ha => ?_, fun t a es' ha same ends => ?_,
      Tally.pool_run _ es, ((Tally.Within.new config backend).run es).picks⟩
    · rcases hwaits with hlock | hwaiting
      · exact hp.holds_of_waiting (hp.exists_holder hlock).1
      · exact hp.holds_of_waiting hwaiting
    · obtain ⟨u, b, hu, hb, hturn | helement⟩ := hp.exists_unblocked ha
      · exact ⟨u, b, hu, hb, .inl (hp.goesOn (hturn ▸ hb))⟩
      · exact ⟨u, b, hu, hb, .inr helement⟩
    · exact (hp.run es').goesOn_of_ends ha same ends
  · obtain ⟨hheeded, hstop | hrest⟩ := Machine.runFor_of_lt (m := machine) (P := Heeded)
      (fun _ => false) toGo (fun h hq => ⟨h.step hq, h.toGo_lt hq⟩) hp.heeded hn
    · cases hstop
    · exact hheeded.wait?_eq_none hrest t

/-- A request for another shot. -/
def cutaway : Request := ⟨.video ⟨"cutaway"⟩ "cutaway.mp4" 10.0, 0.0, false, []⟩

/-- Two requests for one slot, of which the second waits for the lock; and a request of the main
task that comes while the first is still to begin. -/
theorem never_deadlocks_single :
    let p := (single 20).run [.request (shot 0.0), .request cutaway, .resume 1, .resume 2]
    let q := Event.apply (single 20) (.request (shot 0.0))
    (p.wait? 2 = some (.lock 0) ∧ ∀ j, p.holds j 2 = false) ∧
    (∃ u b, (u = 2 ∨ ∃ i, Wait.lock 0 = .lock i ∧ (p.slot i).lock.holder = some u) ∧
      p.wait? u = some b ∧ (p.GoesOn u ∨ b.forElement = true)) ∧
    (p.wait? 1 = some (.load 20) ∧ (p.run [.schedule { now := 20 }]).GoesOn 1) ∧
    (machine.step? (single 20) = none ∧ ∀ t, (single 20).wait? t = none) ∧
    q.wait? 1 = some .turn ∧ (machine.runFor (fun _ => false) q.toGo q).wait? 1 = none ∧
    q.work? .main = none ∧ ∃ result, (q.acquire cutaway).2 = some result := by
  obtain ⟨hruns, hdriven⟩ := never_deadlocks { poolSize := 1 } { loadMs := 20 }
  obtain ⟨hholds, hgoes, hends, -⟩ :=
    hruns [.request (shot 0.0), .request cutaway, .resume 1, .resume 2]
  have hnew : Driven { poolSize := 1 } { loadMs := 20 } (single 20) := .new
  obtain ⟨hrest, -⟩ := hdriven _ hnew
  obtain ⟨-, hover, hacquire⟩ := hdriven _ (hnew.event (.request (shot 0.0)) rfl)
  have hlock : ((single 20).run [.request (shot 0.0), .request cutaway, .resume 1,
      .resume 2]).wait? 2 = some (.lock 0) := by decide +kernel
  have hload : ((single 20).run [.request (shot 0.0), .request cutaway, .resume 1,
      .resume 2]).wait? 1 = some (.load 20) := by decide +kernel
  obtain ⟨q, result, hq, -⟩ := hacquire rfl rfl cutaway
  refine ⟨⟨hlock, hholds 2 0 (.inl hlock)⟩, hgoes 2 _ hlock, ⟨hload, ?_⟩, ⟨rfl, hrest rfl⟩, rfl,
    hover _ (Nat.le_refl _) 1, rfl, result, congrArg Prod.snd hq⟩
  exact hends 1 _ [.schedule { now := 20 }] hload rfl (Nat.le_refl 20)

end Pool

end Montage
