import Montage.Proofs.Pool.Acquiring
import Montage.Proofs.Pool.Waiting

/-!
Whoever can go on gets a turn.

A task that waits for its turn is ready, and stays so until it has had it: new work makes its task
ready, a lock is handed on to a task that is woken, and for everything else that work waits for
there is a timer, which wakes the task as it runs out. So the schedule forgets nobody.
-/

namespace Montage

namespace Agenda

variable {a b : Agenda} {t u : TaskId}

lemma next?_eq_some (h : a.next? = some (t, b)) :
    t ∈ a.ready ∧ b = { a.unready t with fresh := false } := by
  have hmain : a.ready.contains TaskId.main = true → TaskId.main ∈ a.ready := by simp
  simp only [next?] at h
  split at h
  · next hfresh =>
    cases h
    exact ⟨hmain (Bool.and_eq_true_iff.mp hfresh).2, rfl⟩
  · split at h
    · next hfind =>
      cases h
      exact ⟨List.mem_of_find?_eq_some hfind, rfl⟩
    · split at h
      · next hready =>
        cases h
        exact ⟨hmain hready, rfl⟩
      · cases h

lemma ready_eq_nil (h : a.next? = none) : a.ready = [] := by
  simp only [next?] at h
  split at h
  · cases h
  split at h
  · cases h
  · next hfind =>
    split at h
    · cases h
    · next hmain =>
      rw [List.eq_nil_iff_forall_not_mem]
      intro t ht
      have hnot := List.find?_eq_none.mp hfind t ht
      simp only [bne_iff_ne, ne_eq, not_not] at hnot
      simp [hnot ▸ ht] at hmain

lemma toGo_unready_lt (h : t ∈ a.ready) : (a.unready t).toGo < a.toGo := by
  have hlt : (a.ready.filter (· != t)).length < a.ready.length :=
    List.length_filter_lt_length_iff_exists.mpr ⟨t, h, by simp⟩
  simpa [toGo, unready] using hlt

/-- The tasks of some timers are woken. -/
def wakeAll (a : Agenda) (ts : List Timer) : Agenda := ts.foldl (fun a tm => a.wake tm.task) a

lemma wakeAll_cons (a : Agenda) (tm : Timer) (ts : List Timer) :
    a.wakeAll (tm :: ts) = (a.wake tm.task).wakeAll ts := rfl

lemma now_wakeAll (ts : List Timer) (a : Agenda) : (a.wakeAll ts).now = a.now := by
  induction ts generalizing a with
  | nil => rfl
  | cons tm ts ih => rw [wakeAll_cons, ih, now_wake]

lemma timers_wakeAll (ts : List Timer) (a : Agenda) : (a.wakeAll ts).timers = a.timers := by
  induction ts generalizing a with
  | nil => rfl
  | cons tm ts ih => rw [wakeAll_cons, ih, timers_wake]

lemma started_wakeAll (ts : List Timer) (a : Agenda) : (a.wakeAll ts).started = a.started := by
  induction ts generalizing a with
  | nil => rfl
  | cons tm ts ih => rw [wakeAll_cons, ih, started_wake]

lemma mem_wakeAll (ts : List Timer) (a : Agenda) :
    u ∈ (a.wakeAll ts).ready ↔ u ∈ a.ready ∨ ∃ tm ∈ ts, tm.task = u := by
  induction ts generalizing a with
  | nil => simp [wakeAll]
  | cons tm ts ih =>
    rw [wakeAll_cons, ih, mem_wake, List.exists_mem_cons_iff, or_assoc, eq_comm (a := u)]

lemma toGo_wakeAll_le (ts : List Timer) (a : Agenda) :
    (a.wakeAll ts).toGo ≤ a.toGo + ts.length := by
  induction ts generalizing a with
  | nil => exact Nat.le_refl _
  | cons tm ts ih =>
    have hfirst := a.toGo_wake_le tm.task
    have hrest := ih (a.wake tm.task)
    rw [wakeAll_cons, List.length_cons]
    omega

/-- Time passes up to the next timer. -/
structure Passes (a b : Agenda) (due : Nat) : Prop where
  now : b.now = max a.now due
  timers : b.timers = a.timers.filter (due < ·.due)
  ready : ∀ u, u ∈ b.ready ↔ u ∈ a.ready ∨ ∃ tm ∈ a.timers, tm.due ≤ due ∧ tm.task = u
  started : b.started = a.started
  first : ∀ tm ∈ a.timers, due ≤ tm.due
  toGo : b.toGo < a.toGo

lemma advance?_eq_some (h : a.advance? = some b) : ∃ due, a.Passes b due := by
  unfold advance? at h
  split at h
  · cases h
  · next due hdue =>
    obtain rfl := Option.some.inj h
    obtain ⟨hmem, hfirst⟩ := List.min?_eq_some_iff.mp hdue
    obtain ⟨tm, htm, htmdue⟩ := List.mem_map.mp hmem
    refine ⟨due, now_wakeAll _ _, timers_wakeAll _ _, fun u => ?_, started_wakeAll _ _,
      fun tm htm => hfirst _ (List.mem_map_of_mem htm), ?_⟩
    · refine (mem_wakeAll _ _).trans (or_congr Iff.rfl ?_)
      simp [and_assoc]
    · have hwoken := toGo_wakeAll_le (a.timers.filter (·.due ≤ due))
        { a with now := max a.now due, fresh := true, timers := a.timers.filter (due < ·.due) }
      have hsome : tm ∈ a.timers.filter (·.due ≤ due) := by simp [htm, htmdue]
      have hpos := List.length_pos_of_mem hsome
      have hparts : a.timers.length =
          (a.timers.filter (·.due ≤ due)).length + (a.timers.filter (due < ·.due)).length := by
        rw [List.length_eq_countP_add_countP (fun tm => decide (tm.due ≤ due)),
          List.countP_eq_length_filter, List.countP_eq_length_filter]
        simp
      refine Nat.lt_of_le_of_lt hwoken ?_
      simp only [toGo]
      omega

lemma timers_eq_nil (h : a.advance? = none) : a.timers = [] := by
  rw [List.eq_nil_iff_forall_not_mem]
  intro tm htm
  obtain ⟨due, -, hdue, -⟩ := exists_nextDue? htm
  simp [advance?, hdue] at h

lemma mem_duesOf {d : Nat} : d ∈ a.duesOf u ↔ ∃ tm ∈ a.timers, tm.task = u ∧ tm.due = d := by
  simp [duesOf, and_assoc]

lemma Passes.duesOf {due : Nat} (h : a.Passes b due) (u : TaskId) :
    b.duesOf u = (a.duesOf u).filter (due < ·) := by
  rw [Agenda.duesOf, Agenda.duesOf, h.timers, List.filter_map, List.filter_filter,
    List.filter_filter]
  exact congrArg _ (List.filter_congr fun tm _ => Bool.and_comm _ _)

end Agenda

namespace Work

variable {p q : Pool} {t : TaskId} {w : Work}

/-- Work that waits for its turn has waited for it before, unless it was handed a lock. -/
lemma wait?_eq_turn (hn : q.now = p.now) (hh : ∀ i, q.holds i t = true → p.holds i t = true)
    (h : w.wait? q t = some .turn) : w.wait? p t = some .turn := by
  rcases w with ⟨r, _ | ⟨i, k, n⟩ | _ | _ | _⟩ | ⟨w, _ | _ | _⟩
  case request.queued =>
    have hi : q.holds i t = true := by
      by_contra hni
      simp [wait?, hni] at h
    simp [wait?, hh i hi]
  all_goals first | rfl | simpa only [wait?, hn] using h

/-- Work that is to be looked at at some times waits for its turn from the first of them on. -/
lemma wait?_eq_turn_iff (h : w.dues ≠ []) :
    w.wait? p t = some .turn ↔ ∃ d ∈ w.dues, d ≤ p.now := by
  rcases w with ⟨r, _ | ⟨i, k, n⟩ | ⟨i, g, due⟩ | ⟨i, g, _ | due, deadline⟩ | result⟩ |
    ⟨w, _ | due | _⟩
  case request.seeking.some =>
    simp [wait?, dues]
    omega
  all_goals simp [wait?, dues] at h ⊢

lemma exists_due {a : Wait} (h : w.wait? p t = some a) (ha : a.forElement = true) :
    ∃ d ∈ w.dues, p.now < d := by
  have hne : w.wait? p t ≠ some .turn := by
    rw [h]
    rintro hturn
    rw [Option.some.inj hturn] at ha
    cases ha
  have hdues : w.dues ≠ [] := by
    intro hnone
    rcases w with ⟨r, _ | ⟨i, k, n⟩ | ⟨i, g, due⟩ | ⟨i, g, _ | due, deadline⟩ | result⟩ |
      ⟨w, _ | due | _⟩
    case request.queued =>
      obtain rfl := Option.some.inj h
      split at ha <;> cases ha
    all_goals simp [wait?, dues] at h hne hnone
  obtain ⟨d, hd⟩ := List.exists_mem_of_ne_nil _ hdues
  exact ⟨d, hd, Nat.lt_of_not_le fun hd' => hne ((wait?_eq_turn_iff hdues).mpr ⟨d, hd, hd'⟩)⟩

lemma wait?_of_dues (h : w.dues = []) (hh : ∀ i, q.holds i t = p.holds i t) :
    w.wait? q t = w.wait? p t := by
  rcases w with ⟨r, _ | ⟨i, k, n⟩ | ⟨i, g, due⟩ | ⟨i, g, _ | due, deadline⟩ | result⟩ |
    ⟨w, _ | due | _⟩
  all_goals simp [wait?, dues, hh] at h ⊢

lemma wait?_later (hh : ∀ i, q.holds i t = p.holds i t) (h : w.wait? q t = some .turn) :
    w.wait? p t = some .turn ∨ ∃ d ∈ w.dues, p.now < d ∧ d ≤ q.now := by
  by_cases hw : w.dues = []
  · exact .inl (wait?_of_dues hw hh ▸ h)
  · obtain ⟨d, hd, hcame⟩ := (wait?_eq_turn_iff hw).mp h
    rcases Nat.lt_or_ge p.now d with hearly | hpast
    · exact .inr ⟨d, hd, hearly, hcame⟩
    · exact .inl ((wait?_eq_turn_iff hw).mpr ⟨d, hd, hpast⟩)

end Work

namespace Pool

variable {p q : Pool} {t u : TaskId} {w : Work} {r : Request}

/-- The timers of all tasks are right. A task without work has none, but for the main task, which
may sleep. -/
structure Timely (p : Pool) : Prop where
  ordered : p.Ordered
  punctual : ∀ {t w}, p.work? t = some w → p.Punctual t w
  spare : ∀ {t}, t ≠ .main → p.work? t = none → p.agenda.duesOf t = []
  sleep : p.work? .main = none →
    (p.agenda.duesOf .main).length ≤ 1 ∧ ∀ due ∈ p.agenda.duesOf .main, p.now < due

/-- And whoever waits for its turn is ready. -/
structure Heeded (p : Pool) : Prop extends p.Timely where
  heeded : ∀ {t}, p.wait? t = some .turn → t ∈ p.agenda.ready

lemma Punctual.congr (h : p.Punctual t w) (hd : q.agenda.duesOf t = p.agenda.duesOf t)
    (hn : q.now = p.now) : q.Punctual t w := by
  rw [Punctual, hd, hn]
  exact h

lemma Timely.congr (h : p.Timely) (ordered : q.Ordered) (hw : ∀ u, q.work? u = p.work? u)
    (hd : ∀ u, q.agenda.duesOf u = p.agenda.duesOf u) (hn : q.now = p.now) : q.Timely where
  ordered := ordered
  punctual {u v} hu := (h.punctual (hw u ▸ hu)).congr (hd u) hn
  spare {u} hne hu := (hd u).trans (h.spare hne (hw u ▸ hu))
  sleep hu := by
    rw [hd, hn]
    exact h.sleep (hw _ ▸ hu)

lemma Heeded.congr (h : p.Heeded) (ordered : q.Ordered) (hw : ∀ u, q.work? u = p.work? u)
    (ha : q.agenda = p.agenda) (hh : ∀ i u, q.holds i u = true → p.holds i u = true) :
    q.Heeded where
  toTimely := h.toTimely.congr ordered hw (fun u => by rw [ha]) (congrArg Agenda.now ha)
  heeded {u} hu := by
    obtain ⟨w, hwork, hturn⟩ := wait?_eq_some.mp hu
    rw [ha]
    refine h.heeded (wait?_eq_some.mpr ⟨w, hw u ▸ hwork, ?_⟩)
    exact Work.wait?_eq_turn (congrArg Agenda.now ha) (fun i => hh i u) hturn

/-! ### Turns -/

/-- **A turn leaves nobody out**: when all others that wait for a turn are ready, then all are after
it. -/
lemma Timely.resume (h : p.Timely) (t : TaskId)
    (others : ∀ u ≠ t, p.wait? u = some .turn → u ∈ p.agenda.ready) : (p.resume t).Heeded := by
  rcases hw : p.work? t with _ | w
  · rw [resume_eq_self hw]
    refine ⟨h, fun {u} hu => others u ?_ hu⟩
    rintro rfl
    simp [wait?, hw] at hu
  have hturns := Work.turns (d := p.Punctual t w) h.ordered hw id
  obtain ⟨k, hstretch, -⟩ := hturns.spends
  obtain ⟨ns, ⟨-, hordered⟩, -⟩ := course_resume h.ordered hw
  have hown : (p.resume t).work? t = some (w.poll t p).2 := h.ordered.work?_resume_self hw
  have hother : ∀ {u}, u ≠ t → (p.resume t).work? u = p.work? u := h.ordered.work?_resume_other
  have hnow : (p.resume t).now = p.now := by
    rw [resume_eq hw]
    exact hstretch.now
  have hdues : ∀ u ≠ t, (p.resume t).agenda.duesOf u = p.agenda.duesOf u := by
    rw [resume_eq hw]
    exact hstretch.duesOf
  have hne : ∀ {u}, (p.resume t).work? u = none → u ≠ t := by
    rintro u hu rfl
    rw [hown] at hu
    cases hu
  refine ⟨⟨hordered, fun {u v} hu => ?_, fun {u} hmain hu => ?_, fun hu => ?_⟩, fun {u} hu => ?_⟩
  · by_cases hut : u = t
    · subst hut
      rw [hown] at hu
      cases hu
      rw [resume_eq hw]
      exact hturns.punctual (h.punctual hw)
    · exact (h.punctual (hother hut ▸ hu)).congr (hdues u hut) hnow
  · rw [hdues u (hne hu)]
    exact h.spare hmain (hother (hne hu) ▸ hu)
  · rw [hdues _ (hne hu), hnow]
    exact h.sleep (hother (hne hu) ▸ hu)
  · obtain ⟨v, hv, hturn⟩ := wait?_eq_some.mp hu
    by_cases hut : u = t
    · subst hut
      rw [hown] at hv
      cases hv
      rw [resume_eq hw] at hturn
      exact absurd hturn hturns.waits
    · rw [hother hut] at hv
      rw [resume_eq hw] at hturn ⊢
      by_contra hready
      -- Nobody has handed the task a lock, so it has waited for its turn all along.
      have hbefore : p.wait? u = some .turn := by
        refine wait?_eq_some.mpr ⟨v, hv, Work.wait?_eq_turn hstretch.now (fun i hi => ?_) hturn⟩
        exact (hstretch.handed i u hut hi).resolve_right hready
      exact hready (hstretch.ready u (others u hut hbefore))

/-! ### What else happens -/

namespace Heeded

/-- Work is taken on under a new task, which is ready. -/
lemma start (h : p.Heeded) (ordered : q.Ordered)
    (hwork : q.work = p.work ++ [(p.agenda.started + 1, w)]) (ha : q.agenda = p.agenda.start.2)
    (hdues : w.dues = [])
    (hh : ∀ i u, u ≠ p.agenda.started + 1 → q.holds i u = true → p.holds i u = true) :
    q.Heeded := by
  have hnew : p.work? (p.agenda.started + 1) = none :=
    h.ordered.work?_eq_none (Nat.lt_succ_self _)
  have hown : q.work? (p.agenda.started + 1) = some w := by
    rw [work?_append hwork, hnew, if_pos rfl, Option.none_or]
  have hother : ∀ {u}, u ≠ p.agenda.started + 1 → q.work? u = p.work? u := fun hu => by
    rw [work?_append hwork, if_neg hu, Option.or_none]
  have hd : ∀ u, q.agenda.duesOf u = p.agenda.duesOf u := fun u => by
    rw [ha]
    rfl
  have hn : q.now = p.now := by
    rw [now, ha]
    rfl
  have hready : q.agenda.ready = p.agenda.ready ++ [p.agenda.started + 1] := by
    rw [ha]
    rfl
  have hmain : TaskId.main ≠ p.agenda.started + 1 := (Nat.succ_ne_zero _).symm
  refine ⟨⟨ordered, fun {u v} hu => ?_, fun {u} hne hu => ?_, fun hu => ?_⟩, fun {u} hu => ?_⟩
  · by_cases hut : u = p.agenda.started + 1
    · subst hut
      rw [hown] at hu
      cases hu
      rw [Punctual, hd, h.spare hmain.symm hnew, hdues]
      rfl
    · exact (h.punctual (hother hut ▸ hu)).congr (hd u) hn
  · rw [hd]
    by_cases hut : u = p.agenda.started + 1
    · exact h.spare hne (hut ▸ hnew)
    · exact h.spare hne (hother hut ▸ hu)
  · rw [hd, hn]
    exact h.sleep (hother hmain ▸ hu)
  · rw [hready]
    by_cases hut : u = p.agenda.started + 1
    · exact List.mem_append_right _ (List.mem_singleton.mpr hut)
    · obtain ⟨v, hv, hturn⟩ := wait?_eq_some.mp hu
      refine List.mem_append_left _ (h.heeded (wait?_eq_some.mpr ⟨v, hother hut ▸ hv, ?_⟩))
      exact Work.wait?_eq_turn hn (fun i => hh i u hut) hturn

/-- A task whose work is over is forgotten. -/
lemma forget (h : p.Heeded) (ordered : (p.forget t).Ordered) (hover : p.isOver t = true) :
    (p.forget t).Heeded := by
  obtain ⟨result, hresult⟩ := Option.isSome_iff_exists.mp hover
  obtain ⟨r, hw⟩ := work?_of_result? hresult
  have hnone : p.agenda.duesOf t = [] := h.punctual hw
  refine ⟨⟨ordered, fun {u v} hu => ?_, fun {u} hne hu => ?_, fun hu => ?_⟩, fun {u} hu => ?_⟩
  · rw [work?_forget] at hu
    split at hu
    · cases hu
    · exact h.punctual hu
  · rw [work?_forget] at hu
    split at hu
    · next hut => exact hut ▸ hnone
    · exact h.spare hne hu
  · rw [work?_forget] at hu
    split at hu
    · next hut =>
      rw [show (p.forget t).agenda = p.agenda from rfl, hut, hnone]
      exact ⟨Nat.zero_le _, nofun⟩
    · exact h.sleep hu
  · obtain ⟨v, hv, hturn⟩ := wait?_eq_some.mp hu
    rw [work?_forget] at hv
    split at hv
    · cases hv
    · exact h.heeded (wait?_eq_some.mpr ⟨v, hv, Work.wait?_eq_turn rfl (fun _ hi => hi) hturn⟩)

lemma startWarmup {i : Nat} {a : AssetId} {url : String} (h : p.Heeded)
    (ordered : (p.startWarmup i a url).Ordered) : (p.startWarmup i a url).Heeded := by
  refine h.start ordered rfl rfl rfl fun j u hu hj => ?_
  rw [holds_iff, slot_startWarmup, slot_rebind] at hj
  rw [holds_iff]
  split at hj
  · exact absurd (Option.some.inj hj).symm hu
  · exact hj

lemma warmUp (lookup : AssetId → Option MediaAsset) (budget : Nat) (ids : List AssetId) (n : Nat)
    (h : p.Heeded) (alive : p.disposed = false) : (Pool.warmUp lookup budget ids n p).2.Heeded := by
  fun_induction Pool.warmUp lookup budget ids n p with
  | case1 | case2 | case4 => exact h
  | case3 _ _ _ _ _ _ ih | case6 _ _ _ _ _ _ _ _ ih => exact ih h alive
  | case5 budget id rest n p a _ hwants i hidle ih =>
    have hunbound : p.slotOf? id = none := by
      simp only [wantsWarmup, Bool.and_eq_true, Option.isNone_iff_eq_none] at hwants
      exact hwants.1.1
    exact ih (h.startWarmup (course_startWarmup h.ordered alive hunbound hidle).2) alive

end Heeded

/-- The event leaves it to the schedule who has a turn and when. -/
def Event.leavesSchedule : Event → Bool
  | call _ | resume _ | schedule _ => false
  | _ => true

lemma Heeded.event (h : p.Heeded) {e : Event} (he : e.leavesSchedule = true) :
    (e.apply p).Heeded := by
  obtain ⟨ns, ⟨-, hordered⟩, -⟩ := e.course h.ordered
  have hsame : ∀ {q : Pool}, q.Ordered → q.work = p.work → q.agenda = p.agenda →
      (∀ i, (q.slot i).lock = (p.slot i).lock) → q.Heeded := fun hq hw ha hl =>
    h.congr hq (fun u => by rw [work?, hw]; rfl) ha fun i u hi => by rwa [holds, hl] at hi
  cases e with
  | call | resume | schedule => cases he
  | request r => exact h.start hordered rfl rfl rfl fun _ _ _ hi => hi
  | collect t =>
    dsimp only [Event.apply] at hordered ⊢
    split
    · next hover =>
      rw [if_pos hover] at hordered
      exact h.forget hordered hover
    · exact h
  | preload upcoming assets =>
    dsimp only [Event.apply, Pool.preload, Pool.preloadFrom] at hordered ⊢
    split
    · exact h
    · next hopen =>
      have alive : p.disposed = false := by
        simp only [Bool.or_eq_true, not_or] at hopen
        simpa using hopen.2
      exact h.warmUp _ _ _ _ alive
  | release a =>
    dsimp only [Event.apply, Pool.release] at hordered ⊢
    split
    · next i hi =>
      rw [hi] at hordered
      refine hsame hordered rfl rfl fun j => ?_
      rw [slot_unbind]
      split <;> rfl
    · exact h
  | reset =>
    refine hsame hordered rfl rfl fun j => ?_
    rw [Event.apply, slot_reset]
    split <;> rfl
  | dispose =>
    refine hsame hordered rfl rfl fun j => ?_
    change (p.reset.slot j).lock = _
    rw [slot_reset]
    split <;> rfl
  | pauseExcept active =>
    have hagrees := p.agrees_pauseExcept active
    exact hsame hordered rfl rfl fun j => (congrArg Slot.lock (hagrees.slot j) :)
  | element i f =>
    have hagrees := p.agrees_modifyElement i f
    exact hsame hordered rfl rfl fun j => (congrArg Slot.lock (hagrees.slot j) :)
  | attend | backend => exact hsame hordered rfl rfl fun _ => rfl

/-! ### Steps of the schedule -/

/-- The pool when a task has the turn. -/
def giveTurn (p : Pool) (t : TaskId) : Pool :=
  { p with agenda := { p.agenda.unready t with fresh := false } }

lemma step?_eq_some (h : machine.step? p = some q) :
    (∃ t ∈ p.agenda.ready, q = (p.giveTurn t).resume t) ∨
      ∃ b due, p.agenda.Passes b due ∧ q = { p with agenda := b } := by
  rw [Machine.step?] at h
  split at h
  · next s hs =>
    cases h
    obtain ⟨⟨t, b⟩, hb, rfl⟩ := Option.map_eq_some_iff.mp hs
    obtain ⟨ht, hb'⟩ := Agenda.next?_eq_some hb
    subst hb'
    exact .inl ⟨t, ht, rfl⟩
  · obtain ⟨b, hb, rfl⟩ := Option.map_eq_some_iff.mp h
    obtain ⟨due, hpasses⟩ := Agenda.advance?_eq_some hb
    exact .inr ⟨b, due, hpasses, rfl⟩

lemma step?_eq_none (h : machine.step? p = none) : p.agenda.ready = [] ∧ p.agenda.timers = [] := by
  rw [Machine.step?] at h
  split at h
  · cases h
  · next hs =>
    exact ⟨Agenda.ready_eq_nil (Option.map_eq_none_iff.mp hs),
      Agenda.timers_eq_nil (Option.map_eq_none_iff.mp h)⟩

lemma Ordered.withAgenda (hp : p.Ordered) {a : Agenda} (hstarted : a.started = p.agenda.started) :
    ({ p with agenda := a } : Pool).Ordered := by
  refine (hp.book (q := { p with agenda := a }) ⟨rfl, rfl, rfl, fun _ => rfl⟩ rfl ?_).2
  rw [hstarted]
  exact hp.started

lemma apply_call (idle : p.work? .main = none) (r : Request) :
    (Event.call r).apply p = p.take .main r :=
  if_pos (Option.isNone_iff_eq_none.mpr idle)

lemma Ordered.take (hp : p.Ordered) (idle : p.work? .main = none) (r : Request) :
    (p.take .main r).Ordered := by
  obtain ⟨ns, ⟨-, hordered⟩, -⟩ := (Event.call r).course hp
  rwa [apply_call idle] at hordered

lemma Ordered.giveTurn (hp : p.Ordered) (t : TaskId) : (p.giveTurn t).Ordered := hp.withAgenda rfl

lemma work?_take (idle : p.work? .main = none) (r : Request) :
    (p.take .main r).work? .main = some (.request r .unstarted) := by
  rw [work?_append (p := p) rfl, idle, if_pos rfl, Option.none_or]

namespace Heeded

lemma giveTurn (h : p.Heeded) (t : TaskId) : ((p.giveTurn t).resume t).Heeded := by
  have htimely : (p.giveTurn t).Timely :=
    h.toTimely.congr (h.ordered.giveTurn t) (fun _ => rfl) (fun _ => rfl) rfl
  refine htimely.resume t fun u hu hturn => ?_
  obtain ⟨w, hw, hturn⟩ := wait?_eq_some.mp hturn
  have hready : u ∈ p.agenda.ready :=
    h.heeded (wait?_eq_some.mpr ⟨w, hw, Work.wait?_eq_turn rfl (fun _ hi => hi) hturn⟩)
  simpa [Pool.giveTurn, Agenda.unready, hu] using hready

/-- When a timer runs out its task is woken, so nobody sleeps for too long. -/
lemma pass (h : p.Heeded) {b : Agenda} {due : Nat} (hb : p.agenda.Passes b due) :
    ({ p with agenda := b } : Pool).Heeded := by
  have hlater : ∀ d, b.now < d ↔ p.now < d ∧ due < d := fun d => by
    rw [hb.now]
    exact Nat.max_lt
  refine ⟨⟨h.ordered.withAgenda hb.started, fun {u w} hw => ?_, fun {u} hne hw => ?_,
    fun hw => ?_⟩, fun {u} hu => ?_⟩
  · show b.duesOf u = w.dues.filter (b.now < ·)
    rw [hb.duesOf, h.punctual hw, List.filter_filter]
    exact List.filter_congr fun d _ => by simp [hlater, Bool.and_comm]
  · show b.duesOf u = []
    rw [hb.duesOf, h.spare hne hw]
    rfl
  · obtain ⟨hlength, hsleep⟩ := h.sleep hw
    show (b.duesOf .main).length ≤ 1 ∧ ∀ d ∈ b.duesOf .main, b.now < d
    rw [hb.duesOf]
    refine ⟨Nat.le_trans (List.length_filter_le _ _) hlength, fun d hd => ?_⟩
    obtain ⟨hmem, hdue⟩ := List.mem_filter.mp hd
    exact (hlater d).mpr ⟨hsleep d hmem, by simpa using hdue⟩
  · obtain ⟨w, hw, hturn⟩ := wait?_eq_some.mp hu
    rw [hb.ready]
    have hlooked := Work.wait?_later (p := p) (q := { p with agenda := b }) (fun _ => rfl) hturn
    rcases hlooked with hbefore | ⟨d, hd, hearly, hcame⟩
    · exact .inl (h.heeded (wait?_eq_some.mpr ⟨w, hw, hbefore⟩))
    · have hmem : d ∈ p.agenda.duesOf u := by
        rw [h.punctual hw]
        exact List.mem_filter.mpr ⟨hd, by simpa using hearly⟩
      obtain ⟨tm, htm, htask, hdue⟩ := Agenda.mem_duesOf.mp hmem
      refine .inr ⟨tm, htm, ?_, htask⟩
      rw [hdue]
      exact Nat.le_of_not_lt fun hlt => absurd ((hlater d).mpr ⟨hearly, hlt⟩) (Nat.not_lt.mpr hcame)

lemma step (h : p.Heeded) (hq : machine.step? p = some q) : q.Heeded := by
  rcases step?_eq_some hq with ⟨t, -, rfl⟩ | ⟨b, due, hb, rfl⟩
  · exact h.giveTurn t
  · exact h.pass hb

lemma acquire (h : p.Heeded) (idle : p.work? .main = none) (awake : p.agenda.duesOf .main = [])
    (r : Request) : ((p.take .main r).resume .main).Heeded := by
  have hown := work?_take idle r
  have hother : ∀ {u}, u ≠ .main → (p.take .main r).work? u = p.work? u := fun hu => by
    rw [work?_append (p := p) rfl, if_neg hu, Option.or_none]
  have htimely : (p.take .main r).Timely := by
    refine ⟨h.ordered.take idle r, fun {u w} hw => ?_, fun {u} hne hu => ?_, fun hu => ?_⟩
    · by_cases hu : u = .main
      · subst hu
        rw [hown] at hw
        cases hw
        exact awake
      · exact h.punctual (hother hu ▸ hw)
    · exact h.spare hne (hother hne ▸ hu)
    · rw [hown] at hu
      cases hu
  refine htimely.resume .main fun u hu hturn => ?_
  obtain ⟨w, hw, hturn⟩ := wait?_eq_some.mp hturn
  exact h.heeded (wait?_eq_some.mpr
    ⟨w, hother hu ▸ hw, Work.wait?_eq_turn rfl (fun _ hi => hi) hturn⟩)

lemma sleepMain (h : p.Heeded) (idle : p.work? .main = none) {a : Agenda}
    (hn : a.now = p.now) (hstarted : a.started = p.agenda.started)
    (hd : ∀ u ≠ .main, a.duesOf u = p.agenda.duesOf u)
    (hready : ∀ u ≠ .main, u ∈ p.agenda.ready → u ∈ a.ready)
    (hsleep : (a.duesOf .main).length ≤ 1 ∧ ∀ due ∈ a.duesOf .main, p.now < due) :
    ({ p with agenda := a } : Pool).Heeded := by
  have hne : ∀ {u w}, p.work? u = some w → u ≠ .main := by
    rintro u w hw rfl
    rw [idle] at hw
    cases hw
  refine ⟨⟨h.ordered.withAgenda hstarted, fun {u w} hw => ?_, fun {u} hmain hu => ?_,
    fun _ => ?_⟩, fun {u} hu => ?_⟩
  · exact (h.punctual hw).congr (hd u (hne hw)) hn
  · exact (hd u hmain).trans (h.spare hmain hu)
  · show (a.duesOf .main).length ≤ 1 ∧ ∀ due ∈ a.duesOf .main, a.now < due
    rwa [hn]
  · obtain ⟨w, hw, hturn⟩ := wait?_eq_some.mp hu
    refine hready u (hne hw) (h.heeded (wait?_eq_some.mpr ⟨w, hw, ?_⟩))
    exact Work.wait?_eq_turn (p := p) (q := { p with agenda := a }) hn (fun _ hi => hi) hturn

end Heeded

end Pool

end Montage
