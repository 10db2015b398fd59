import Montage.Proofs.Pool.Asks

/-!
What work waits for, and what a turn spends.

Work that waits for its turn only goes on when it gets it. All other work waits for a lock, for a
load or for a seek, and a turn changes nothing about it. A turn starts timers and hands on locks,
and each of these makes for turns later on. So work is given a number that pays for all that it may
still bring about (`Work.toGo`), and a turn never spends more than the work is worth less
afterwards.
-/

namespace Montage

namespace Agenda

variable {a : Agenda} {t u : TaskId} {due : Nat}

/-- When the timers of a task run out. -/
def duesOf (a : Agenda) (t : TaskId) : List Nat := (a.timers.filter (·.task == t)).map (·.due)

/-- Steps that the agenda makes for: a timer runs out and wakes its task, and a task that is ready
has a turn. -/
def toGo (a : Agenda) : Nat := 2 * a.timers.length + a.ready.length

@[simp] lemma now_wake (a : Agenda) (t : TaskId) : (a.wake t).now = a.now := by
  unfold wake
  split <;> rfl

@[simp] lemma timers_wake (a : Agenda) (t : TaskId) : (a.wake t).timers = a.timers := by
  unfold wake
  split <;> rfl

@[simp] lemma mem_wake : u ∈ (a.wake t).ready ↔ u ∈ a.ready ∨ u = t := by
  unfold wake
  split
  · next h =>
    refine ⟨.inl, ?_⟩
    rintro (hu | rfl)
    · exact hu
    · simpa using h
  · simp

lemma duesOf_wake (a : Agenda) (t u : TaskId) : (a.wake t).duesOf u = a.duesOf u := by
  simp [duesOf]

lemma toGo_wake_le (a : Agenda) (t : TaskId) : (a.wake t).toGo ≤ a.toGo + 1 := by
  unfold wake
  split
  · exact Nat.le_succ _
  · simp [toGo, Nat.add_assoc]

lemma duesOf_sleepUntil (a : Agenda) (t u : TaskId) (due : Nat) :
    (a.sleepUntil t due).duesOf u = a.duesOf u ++ if u = t ∧ a.now < due then [due] else [] := by
  unfold sleepUntil
  split
  · next h =>
    by_cases hu : u = t
    · simp [duesOf, h, hu]
    · simp [duesOf, hu, Ne.symm hu]
  · next h => simp [h]

lemma toGo_sleepUntil_le (a : Agenda) (t : TaskId) (due : Nat) :
    (a.sleepUntil t due).toGo ≤ a.toGo + 2 := by
  unfold sleepUntil
  split
  · simp only [toGo, List.length_append, List.length_singleton]
    omega
  · exact Nat.le_add_right _ _

@[simp] lemma ready_sleepUntil (a : Agenda) (t : TaskId) (due : Nat) :
    (a.sleepUntil t due).ready = a.ready := by
  unfold sleepUntil
  split <;> rfl

lemma duesOf_stopTimers (a : Agenda) (t u : TaskId) :
    (a.stopTimers t).duesOf u = if u = t then [] else a.duesOf u := by
  simp only [duesOf, stopTimers, List.filter_filter]
  split
  · next h =>
    rw [List.map_eq_nil_iff, List.filter_eq_nil_iff]
    simp [h]
  · next h =>
    refine congrArg _ (List.filter_congr fun tm _ => ?_)
    by_cases htm : tm.task = u
    · simp [htm, h]
    · simp [htm]

lemma toGo_stopTimers_le (a : Agenda) (t : TaskId) : (a.stopTimers t).toGo ≤ a.toGo :=
  Nat.add_le_add_right (Nat.mul_le_mul_left 2 (List.length_filter_le _ _)) _

end Agenda

/-- What some work waits for. -/
inductive Wait where
  /-- For nothing but its turn. -/
  | turn
  | lock (slot : Nat)
  | load (due : Nat)
  /-- For the end of a seek, if that is to be, and for the deadline. -/
  | seek (due : Option Nat) (deadline : Nat)
  deriving DecidableEq

namespace Work

/-- Steps that work may still bring about. A timer that it starts counts for two of them and a lock
that it lets go of for one. -/
def toGo : Work → Nat
  | request _ .unstarted => 11 + 2 * Request.maxPicks
  | request _ (.queued _ _ picks) => 12 + 2 * picks
  | request _ (.loading ..) => 8
  | request _ (.seeking _ _ due _) => if due.isSome then 3 else 2
  | request _ (.done _) => 0
  | warmup _ .unstarted => 5
  | warmup _ (.loading _) => 2
  | warmup _ .done => 0

/-- Times at which work is to be looked at again. -/
def dues : Work → List Nat
  | request _ (.loading _ _ due) | warmup _ (.loading due) => [due]
  | request _ (.seeking _ _ due deadline) => due.toList ++ [deadline]
  | _ => []

/-- What the work of a task waits for; nothing if it is over. -/
def wait? (p : Pool) (t : TaskId) : Work → Option Wait
  | request _ .unstarted | warmup _ .unstarted => some .turn
  | request _ (.queued i _ _) => some (if p.holds i t then .turn else .lock i)
  | request _ (.loading _ _ due) | warmup _ (.loading due) =>
    some (if due ≤ p.now then .turn else .load due)
  | request _ (.seeking _ _ due deadline) =>
    some (if due.any (· ≤ p.now) || deadline ≤ p.now then .turn else .seek due deadline)
  | request _ (.done _) | warmup _ .done => none

end Work

namespace Pool

variable {p q u : Pool} {t : TaskId} {w : Work} {i k n : Nat}

lemma agenda_unlock_eq (p : Pool) (i : Nat) : (p.unlock i).agenda =
    (p.slot i).lock.release.holder.elim p.agenda p.agenda.wake := by
  unfold unlock
  dsimp only
  rcases (p.slot i).lock.release.holder with _ | v <;> rfl

@[simp] lemma holds_enqueue (p : Pool) (i j : Nat) (t u : TaskId) :
    (p.enqueue i t).holds j u = p.holds j u := by
  rw [holds, slot_enqueue]
  split <;> rfl

lemma lock_touch (p : Pool) (i j : Nat) : ((p.touch i).slot j).lock = (p.slot j).lock := by
  rw [slot_touch]
  split <;> rfl

/-- What a task waits for; nothing if its work is over or if it has none. -/
def wait? (p : Pool) (t : TaskId) : Option Wait := (p.work? t).bind (Work.wait? p t)

/-- Steps that the work of a task may still bring about. -/
def toGoOf (p : Pool) (t : TaskId) : Nat := (p.work? t).elim 0 Work.toGo

/-- A turn carries on the work of the task. -/
def GoesOn (p : Pool) (t : TaskId) : Prop := (p.resume t).toGoOf t < p.toGoOf t

/-- The pool after a task has begun a load and gone to sleep. -/
def startLoad (p : Pool) (t : TaskId) (i : Nat) (url : String) : Pool :=
  { p.beginLoad i url with
    agenda := (p.beginLoad i url).agenda.sleepUntil t (p.now + p.backend.loadMs) }

lemma duesOf_startLoad (dues : p.agenda.duesOf t = []) (i : Nat) (url : String) :
    (p.startLoad t i url).agenda.duesOf t =
      [p.now + p.backend.loadMs].filter ((p.startLoad t i url).now < ·) := by
  have hnow : (p.startLoad t i url).now = p.now := now_sleepUntil _ _ _
  have hagenda : (p.beginLoad i url).agenda = p.agenda := rfl
  rw [hnow, startLoad, Agenda.duesOf_sleepUntil, hagenda, dues]
  simp [now, List.filter_cons]

/-- A part of a turn of a task: time does not pass, the timers of other tasks run on, whoever else
is handed a lock is ready, and at most `n` steps are made for. -/
structure Stretch (t : TaskId) (n : Nat) (p q : Pool) : Prop where
  now : q.now = p.now
  ready : ∀ u ∈ p.agenda.ready, u ∈ q.agenda.ready
  duesOf : ∀ u ≠ t, q.agenda.duesOf u = p.agenda.duesOf u
  handed : ∀ i u, u ≠ t → q.holds i u = true → p.holds i u = true ∨ u ∈ q.agenda.ready
  toGo : q.agenda.toGo ≤ p.agenda.toGo + n

namespace Stretch

lemma trans (h : Stretch t n p q) (h' : Stretch t k q u) : Stretch t (n + k) p u where
  now := h'.now.trans h.now
  ready v hv := h'.ready v (h.ready v hv)
  duesOf v hv := (h'.duesOf v hv).trans (h.duesOf v hv)
  handed i v hv hu := by
    rcases h'.handed i v hv hu with hq | hready
    · exact (h.handed i v hv hq).imp_right (h'.ready v)
    · exact .inr hready
  toGo := by
    have hfirst := h.toGo
    have hsecond := h'.toGo
    omega

lemma of_agenda (ha : q.agenda = p.agenda)
    (handed : ∀ i u, u ≠ t → q.holds i u = true → p.holds i u = true) : Stretch t 0 p q where
  now := congrArg Agenda.now ha
  ready v hv := by rwa [ha]
  duesOf v _ := by rw [ha]
  handed i v hv hu := .inl (handed i v hv hu)
  toGo := Nat.le_of_eq (congrArg Agenda.toGo ha)

lemma refl (t : TaskId) (p : Pool) : Stretch t 0 p p := of_agenda rfl fun _ _ _ h => h

lemma of_lock (ha : q.agenda = p.agenda) (hq : ∀ i, (q.slot i).lock = (p.slot i).lock) :
    Stretch t 0 p q :=
  of_agenda ha fun i u _ hu => by rwa [holds, hq] at hu

lemma modifySlot (t : TaskId) (p : Pool) (i : Nat) {f : Slot → Slot}
    (hf : ∀ s, (f s).lock = s.lock) : Stretch t 0 p (p.modifySlot i f) :=
  of_lock rfl fun j => by
    rw [slot_modifySlot]
    split
    · exact hf _
    · rfl

lemma touch (t : TaskId) (p : Pool) (i : Nat) : Stretch t 0 p (p.touch i) :=
  of_lock rfl (p.lock_touch i)

lemma take (ha : q.agenda = p.agenda) (hq : ∀ j, (q.slot j).lock = (p.slot j).lock ∨
    (q.slot j).lock = (p.slot j).lock.take t) : Stretch t 0 p q := by
  refine of_agenda ha fun j v hne hv => ?_
  rw [holds_iff] at hv ⊢
  rcases hq j with h | h
  · rwa [h] at hv
  · rw [h] at hv
    exact absurd (Option.some.inj hv).symm hne

lemma lock (t : TaskId) (p : Pool) (i : Nat) : Stretch t 0 p (p.lock i t) :=
  take rfl fun j => by
    rw [slot_lock]
    split
    · exact .inr rfl
    · exact .inl rfl

lemma rebind (t : TaskId) (p : Pool) (i : Nat) (a : AssetId) : Stretch t 0 p (p.rebind t i a) :=
  take rfl fun j => by
    rw [slot_rebind]
    split
    · exact .inr rfl
    · exact .inl rfl

lemma enqueue (t : TaskId) (p : Pool) (i : Nat) : Stretch t 0 p (p.enqueue i t) :=
  of_agenda rfl fun j v _ hv => by rwa [holds_enqueue] at hv

lemma unlock (t : TaskId) (p : Pool) (i : Nat) : Stretch t 1 p (p.unlock i) := by
  have hagenda := p.agenda_unlock_eq i
  rcases hnext : (p.slot i).lock.release.holder with _ | v
  all_goals
    rw [hnext] at hagenda
    refine ⟨p.now_unlock i, fun x hx => ?_, fun x _ => ?_, fun j x _ hx => ?_, ?_⟩
  · rwa [hagenda]
  · rw [hagenda]
    rfl
  · rw [holds_iff, slot_unlock] at hx
    split at hx
    · next hij =>
      obtain ⟨rfl, -⟩ := hij
      rw [show (p.slot i).lock.release.holder = some x from hx] at hnext
      cases hnext
    · exact .inl (holds_iff.mpr hx)
  · rw [hagenda]
    exact Nat.le_succ _
  · rw [hagenda]
    exact Agenda.mem_wake.mpr (.inl hx)
  · rw [hagenda]
    exact Agenda.duesOf_wake _ _ _
  · rw [holds_iff, slot_unlock] at hx
    split at hx
    · next hij =>
      obtain ⟨rfl, -⟩ := hij
      rw [show (p.slot i).lock.release.holder = some x from hx] at hnext
      cases hnext
      rw [hagenda]
      exact .inr (Agenda.mem_wake.mpr (.inr rfl))
    · exact .inl (holds_iff.mpr hx)
  · rw [hagenda]
    exact Agenda.toGo_wake_le _ _

lemma sleepUntil (t : TaskId) (p : Pool) (due : Nat) :
    Stretch t 2 p { p with agenda := p.agenda.sleepUntil t due } where
  now := now_sleepUntil _ _ _
  ready v hv := by simpa using hv
  duesOf v hv := by simp [Agenda.duesOf_sleepUntil, hv]
  handed i v _ hv := .inl hv
  toGo := Agenda.toGo_sleepUntil_le _ _ _

lemma startLoad (t : TaskId) (p : Pool) (i : Nat) (url : String) :
    Stretch t 2 p (p.startLoad t i url) := by
  have hbegin : Stretch t 0 p (p.beginLoad i url) := by
    refine of_lock rfl fun j => ?_
    have hslot := (p.agrees_modifyElement i fun e => e.beginLoad url).slot j
    exact (congrArg Slot.lock hslot :)
  exact hbegin.trans (.sleepUntil t _ (p.now + p.backend.loadMs))

lemma stopTimers (t : TaskId) (p : Pool) :
    Stretch t 0 p { p with agenda := p.agenda.stopTimers t } where
  now := rfl
  ready _ hv := hv
  duesOf v hv := by simp [Agenda.duesOf_stopTimers, hv]
  handed i v _ hv := .inl hv
  toGo := Agenda.toGo_stopTimers_le _ _

end Stretch

/-- The timers of a task run out when its work is to be looked at again. -/
def Punctual (p : Pool) (t : TaskId) (w : Work) : Prop :=
  p.agenda.duesOf t = w.dues.filter (p.now < ·)

/-- What a turn of a task leaves behind when it may spend `n`: work that does not wait for a turn
again, and whose timers are right if `d` holds, that is, if they were right before. -/
structure Turns (d : Prop) (t : TaskId) (n : Nat) (p q : Pool) (w : Work) : Prop where
  spends : ∃ k, Stretch t k p q ∧ k + w.toGo ≤ n
  punctual : d → q.Punctual t w
  waits : w.wait? q t ≠ some .turn

namespace Turns

variable {d : Prop}

lemma after (h : Turns d t n u q w) (h' : Stretch t k p u) : Turns d t (k + n) p q w := by
  obtain ⟨m, hstretch, hm⟩ := h.spends
  exact ⟨⟨k + m, h'.trans hstretch, by omega⟩, h.punctual, h.waits⟩

lemma mono {m : Nat} (h : Turns d t n p q w) (hnm : n ≤ m) : Turns d t m p q w := by
  obtain ⟨k, hstretch, hk⟩ := h.spends
  exact ⟨⟨k, hstretch, Nat.le_trans hk hnm⟩, h.punctual, h.waits⟩

end Turns

/-- The task neither holds a lock nor waits for one. -/
def Away (p : Pool) (t : TaskId) : Prop := ∀ i, t ∉ (p.slot i).lock.tasks

lemma Away.of_lock (h : p.Away t) (hq : ∀ i, (q.slot i).lock = (p.slot i).lock) : q.Away t :=
  fun i => by rw [hq]; exact h i

lemma Away.holds (h : p.Away t) (i : Nat) : p.holds i t = false := by
  rw [← Bool.not_eq_true, holds_iff]
  intro hi
  exact h i (by simp [Lock.tasks, hi])

lemma away_unlock (lt : i < p.size) (hi : t ∉ (p.slot i).lock.waiting)
    (others : ∀ j ≠ i, t ∉ (p.slot j).lock.tasks) : (p.unlock i).Away t := by
  intro j
  rw [slot_unlock]
  by_cases hij : i = j
  · subst hij
    rw [if_pos ⟨rfl, lt⟩]
    rcases hw : (p.slot i).lock.waiting with _ | ⟨u, rest⟩
    · simp [Lock.release, hw, Lock.tasks]
    · simpa [Lock.release, hw, Lock.tasks] using hi
  · rw [if_neg (by simp [hij])]
    exact others j (Ne.symm hij)

lemma Away.unlock_lock (h : p.Away t) (lt : i < p.size) : ((p.lock i t).unlock i).Away t := by
  refine away_unlock (by rwa [size_lock]) ?_ fun j hj => ?_
  · rw [slot_lock, if_pos ⟨rfl, lt⟩]
    exact fun hi => h i (List.mem_append_right _ hi)
  · rw [slot_lock, if_neg (by simp [Ne.symm hj])]
    exact h j

lemma Ordered.away (hp : p.Ordered) (idle : (p.stake t).lock? = none) : p.Away t := by
  intro i hi
  have hlock : (p.account.stake t).lock? = some i := hp.good.fair.mem.mp hi
  rw [show p.account.stake t = p.stake t from rfl, idle] at hlock
  cases hlock

/-- Nobody has to do with two locks, so whoever lets go of one has nothing to do with any. -/
lemma Ordered.away_unlock (hp : p.Ordered) (holds : p.holds i t = true) :
    (p.unlock i).Away t := by
  have hholder := holds_iff.mp holds
  have htasks : (p.slot i).lock.tasks = t :: (p.slot i).lock.waiting := by
    simp [Lock.tasks, hholder]
  have hnodup : (p.slot i).lock.tasks.Nodup := hp.good.fair.nodup i
  have hlock : (p.account.stake t).lock? = some i := hp.good.fair.mem.mp (by
    show t ∈ (p.slot i).lock.tasks
    simp [htasks])
  rw [htasks] at hnodup
  have hnot := (List.nodup_cons.mp hnodup).1
  refine Pool.away_unlock (p.lt_size_of_holds holds) hnot fun j hj hmem => ?_
  have hother : (p.account.stake t).lock? = some j := hp.good.fair.mem.mp hmem
  exact hj (Option.some.inj (hother.symm.trans hlock))

@[simp] lemma duesOf_unlock (p : Pool) (i : Nat) (t : TaskId) :
    (p.unlock i).agenda.duesOf t = p.agenda.duesOf t := by
  rw [agenda_unlock_eq]
  rcases (p.slot i).lock.release.holder with _ | v
  · rfl
  · exact Agenda.duesOf_wake _ _ _

end Pool

namespace Request

open Pool (Stretch Turns)

variable {d : Prop} {t : TaskId} {r : Request} {p : Pool} {i g deadline : Nat} {due : Option Nat}

/-! ### Turns of a request -/

lemma turns_finish (t : TaskId) (r : Request) (p : Pool) (i : Nat)
    (result : Except MediaError Handle) :
    Turns d t 1 p (finish t p i result).1 (.request r (finish t p i result).2) := by
  have hstretch := (Stretch.stopTimers t p).trans (.unlock t _ i)
  refine ⟨⟨_, hstretch, Nat.le_refl _⟩, fun _ => ?_, nofun⟩
  simp [Pool.Punctual, finish, Agenda.duesOf_stopTimers, Work.dues]

lemma turns_finishSeek (t : TaskId) (r : Request) (p : Pool) (i g : Nat) (stale : Bool) :
    Turns d t 1 p (finishSeek t r p i g stale).1 (.request r (finishSeek t r p i g stale).2) :=
  turns_finish t r p i _

/-- Whether a seek may be over. -/
def seekCame (p : Pool) (due : Option Nat) (deadline : Nat) : Bool :=
  due.any (· ≤ p.now) || deadline ≤ p.now

lemma pollSeek_early (early : seekCame p due deadline = false) :
    pollSeek t r p i g due deadline = (p, .seeking i g due deadline) := by
  simp only [seekCame, Bool.or_eq_false_iff, decide_eq_false_iff_not] at early
  simp [pollSeek, early.1, early.2]

lemma turns_pollSeek_came (came : seekCame p due deadline = true)
    (punctual : d → p.Punctual t (.request r (.seeking i g due deadline))) :
    ∃ n < (Work.request r (.seeking i g due deadline)).toGo,
      Turns d t n p (pollSeek t r p i g due deadline).1
        (.request r (pollSeek t r p i g due deadline).2) := by
  have hone : 1 < (Work.request r (.seeking i g due deadline)).toGo := by
    cases due <;> simp [Work.toGo]
  unfold pollSeek
  dsimp only
  split
  · exact ⟨_, hone, (turns_finishSeek ..).after (.modifySlot t p i fun _ => rfl)⟩
  split
  · exact ⟨_, hone, turns_finishSeek ..⟩
  · next hearly =>
    -- The seek hangs, and from here on only the deadline ends it.
    have hended : due.any (· ≤ p.now) = true := by simpa [seekCame, hearly] using came
    rcases due with _ | due
    · simp at hended
    have hdue : ¬p.now < due := Nat.not_lt.mpr (by simpa using hended)
    have hdeadline : p.now < deadline := Nat.lt_of_not_le hearly
    refine ⟨2, by simp [Work.toGo], ⟨0, .refl t p, ?_⟩, fun hd => ?_, ?_⟩
    · simp [hended, Work.toGo]
    · have hdues := punctual hd
      simp only [Pool.Punctual, Work.dues] at hdues ⊢
      simp [hdues, hended, hdue, hdeadline]
    · simp [hended, hearly, Work.wait?]

lemma turns_pollSeek
    (punctual : d → p.Punctual t (.request r (.seeking i g due deadline))) :
    Turns d t 3 p (pollSeek t r p i g due deadline).1
      (.request r (pollSeek t r p i g due deadline).2) := by
  have hthree : (Work.request r (.seeking i g due deadline)).toGo ≤ 3 := by
    cases due <;> simp [Work.toGo]
  rcases hcame : seekCame p due deadline with _ | _
  · rw [pollSeek_early hcame]
    refine ⟨⟨0, .refl t p, by rwa [Nat.zero_add]⟩, punctual, ?_⟩
    rw [seekCame] at hcame
    simp [Work.wait?, hcame]
  · obtain ⟨n, hn, h⟩ := turns_pollSeek_came hcame punctual
    exact h.mono (by omega)

lemma turns_moveToTarget (none : d → p.agenda.duesOf t = []) :
    Turns d t 7 p (moveToTarget t r p i g).1 (.request r (moveToTarget t r p i g).2) := by
  unfold moveToTarget
  dsimp only
  split
  · exact (turns_finish ..).mono (by decide)
  · have hcount : Stretch t 0 p
        { p with backend := { p.backend with seeks := p.backend.seeks + 1 } } :=
      .of_agenda rfl fun _ _ _ h => h
    have hsleeps := (hcount.trans (.sleepUntil t _ (p.now + p.backend.seekMs))).trans
      (.sleepUntil t _ (p.now + p.config.seekTimeoutMs.toNat))
    refine (turns_pollSeek fun hd => ?_).after hsleeps
    simp only [Pool.Punctual, Agenda.duesOf_sleepUntil, none hd, Work.dues, Pool.now,
      Pool.now_sleepUntil]
    by_cases hdue : 0 < p.backend.seekMs <;> by_cases hdeadline : 0 < p.config.seekTimeoutMs.toNat
    all_goals simp [hdue, hdeadline]

lemma turns_pollLoad_ended {due : Nat} (ended : due ≤ p.now)
    (punctual : d → p.Punctual t (.request r (.loading i g due))) :
    Turns d t 7 p (pollLoad t r p i g due).1 (.request r (pollLoad t r p i g due).2) := by
  have hnone : d → p.agenda.duesOf t = [] := fun hd => by
    rw [punctual hd]
    simp [Work.dues, ended]
  rw [pollLoad, if_pos ended]
  have hfinishes := p.finishes i g r.asset.id r.asset.url
  rcases hout : p.finishLoad i g r.asset.id r.asset.url with ⟨q, result⟩
  rw [hout] at hfinishes
  cases hfinishes with
  | lost => exact (turns_finish ..).mono (by decide)
  | loaded =>
    exact (turns_moveToTarget (p := p.modifySlot i Slot.finishLoad) hnone).after
      (.modifySlot t p i fun _ => rfl)
  | failed =>
    have hunbind : Stretch t 0 p (p.unbind i) := .modifySlot t p i fun _ => rfl
    exact ((turns_finish ..).after hunbind).mono (by decide)

lemma turns_pollLoad {due : Nat} (punctual : d → p.Punctual t (.request r (.loading i g due))) :
    Turns d t 8 p (pollLoad t r p i g due).1 (.request r (pollLoad t r p i g due).2) := by
  rcases Nat.lt_or_ge p.now due with hearly | hended
  · rw [pollLoad, if_neg (Nat.not_le.mpr hearly)]
    exact ⟨⟨0, .refl t p, Nat.le_refl _⟩, punctual, by simp [Work.wait?, hearly]⟩
  · exact (turns_pollLoad_ended hended punctual).mono (by decide)

lemma turns_enqueue {n : Nat} {k : Option Nat} (away : p.Away t)
    (none : d → p.agenda.duesOf t = []) :
    Turns d t (12 + 2 * n) p (p.enqueue i t) (.request r (.queued i k n)) := by
  refine ⟨⟨0, .enqueue t p i, by simp [Work.toGo]⟩, none, ?_⟩
  simp [Work.wait?, away.holds i]

lemma turns_run (n : Nat) (away : p.Away t) (none : d → p.agenda.duesOf t = []) :
    Turns d t (10 + 2 * n) p (run t r n p).1 (.request r (run t r n p).2) := by
  have hover : ∀ (q : Pool) (result : Except MediaError Handle), (d → q.agenda.duesOf t = []) →
      Turns d t 0 q q (.request r (.done result)) := fun q result hq =>
    ⟨⟨0, .refl t q, Nat.le_refl _⟩, hq, nofun⟩
  induction n generalizing p with
  | zero => exact (hover p _ none).mono (Nat.zero_le _)
  | succ n ih =>
    unfold run
    have hpick := p.picks t r.asset.id r.pinned
    rcases hout : p.pick t r.asset.id r.pinned with ⟨q, result⟩
    rw [hout] at hpick
    cases hpick with
    | disposed => exact (hover p _ none).mono (Nat.zero_le _)
    | @kept i hi =>
      have hlt : i < (p.touch i).size := by
        simpa using p.lt_size_of_asset (Pool.slotOf?_eq_some hi)
      have haway : (p.touch i).Away t := away.of_lock (p.lock_touch i)
      have htouch := Stretch.touch t p i
      dsimp only
      split
      · have hlock := htouch.trans (.lock t _ i)
        split
        · have hturns : Turns d t 7 ((p.touch i).lock i t) _ _ :=
            turns_moveToTarget (r := r) (i := i) (g := (p.slot i).generation) none
          exact (hturns.after hlock).mono (by omega)
        · have hnone : d → (((p.touch i).lock i t).unlock i).agenda.duesOf t = [] := by
            rw [Pool.duesOf_unlock]
            exact none
          have hturns := (ih (haway.unlock_lock hlt) hnone).after (hlock.trans (.unlock t _ i))
          exact hturns.mono (by omega)
      · exact ((turns_enqueue haway none).after htouch).mono (by omega)
    | @taken i _ _ _ lt _ =>
      have hdues : d → _ := fun hd =>
        Pool.duesOf_startLoad (p := p.rebind t i r.asset.id) (none hd) i r.asset.url
      have hstart := (Stretch.rebind t p i r.asset.id).trans (.startLoad t _ i r.asset.url)
      exact ((turns_pollLoad hdues).after hstart).mono (by omega)
    | @awaited i =>
      have hcount : Stretch t 0 p p.countUse := .of_lock rfl fun _ => rfl
      dsimp only
      split
      · exact ((ih (p := p.countUse) away none).after hcount).mono (by omega)
      · exact ((turns_enqueue (p := p.countUse) away none).after hcount).mono (by omega)
    | exhausted =>
      have hcount : Stretch t 0 p p.countUse := .of_lock rfl fun _ => rfl
      exact ((hover p.countUse _ none).after hcount).mono (Nat.zero_le _)

lemma turns_pollQueued {k : Option Nat} {n : Nat} (hp : p.Ordered) (holds : p.holds i t = true)
    (none : d → p.agenda.duesOf t = []) :
    Turns d t (11 + 2 * n) p (pollQueued t r p i k n).1
      (.request r (pollQueued t r p i k n).2) := by
  have hagain : Turns d t (11 + 2 * n) p (run t r n (p.unlock i)).1
      (.request r (run t r n (p.unlock i)).2) := by
    have hturns := turns_run (r := r) n (hp.away_unlock holds) (by rwa [Pool.duesOf_unlock])
    exact (hturns.after (.unlock t p i)).mono (by omega)
  unfold pollQueued
  rw [if_pos holds]
  rcases k with _ | g
  · exact hagain
  · dsimp only
    split
    · exact (turns_moveToTarget none).mono (by omega)
    · exact hagain

end Request

namespace Warmup

open Pool (Stretch Turns)

variable {d : Prop} {t : TaskId} {w : Warmup} {p : Pool} {due : Nat}

/-! ### Turns of a load in advance -/

lemma turns_pollLoad_ended (ended : due ≤ p.now)
    (punctual : d → p.Punctual t (.warmup w (.loading due))) :
    Turns d t 1 p (w.pollLoad p due).1 (.warmup w (w.pollLoad p due).2) := by
  have hnone : d → p.agenda.duesOf t = [] := fun hd => by
    rw [punctual hd]
    simp [Work.dues, ended]
  rw [pollLoad, if_pos ended]
  have hfinishes := p.finishes w.slot w.generation w.asset w.url
  rcases hout : p.finishLoad w.slot w.generation w.asset w.url with ⟨q, result⟩
  rw [hout] at hfinishes
  have hkept : Stretch t 0 p q ∧ (d → q.agenda.duesOf t = []) := by
    cases hfinishes with
    | lost => exact ⟨.refl t p, hnone⟩
    | loaded => exact ⟨.modifySlot t p w.slot fun _ => rfl, hnone⟩
    | failed => exact ⟨.modifySlot t p w.slot fun _ => rfl, hnone⟩
  refine ⟨⟨_, hkept.1.trans (.unlock t q w.slot), Nat.le_refl _⟩, fun hd => ?_,
    by simp [Work.wait?]⟩
  rw [Pool.Punctual, Pool.duesOf_unlock, hkept.2 hd]
  rfl

lemma turns_pollLoad (punctual : d → p.Punctual t (.warmup w (.loading due))) :
    Turns d t 2 p (w.pollLoad p due).1 (.warmup w (w.pollLoad p due).2) := by
  rcases Nat.lt_or_ge p.now due with hearly | hended
  · rw [pollLoad, if_neg (Nat.not_le.mpr hearly)]
    exact ⟨⟨0, .refl t p, Nat.le_refl _⟩, punctual, by simp [Work.wait?, hearly]⟩
  · exact (turns_pollLoad_ended hended punctual).mono (by decide)

end Warmup

namespace Work

open Pool (Turns)

variable {d : Prop} {p : Pool} {t : TaskId} {w : Work}

/-- **Work that waits for its turn goes on** when it gets it, and pays for what it brings about. -/
theorem turns_poll (hp : p.Ordered) (hw : p.work? t = some w) (turn : w.wait? p t = some .turn)
    (punctual : d → p.Punctual t w) :
    ∃ n < w.toGo, Turns d t n p (w.poll t p).1 (w.poll t p).2 := by
  have hstake := Pool.stake_of_work? hw
  rcases w with ⟨r, _ | ⟨i, k, n⟩ | ⟨i, g, due⟩ | ⟨i, g, due, deadline⟩ | result⟩ |
    ⟨w, _ | due | _⟩
  · -- an unstarted request
    have haway : p.Away t := hp.away (by rw [hstake]; rfl)
    refine ⟨10 + 2 * Request.maxPicks, by simp [toGo], ?_⟩
    dsimp only [poll, Request.poll]
    split
    · exact ⟨⟨0, .refl t p, Nat.zero_le _⟩, punctual, nofun⟩
    · exact Request.turns_run _ haway punctual
  · have holds : p.holds i t = true := by
      by_contra hn
      simp [wait?, hn] at turn
    exact ⟨11 + 2 * n, by simp [toGo], Request.turns_pollQueued hp holds punctual⟩
  · have ended : due ≤ p.now := by
      by_contra hn
      simp [wait?, hn] at turn
    exact ⟨7, by simp [toGo], Request.turns_pollLoad_ended ended punctual⟩
  · have came : Request.seekCame p due deadline = true := by
      by_contra hn
      rw [Request.seekCame] at hn
      simp [wait?, hn] at turn
    exact Request.turns_pollSeek_came came punctual
  · cases turn
  · -- an unstarted load in advance
    refine ⟨2 + 2, by simp [toGo], ?_⟩
    have hdues : d → _ := fun hd => Pool.duesOf_startLoad (punctual hd) w.slot w.url
    exact (Warmup.turns_pollLoad hdues).after (.startLoad t p w.slot w.url)
  · have ended : due ≤ p.now := by
      by_contra hn
      simp [wait?, hn] at turn
    exact ⟨1, by simp [toGo], Warmup.turns_pollLoad_ended ended punctual⟩
  · cases turn

/-- Work that waits for anything else is left as it is. -/
lemma poll_of_waits (h : w.wait? p t ≠ some .turn) : w.poll t p = (p, w) := by
  rcases w with ⟨r, _ | ⟨i, k, n⟩ | ⟨i, g, due⟩ | ⟨i, g, due, deadline⟩ | result⟩ |
    ⟨w, _ | due | _⟩
  · exact absurd rfl h
  · have holds : p.holds i t = false := by
      by_contra hn
      simp [wait?, hn] at h
    simp [poll, Request.poll, Request.pollQueued, holds]
  · have early : ¬due ≤ p.now := by
      intro hn
      simp [wait?, hn] at h
    simp [poll, Request.poll, Request.pollLoad, early]
  · have early : Request.seekCame p due deadline = false := by
      by_contra hn
      rw [Request.seekCame] at hn
      simp [wait?, hn] at h
    simp [poll, Request.poll, Request.pollSeek_early early]
  · rfl
  · exact absurd rfl h
  · have early : ¬due ≤ p.now := by
      intro hn
      simp [wait?, hn] at h
    simp [poll, Warmup.poll, Warmup.pollLoad, early]
  · rfl

/-- **A turn never spends more than it may**, whatever the work waits for. -/
theorem turns (hp : p.Ordered) (hw : p.work? t = some w) (punctual : d → p.Punctual t w) :
    Turns d t w.toGo p (w.poll t p).1 (w.poll t p).2 := by
  by_cases turn : w.wait? p t = some .turn
  · obtain ⟨n, hn, h⟩ := turns_poll hp hw turn punctual
    exact h.mono (Nat.le_of_lt hn)
  · rw [poll_of_waits turn]
    exact ⟨⟨0, .refl t p, Nat.le_of_eq (Nat.zero_add _)⟩, punctual, turn⟩

end Work

end Montage
