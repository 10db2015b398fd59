import Mathlib.Data.List.Induction
import Montage.Proofs.Pool.Works

/-!
Runs of a pool: everything that can happen to it, in any order.

Requests are taken on and carried on a step at a time, and so are loads in advance; in between
assets are taken out, time passes, the backend behaves differently, and elements are played with
from outside. A run is traced by the notes that its steps leave.
-/

namespace Montage

namespace Pool

/-- Something that happens to a pool. -/
inductive Event where
  /-- A request is taken on as a task of its own. -/
  | request (r : Request)
  /-- The main task makes a request, if it has none under way. -/
  | call (r : Request)
  /-- A task is carried on as far as it goes without time passing. -/
  | resume (task : TaskId)
  /-- What has come of a request is handed out, if it is over. -/
  | collect (task : TaskId)
  | preload (upcoming : List AssetId) (assets : AssetTable)
  | release (asset : AssetId)
  | reset
  | dispose
  | pauseExcept (active : List AssetId)
  /-- An element is played with from outside. -/
  | element (i : Nat) (f : Element → Element)
  | attend (on : Bool)
  | backend (b : Backend)
  /-- Time passes, turns are given out, and tasks are started that are not the pool's. -/
  | schedule (a : Agenda)

def Event.apply (p : Pool) : Event → Pool
  | request r => (p.spawn r).2
  | call r => if (p.work? .main).isNone then p.take .main r else p
  | resume task => p.resume task
  | collect task => if p.isOver task then (p.collect task).1 else p
  | preload upcoming assets => (p.preload upcoming assets).2
  | release asset => (p.release asset).2
  | reset => p.reset
  | dispose => p.dispose
  | pauseExcept active => p.pauseExcept active
  | element i f => p.modifyElement i f
  | attend on => { p with attended := on }
  | backend b => { p with backend := b }
  | schedule a => { p with agenda := { a with started := max p.agenda.started a.started } }

/-- A note that an event may leave. -/
def Event.Leaves (p : Pool) : Event → Note → Prop
  | resume task, n => ∃ w, p.work? task = some w ∧ w.Leaves task n
  | preload .., n => ∃ t i g, n = .bound t i g ∧ (p.slot i).asset = none
  | release _, n | reset, n | dispose, n => ∃ i, n = .unbound i
  | _, _ => False

/-- The pool after some events. -/
def run (p : Pool) (es : List Event) : Pool := es.foldl Event.apply p

/-- Notes that the events of a run leave one after the other. -/
inductive Traced (p : Pool) : List Event → List Note → Prop
  | nil : Traced p [] []
  | snoc {es : List Event} {e : Event} {ns ms : List Note} (h : Traced p es ns)
      (course : Course (p.run es).account ms (e.apply (p.run es)).account)
      (leaves : ∀ n ∈ ms, e.Leaves (p.run es) n) : Traced p (es ++ [e]) (ns ++ ms)

variable {p q : Pool}

@[simp] lemma run_nil (p : Pool) : p.run [] = p := rfl

lemma run_append (p : Pool) (es es' : List Event) : p.run (es ++ es') = (p.run es).run es' :=
  List.foldl_append

lemma run_concat (p : Pool) (es : List Event) (e : Event) :
    p.run (es ++ [e]) = e.apply (p.run es) :=
  run_append p es [e]

lemma Ordered.book (hp : p.Ordered) (hq : p.Agrees q) (hs : q.stake = p.stake)
    (hstarted : ∀ e ∈ q.work, e.1 ≤ q.agenda.started) :
    Course p.account [] q.account ∧ q.Ordered := by
  have hcourse : Course p.account [] q.account := Course.refl.settle hq hs
  exact ⟨hcourse, hcourse.good hp.good, hstarted⟩

lemma Ordered.modifyElement (hp : p.Ordered) (i : Nat) (f : Element → Element) :
    (p.modifyElement i f).Ordered :=
  (hp.book (p.agrees_modifyElement i f) rfl hp.started).2

lemma agrees_pauseExcept (p : Pool) (active : List AssetId) : p.Agrees (p.pauseExcept active) where
  size := by simp [pauseExcept, size]
  clock := rfl
  disposed := rfl
  slot i := by
    simp only [slot, pauseExcept, List.getElem?_map]
    rcases p.slots[i]? with _ | s
    · rfl
    · dsimp only [Option.map_some, Option.getD_some]
      split
      · rfl
      · split <;> rfl

lemma Ordered.unbind {i : Nat} (hp : p.Ordered) (hlt : i < p.size) :
    Course p.account [.unbound i] (p.unbind i).account ∧ (p.unbind i).Ordered := by
  have hmove : Move p.account [.unbound i] (p.unbind i).account := .unbind hlt
  have hcourse := Course.of_moves (.of_move hmove)
  exact ⟨hcourse, hcourse.good hp.good, hp.started⟩

lemma Ordered.reset (hp : p.Ordered) :
    Course p.account ((List.range p.size).map .unbound) p.reset.account ∧ p.reset.Ordered := by
  have hmove : Move p.account _ p.reset.account := .reset
  have hcourse := Course.of_moves (.of_move hmove)
  exact ⟨hcourse, hcourse.good hp.good, hp.started⟩

lemma Ordered.dispose (hp : p.Ordered) :
    Course p.account ((List.range p.size).map .unbound) p.dispose.account ∧ p.dispose.Ordered := by
  have hempty : ∀ i, (p.reset.slot i).asset = none := by
    intro i
    rw [slot_reset]
    split
    · rfl
    · next hi => rw [slot_of_size_le p (Nat.not_lt.mp hi)]
  have hclose : Move p.reset.account [] p.dispose.account := .close hempty
  have hcourse := hp.reset.1.trans (Course.of_moves (.of_move hclose))
  rw [List.append_nil] at hcourse
  exact ⟨hcourse, hcourse.good hp.good, hp.started⟩

lemma work?_of_result? {t : TaskId} {result : Except MediaError Handle}
    (h : p.result? t = some result) : ∃ r, p.work? t = some (.request r (.done result)) := by
  unfold result? at h
  split at h
  · next r _ hw =>
    cases h
    exact ⟨r, hw⟩
  · simp at h

lemma stake_of_isOver {t : TaskId} (h : p.isOver t = true) : p.stake t = .none := by
  obtain ⟨result, hr⟩ := Option.isSome_iff_exists.mp h
  obtain ⟨r, hw⟩ := work?_of_result? hr
  exact stake_of_work? hw

/-- **Every event is a course**, keeps the pool in order and leaves no notes but its own. -/
theorem Event.course (e : Event) (hp : p.Ordered) :
    ∃ ns, (Course p.account ns (e.apply p).account ∧ (e.apply p).Ordered) ∧
      ∀ n ∈ ns, e.Leaves p n := by
  cases e with
  | request r =>
    refine ⟨[], hp.book ⟨rfl, rfl, rfl, fun _ => rfl⟩ ?_ fun e he => ?_, by simp⟩
    · exact stake_take { p with agenda := p.agenda.start.2 } _ r
    · rcases List.mem_append.mp he with he | he
      · exact Nat.le_succ_of_le (hp.started e he)
      · rw [List.mem_singleton.mp he]
        exact Nat.le_refl _
  | call r =>
    simp only [apply]
    split
    · refine ⟨[], hp.book ⟨rfl, rfl, rfl, fun _ => rfl⟩ (stake_take p _ r) fun e he => ?_, by simp⟩
      rcases List.mem_append.mp he with he | he
      · exact hp.started e he
      · rw [List.mem_singleton.mp he]
        exact Nat.zero_le _
    · exact ⟨[], ⟨.refl, hp⟩, by simp⟩
  | resume task =>
    rcases hw : p.work? task with _ | w
    · rw [apply, resume_eq_self hw]
      exact ⟨[], ⟨.refl, hp⟩, by simp⟩
    · obtain ⟨ns, hns, hleaves⟩ := course_resume hp hw
      exact ⟨ns, hns, fun n hn => ⟨w, hw, hleaves n hn⟩⟩
  | collect task =>
    simp only [apply]
    split
    · next hover =>
      have hnone := stake_of_isOver hover
      refine ⟨[], hp.book ⟨rfl, rfl, rfl, fun _ => rfl⟩ (stake_forget hnone) fun e he => ?_,
        by simp⟩
      exact hp.started e (List.mem_filter.mp he).1
    · exact ⟨[], ⟨.refl, hp⟩, by simp⟩
  | preload upcoming assets =>
    obtain ⟨ns, hns, hordered, hleaves⟩ := course_preload hp upcoming assets
    exact ⟨ns, ⟨hns, hordered⟩, hleaves⟩
  | release asset =>
    simp only [apply, Pool.release]
    split
    · next i hi =>
      have hlt := p.lt_size_of_asset (slotOf?_eq_some hi)
      exact ⟨[.unbound i], hp.unbind hlt, by simp [Leaves]⟩
    · exact ⟨[], ⟨.refl, hp⟩, by simp⟩
  | reset => exact ⟨_, hp.reset, by simp [Leaves]⟩
  | dispose => exact ⟨_, hp.dispose, by simp [Leaves]⟩
  | pauseExcept active => exact ⟨[], hp.book (p.agrees_pauseExcept active) rfl hp.started, by simp⟩
  | element i f => exact ⟨[], hp.book (p.agrees_modifyElement i f) rfl hp.started, by simp⟩
  | attend | backend =>
    exact ⟨[], hp.book ⟨rfl, rfl, rfl, fun _ => rfl⟩ rfl hp.started, by simp⟩
  | schedule a =>
    have hstarted : ∀ e ∈ p.work, e.1 ≤ max p.agenda.started a.started := fun e he =>
      Nat.le_trans (hp.started e he) (Nat.le_max_left _ _)
    exact ⟨[], hp.book ⟨rfl, rfl, rfl, fun _ => rfl⟩ rfl hstarted, by simp⟩

@[simp] lemma stake_new (config : PoolConfig) (backend : Backend) (t : TaskId) :
    (Pool.new config backend).stake t = .none := rfl

lemma Ordered.new (config : PoolConfig) (backend : Backend) :
    (Pool.new config backend).Ordered := by
  refine ⟨⟨Tidy.new config backend, ?_, ?_⟩, by simp [Pool.new]⟩
  · refine ⟨fun {i} _ => ?_, fun {t i} => ?_, fun i => ?_, fun {t i} h => ?_⟩
    · simp [account]
    · simp [account, Lock.tasks]
    · simp [account, Lock.tasks]
    · simp [account] at h
  · refine ⟨fun {t i g a} h => ?_, fun {t i g a} h => ?_, fun {i} h => ?_⟩
    all_goals simp [account] at h

lemma Ordered.run (hp : p.Ordered) (es : List Event) : (p.run es).Ordered := by
  induction es using List.reverseRecOn with
  | nil => exact hp
  | append_singleton es e ih =>
    obtain ⟨ns, ⟨-, h⟩, -⟩ := e.course ih
    rw [run_concat]
    exact h

namespace Traced

variable {es : List Event} {ns : List Note}

lemma exists_of (hp : p.Ordered) (es : List Event) : ∃ ns, p.Traced es ns := by
  induction es using List.reverseRecOn with
  | nil => exact ⟨[], .nil⟩
  | append_singleton es e ih =>
    obtain ⟨ns, h⟩ := ih
    obtain ⟨ms, ⟨hcourse, -⟩, hleaves⟩ := e.course (hp.run es)
    exact ⟨ns ++ ms, .snoc h hcourse hleaves⟩

lemma course (h : p.Traced es ns) : Course p.account ns (p.run es).account := by
  induction h with
  | nil => exact .refl
  | snoc _ hcourse _ ih =>
    rw [run_concat]
    exact ih.trans hcourse

end Traced

lemma Ordered.size_run (hp : p.Ordered) (es : List Event) : (p.run es).size = p.size := by
  obtain ⟨ns, hns⟩ := Traced.exists_of hp es
  exact hns.course.size

lemma recalled_new (config : PoolConfig) (backend : Backend) :
    (Pool.new config backend).account.Recalled [] := by
  refine ⟨fun {t x} h => ?_, fun {t i g a} h => ?_⟩
  · simp [account, Stake.pick?] at h
  · simp [account] at h

/-- **The table of slots at any time.** Its size is fixed and no asset has two slots; a slot that is
unbound was never used and is neither loading nor prepared, and one that is bound is one of the two
and was used at a time of its own; whoever bound a slot that loads holds its lock; and a generation
counts how often its slot was bound and unbound, which is all that changes what it is bound to. -/
theorem table_of_run (config : PoolConfig) (backend : Backend) (es es' : List Event) :
    let p := (Pool.new config backend).run es
    let q := p.run es'
    p.size = max config.poolSize.toNat 1 ∧
    (∀ i j a, (p.slot i).asset = some a → (p.slot j).asset = some a → i = j) ∧
    (∀ i, (p.slot i).asset = none ↔ (p.slot i).lastUsed = 0) ∧
    (∀ i, (p.slot i).asset = none → (p.slot i).loading = false ∧ (p.slot i).prepared = false) ∧
    (∀ i, (p.slot i).asset ≠ none → (p.slot i).loading = !(p.slot i).prepared) ∧
    (∀ i, (p.slot i).asset ≠ none → (p.slot i).lastUsed ≤ p.clock) ∧
    (∀ i j, (p.slot i).asset ≠ none → (p.slot j).asset ≠ none →
      (p.slot i).lastUsed = (p.slot j).lastUsed → i = j) ∧
    ∃ ns ms, (Pool.new config backend).Traced es ns ∧ p.Traced es' ms ∧
      (∀ i, (p.slot i).loading = true → ∃ t a, (p.slot i).lock.holder = some t ∧
        Note.binder ns i = some t ∧ p.stake t = .loading i (p.slot i).generation a ∧
          (p.slot i).asset = some a) ∧
      (∀ i, (p.slot i).generation = ns.countP (Note.rebinds i)) ∧
      (∀ i, (q.slot i).generation = (p.slot i).generation + ms.countP (Note.rebinds i)) ∧
      ∀ i, ms.countP (Note.rebinds i) = 0 → (q.slot i).asset = (p.slot i).asset := by
  intro p q
  have hnew := Ordered.new config backend
  have hp : p.Ordered := hnew.run es
  obtain ⟨ns, hns⟩ := Traced.exists_of hnew es
  obtain ⟨ms, hms⟩ := Traced.exists_of hp es'
  have hrecalled := hns.course.recalled hnew.good (recalled_new config backend)
  have hsound := hp.good.tidy.sound
  refine ⟨?_, fun i j a => hp.good.tidy.distinct, fun i => (hsound i).asset_eq_none_iff,
    fun i => (hsound i).flags_of_unbound, fun i => (hsound i).flags_of_bound,
    fun i _ => (hsound i).lastUsed_le, fun i j hi _ => ?_, ns, ms, hns, hms, fun i hi => ?_,
    fun i => ?_, hms.course.generation, fun i hi => hms.course.asset fun n hn => ?_⟩
  · have hsize : p.size = (Pool.new config backend).size := hns.course.size
    rw [hsize]
    simp [Pool.new, size]
  · exact hp.good.tidy.ages fun h => hi ((hsound i).asset_eq_none_iff.mpr h)
  · obtain ⟨t, a, ht⟩ := hp.good.owned.loader hi
    have hholder := hp.good.fair.held (t := t) (i := i) (by rw [ht]; rfl)
    exact ⟨t, a, hholder, hrecalled.binder ht rfl, ht, ((hp.good.owned.loading ht).2 rfl).2⟩
  · have hgen := hns.course.generation i
    simpa [account] using hgen
  · simpa using List.countP_eq_zero.mp hi n hn

end Pool

end Montage
