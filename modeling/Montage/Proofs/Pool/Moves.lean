import Montage.Proofs.Pool.Slots

/-!
The pool in single moves.

What a task has to do with the slots at a time is its stake. Each step of a request or of a load in
advance is a course of moves: a pick, the taking and handing on of a lock, the end of a load. A
move says all that it does to the slots and to the stakes, and leaves notes of what became of
bindings. Whatever every move keeps is kept by all work on the pool, in any order.
-/

namespace Montage

/-- What a task has to do with the slots. -/
inductive Stake where
  | none
  /-- Has picked a slot that was bound before, at some generation. -/
  | found (slot generation : Nat)
  /-- Waits for the lock or was handed it; with a generation to use the slot as it is bound. -/
  | queued (slot : Nat) (generation : Option Nat)
  /-- Holds the lock and loads the asset it has bound the slot to. -/
  | loading (slot generation : Nat) (asset : AssetId)
  /-- Holds the lock and uses the loaded element. -/
  | serving (slot generation : Nat) (asset : AssetId)

namespace Stake

/-- The slot whose lock is held or waited for. -/
def lock? : Stake → Option Nat
  | none | found .. => .none
  | queued i _ | loading i .. | serving i .. => some i

/-- The slot whose lock is held for certain. -/
def held? : Stake → Option Nat
  | loading i .. | serving i .. => some i
  | _ => .none

/-- The task may let go of the lock of the slot. -/
def leaves (i : Nat) : Stake → Prop
  | queued j _ | serving j .. => j = i
  | _ => False

@[simp] lemma lock?_none : Stake.none.lock? = .none := rfl

@[simp] lemma held?_none : Stake.none.held? = .none := rfl

/-- The slot that was picked, and its generation then. -/
def pick? : Stake → Option (Nat × Nat)
  | none | queued _ .none => .none
  | found i g | queued i (some g) | loading i g _ | serving i g _ => some (i, g)

end Stake

def Request.Stage.stake (r : Request) : Request.Stage → Stake
  | unstarted | done _ => .none
  | queued i g _ => .queued i g
  | loading i g _ => .loading i g r.asset.id
  | seeking i g _ _ => .serving i g r.asset.id

def Warmup.Stage.stake (w : Warmup) : Warmup.Stage → Stake
  | unstarted | loading _ => .loading w.slot w.generation w.asset
  | done => .none

def Work.stake : Work → Stake
  | request r stage => stage.stake r
  | warmup w stage => stage.stake w

/-- What became of a binding. -/
inductive Note where
  /-- A request has found its asset bound. -/
  | found (task : TaskId) (slot generation : Nat)
  | bound (task : TaskId) (slot generation : Nat)
  /-- A load has failed, and the slot was unbound. -/
  | failed (task : TaskId) (slot : Nat)
  /-- Somebody has taken the asset out of the pool. -/
  | unbound (slot : Nat)

namespace Note

/-- Whether a slot was bound or unbound. -/
def rebinds (i : Nat) : Note → Bool
  | found .. => false
  | bound _ j _ | failed _ j | unbound j => j == i

/-- Whether a slot was bound to another asset than before, or taken away. -/
def evicts (i : Nat) : Note → Bool
  | found .. | failed .. => false
  | bound _ j _ | unbound j => j == i

/-- What the last note says that says anything. -/
def last {α : Type} (f : Note → Option α) (ns : List Note) : Option α := ns.reverse.findSome? f

def binderOf (i : Nat) : Note → Option TaskId
  | bound t j _ => if j = i then some t else none
  | _ => none

def pickOf (t : TaskId) : Note → Option (Nat × Nat)
  | found u i g | bound u i g => if u = t then some (i, g) else none
  | _ => none

/-- The task that bound a slot last. -/
def binder (ns : List Note) (i : Nat) : Option TaskId := last (binderOf i) ns

/-- The slot that a task picked last, and the generation it found it at or gave it. -/
def picked (ns : List Note) (t : TaskId) : Option (Nat × Nat) := last (pickOf t) ns

@[simp] lemma last_nil {α : Type} (f : Note → Option α) : last f [] = none := rfl

@[simp] lemma last_singleton {α : Type} (f : Note → Option α) (n : Note) : last f [n] = f n := by
  simp [last]

@[simp] lemma last_append {α : Type} (f : Note → Option α) (ns ms : List Note) :
    last f (ns ++ ms) = (last f ms).or (last f ns) := by
  simp [last, List.findSome?_append]

end Note

namespace Pool

def stake (p : Pool) (task : TaskId) : Stake :=
  match p.work? task with
  | none => .none
  | some w => w.stake

/-- The pools differ in elements and in what is not about slots. -/
structure Agrees (p q : Pool) : Prop where
  size : q.size = p.size
  clock : q.clock = p.clock
  disposed : q.disposed = p.disposed
  slot : ∀ i, (q.slot i).bare = (p.slot i).bare

/-- The pools differ in elements, the backend, timers and ready tasks. -/
structure Still (p q : Pool) : Prop extends p.Agrees q where
  work : q.work = p.work
  started : q.agenda.started = p.agenda.started
  config : q.config = p.config

/-- The use of a slot is counted. -/
def touch (p : Pool) (i : Nat) : Pool :=
  p.countUse.modifySlot i fun s => { s with lastUsed := p.countUse.clock }

/-- A task takes the lock of a slot and binds it. -/
def rebind (p : Pool) (t : TaskId) (i : Nat) (a : AssetId) : Pool :=
  (p.countUse.lock i t).bind i a

@[simp] lemma size_touch (p : Pool) (i : Nat) : (p.touch i).size = p.size := by simp [touch]

@[simp] lemma slot_touch (p : Pool) (i j : Nat) : (p.touch i).slot j =
    if i = j ∧ i < p.size then { p.slot j with lastUsed := p.clock + 1 } else p.slot j := by
  rw [touch, slot_modifySlot]
  rfl

@[simp] lemma isFree_touch (p : Pool) (i j : Nat) : (p.touch i).isFree j = p.isFree j := by
  rw [isFree, slot_touch]
  split <;> rfl

@[simp] lemma size_rebind (p : Pool) (t : TaskId) (i : Nat) (a : AssetId) :
    (p.rebind t i a).size = p.size := by
  simp [rebind]

@[simp] lemma slot_rebind (p : Pool) (t : TaskId) (i j : Nat) (a : AssetId) :
    (p.rebind t i a).slot j = if i = j ∧ i < p.size then
      { (p.slot j).bind p.now a (p.clock + 1) with lock := (p.slot j).lock.take t }
    else p.slot j := by
  rw [rebind, slot_bind, slot_lock, size_lock, size_countUse]
  split <;> rfl

lemma Agrees.refl (p : Pool) : p.Agrees p := ⟨rfl, rfl, rfl, fun _ => rfl⟩

lemma agrees_modifyElement (p : Pool) (i : Nat) (f : Element → Element) :
    p.Agrees (p.modifyElement i f) where
  size := p.size_modifyElement i f
  clock := rfl
  disposed := rfl
  slot j := by
    rw [slot_modifyElement]
    split <;> rfl

lemma still_modifyElement (p : Pool) (i : Nat) (f : Element → Element) :
    p.Still (p.modifyElement i f) :=
  ⟨p.agrees_modifyElement i f, rfl, rfl, rfl⟩

end Pool

/-- A pool, and the stakes of its tasks. -/
structure Account where
  pool : Pool
  stake : TaskId → Stake

namespace Account

/-- The account after a task's stake has changed along with the pool. -/
def put (c : Account) (p : Pool) (t : TaskId) (s : Stake) : Account :=
  ⟨p, Function.update c.stake t s⟩

end Account

def Pool.account (p : Pool) : Account := ⟨p, p.stake⟩

/-- What a single step of some work does. -/
inductive Move (c : Account) : List Note → Account → Prop
  | still {q : Pool} (h : c.pool.Still q) : Move c [] ⟨q, c.stake⟩
  | count : Move c [] ⟨c.pool.countUse, c.stake⟩
  /-- The asset is bound to the slot already. -/
  | keep {t : TaskId} {a : AssetId} {i : Nat} (idle : c.stake t = .none)
      (bound : c.pool.slotOf? a = some i) :
      Move c [.found t i (c.pool.slot i).generation]
        (c.put (c.pool.touch i) t (.found i (c.pool.slot i).generation))
  | take {t : TaskId} {a : AssetId} {i : Nat} (idle : c.stake t = .none)
      (alive : c.pool.disposed = false) (unbound : c.pool.slotOf? a = none)
      (free : c.pool.isFree i = true) (lt : i < c.pool.size) :
      Move c [.bound t i ((c.pool.slot i).generation + 1)]
        (c.put (c.pool.rebind t i a) t (.loading i ((c.pool.slot i).generation + 1) a))
  /-- Waits for a slot that another task works on. -/
  | wait {t : TaskId} {i : Nat} {g : Option Nat} (busy : c.pool.isFree i = false)
      (was : c.stake t = match g with
        | none => .none
        | some g => .found i g) :
      Move c [] (c.put (c.pool.enqueue i t) t (.queued i g))
  | enter {t : TaskId} {i g : Nat} (was : c.stake t = .found i g)
      (free : c.pool.isFree i = true) (lt : i < c.pool.size) :
      Move c [] (c.put (c.pool.lock i t) t (.queued i (some g)))
  /-- The slot is as it was when it was picked. -/
  | serve {t : TaskId} {i g : Nat} {a : AssetId} (was : c.stake t = .queued i (some g))
      (holds : c.pool.holds i t = true) (serves : (c.pool.slot i).serves a g = true) :
      Move c [] (c.put c.pool t (.serving i g a))
  | load {t : TaskId} {i g : Nat} {a : AssetId} (was : c.stake t = .loading i g a)
      (same : (c.pool.slot i).generation = g) :
      Move c [] (c.put (c.pool.modifySlot i Slot.finishLoad) t (.serving i g a))
  | fail {t : TaskId} {i g : Nat} {a : AssetId} (was : c.stake t = .loading i g a)
      (same : (c.pool.slot i).generation = g) (holds : c.pool.holds i t = true) :
      Move c [.failed t i] (c.put (c.pool.unbind i) t (.queued i none))
  /-- The slot was taken away during the load. -/
  | lose {t : TaskId} {i g : Nat} {a : AssetId} (was : c.stake t = .loading i g a)
      (lost : c.pool.isLost i g = true) :
      Move c [] (c.put c.pool t (.queued i none))
  | leave {t : TaskId} {i : Nat} (was : (c.stake t).leaves i) (holds : c.pool.holds i t = true) :
      Move c [] (c.put (c.pool.unlock i) t .none)
  | unbind {i : Nat} (lt : i < c.pool.size) : Move c [.unbound i] ⟨c.pool.unbind i, c.stake⟩
  | reset : Move c ((List.range c.pool.size).map .unbound) ⟨c.pool.reset, c.stake⟩
  | close (empty : ∀ i, (c.pool.slot i).asset = none) :
      Move c [] ⟨{ c.pool with disposed := true }, c.stake⟩

/-- Moves one after the other, and the notes they leave. -/
inductive Moves (c : Account) : List Note → Account → Prop
  | refl : Moves c [] c
  | step {ns ms : List Note} {d e : Account} (h : Moves c ns d) (m : Move d ms e) :
      Moves c (ns ++ ms) e

namespace Moves

variable {c d e : Account} {ns ms : List Note}

lemma of_move (m : Move c ns d) : Moves c ns d := .step .refl m

lemma trans (h : Moves c ns d) (k : Moves d ms e) : Moves c (ns ++ ms) e := by
  induction k with
  | refl => simpa using h
  | step _ m ih => simpa using Moves.step ih m

end Moves

lemma Move.frame {c d : Account} {ns : List Note} (m : Move c ns d) :
    d.pool.work = c.pool.work ∧ d.pool.agenda.started = c.pool.agenda.started ∧
      d.pool.config = c.pool.config ∧ d.pool.size = c.pool.size := by
  cases m with
  | still h => exact ⟨h.work, h.started, h.config, h.size⟩
  | leave => simp [Account.put]
  | reset => exact ⟨rfl, rfl, rfl, Pool.size_reset _⟩
  | close => exact ⟨rfl, rfl, rfl, rfl⟩
  | _ =>
    refine ⟨rfl, rfl, rfl, ?_⟩
    simp [Account.put]

lemma Moves.frame {c d : Account} {ns : List Note} (h : Moves c ns d) :
    d.pool.work = c.pool.work ∧ d.pool.agenda.started = c.pool.agenda.started ∧
      d.pool.config = c.pool.config ∧ d.pool.size = c.pool.size := by
  induction h with
  | refl => exact ⟨rfl, rfl, rfl, rfl⟩
  | step _ m ih =>
    obtain ⟨hw, hs, hc, hn⟩ := m.frame
    exact ⟨hw.trans ih.1, hs.trans ih.2.1, hc.trans ih.2.2.1, hn.trans ih.2.2.2⟩

end Montage
