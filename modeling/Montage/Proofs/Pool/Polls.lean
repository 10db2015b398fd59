import Montage.Proofs.Pool.Notes

/-!
Requests and loads in advance are carried on by moves.

For each step of a request the statement is the same (`Request.Goes`): the step is a course of
moves, it binds no pinned slot, and a handle that comes of it names a slot which serves the asset
at the generation of the request's last pick.
-/

namespace Montage

lemma Account.put_put (c : Account) (p q : Pool) (t : TaskId) (r s : Stake) :
    (c.put p t r).put q t s = c.put q t s := by
  simp [Account.put]

lemma Account.put_self {c : Account} {t : TaskId} {s : Stake} (h : c.stake t = s) (p : Pool) :
    c.put p t s = ⟨p, c.stake⟩ := by
  simp [Account.put, ← h]

@[simp] lemma Account.pool_put (c : Account) (p : Pool) (t : TaskId) (s : Stake) :
    (c.put p t s).pool = p := rfl

@[simp] lemma Account.stake_put (c : Account) (p : Pool) (t : TaskId) (s : Stake) :
    (c.put p t s).stake t = s := by
  simp [Account.put]

/-- A note that the request of a task may leave. -/
def Note.Allowed (t : TaskId) (pinned : List Nat) : Note → Prop
  | found u .. | failed u _ => u = t
  | bound u i _ => u = t ∧ i ∉ pinned
  | unbound _ => False

namespace Pool

variable {p : Pool} {t : TaskId} {a : AssetId} {i g : Nat}

/-- What a pick does to the pool and what it gives. -/
inductive Picks (p : Pool) (t : TaskId) (a : AssetId) (pinned : List Nat) :
    Pool × Except MediaError Pick → Prop
  | disposed (h : p.disposed = true) : Picks p t a pinned (p, .error .disposed)
  | kept {i : Nat} (h : p.slotOf? a = some i) :
      Picks p t a pinned (p.touch i, .ok (.kept i (p.slot i).generation))
  | taken {i : Nat} (alive : p.disposed = false) (h : p.slotOf? a = none)
      (free : p.isFree i = true) (lt : i < p.size) (hi : i ∉ pinned) :
      Picks p t a pinned (p.rebind t i a, .ok (.taken i ((p.slot i).generation + 1)))
  | awaited {i : Nat} : Picks p t a pinned (p.countUse, .ok (.awaited i))
  | exhausted : Picks p t a pinned (p.countUse, .error (.poolExhausted a))

lemma picks (p : Pool) (t : TaskId) (a : AssetId) (pinned : List Nat) :
    Picks p t a pinned (p.pick t a pinned) := by
  have hof : p.countUse.slotOf? a = p.slotOf? a := rfl
  have hage : p.countUse.byAge pinned = p.byAge pinned := rfl
  have hfree : p.countUse.isFree = p.isFree := rfl
  unfold pick
  split
  · next hd => exact .disposed hd
  · next hd =>
    simp only [hof, hage, hfree]
    rcases ha : p.slotOf? a with _ | i
    · rcases hb : (p.byAge pinned).find? p.isFree with _ | i
      · rcases p.byAge pinned with _ | ⟨i, rest⟩
        · exact .exhausted
        · exact .awaited
      · have hmem := mem_byAge.mp (List.mem_of_find?_eq_some hb)
        have hg : ((p.rebind t i a).slot i).generation = (p.slot i).generation + 1 := by
          simp [hmem.1, Slot.bind]
        have hpick := Picks.taken (t := t) (by simpa using hd) ha (List.find?_some hb) hmem.1 hmem.2
        rw [← hg] at hpick
        exact hpick
    · have hg : ((p.touch i).slot i).generation = (p.slot i).generation := by
        rw [slot_touch]
        split <;> rfl
      have hpick : Picks p t a pinned _ := .kept ha
      rw [← hg] at hpick
      exact hpick

/-- What becomes of a load that is over. -/
inductive Finishes (p : Pool) (i g : Nat) (a : AssetId) : Pool × Except MediaError Unit → Prop
  | lost (h : p.isLost i g = true) : Finishes p i g a (p, .error (.abandoned a))
  | loaded (h : (p.slot i).generation = g) :
      Finishes p i g a (p.modifySlot i Slot.finishLoad, .ok ())
  | failed {e : MediaError} (h : (p.slot i).generation = g) :
      Finishes p i g a (p.unbind i, .error e)

lemma finishes (p : Pool) (i g : Nat) (a : AssetId) (url : String) :
    Finishes p i g a (p.finishLoad i g a url) := by
  unfold finishLoad
  split
  · next h => exact .lost h
  · next h =>
    have hg : (p.slot i).generation = g := by
      simp only [isLost, Bool.or_eq_true, bne_iff_ne, ne_eq, not_or, not_not] at h
      exact h.2
    split
    · exact .loaded hg
    · exact .failed hg

lemma still_agenda (p : Pool) (b : Backend) (a : Agenda) (h : a.started = p.agenda.started) :
    p.Still { p with backend := b, agenda := a } :=
  ⟨⟨rfl, rfl, rfl, fun _ => rfl⟩, rfl, h, rfl⟩

lemma still_beginLoad (p : Pool) (i : Nat) (url : String) (t : TaskId) :
    p.Still { p.beginLoad i url with
      agenda := (p.beginLoad i url).agenda.sleepUntil t (p.now + p.backend.loadMs) } := by
  have h := p.agrees_modifyElement i fun e => e.beginLoad url
  have hstarted := (p.beginLoad i url).agenda.started_sleepUntil t (p.now + p.backend.loadMs)
  exact ⟨⟨h.size, h.clock, h.disposed, h.slot⟩, rfl, hstarted, rfl⟩

end Pool

namespace Request

variable {c : Account} {t : TaskId} {r : Request} {i g : Nat} {ms : List Note}

/-- A step of a request, and what holds when a handle comes of it. -/
def Goes (t : TaskId) (r : Request) (c : Account) (out : Pool × Stage) : Prop :=
  ∃ ns, Moves c ns (c.put out.1 t (out.2.stake r)) ∧ (∀ n ∈ ns, n.Allowed t r.pinned) ∧
    ∀ h, out.2 = .done (.ok h) → h.asset = r.asset.id ∧
      ∃ g, (out.1.slot h.slot).serves r.asset.id g = true ∧
        (Note.picked ns t).or (c.stake t).pick? = some (h.slot, g)

lemma Goes.after {q : Pool} {s : Stake} {out : Pool × Stage} (h : Goes t r (c.put q t s) out)
    (hm : Moves c ms (c.put q t s)) (ha : ∀ n ∈ ms, n.Allowed t r.pinned)
    (hp : ∀ x, s.pick? = some x → (Note.picked ms t).or (c.stake t).pick? = some x) :
    Goes t r c out := by
  obtain ⟨ns, hn, hallowed, hdone⟩ := h
  rw [Account.put_put] at hn
  refine ⟨ms ++ ns, hm.trans hn, fun n hmem => ?_, fun h hout => ?_⟩
  · rcases List.mem_append.mp hmem with hmem | hmem
    · exact ha n hmem
    · exact hallowed n hmem
  · obtain ⟨hasset, k, hserves, hpick⟩ := hdone h hout
    refine ⟨hasset, k, hserves, ?_⟩
    rw [Note.picked_append]
    rcases hpn : Note.picked ns t with _ | y
    · rw [hpn, Option.none_or, Account.stake_put] at hpick
      exact hp _ hpick
    · rw [hpn] at hpick
      exact hpick

lemma Goes.after_move {q : Pool} {s : Stake} {out : Pool × Stage}
    (h : Goes t r (c.put q t s) out) (hm : Move c [] (c.put q t s))
    (hp : ∀ x, s.pick? = some x → (c.stake t).pick? = some x) : Goes t r c out :=
  h.after (.of_move hm) (by simp) (by simpa [Note.picked] using hp)

lemma Goes.after_still {q : Pool} {out : Pool × Stage} (h : Goes t r ⟨q, c.stake⟩ out)
    (hq : c.pool.Still q) : Goes t r c out := by
  have he : c.put q t (c.stake t) = ⟨q, c.stake⟩ := Account.put_self rfl q
  refine Goes.after_move (q := q) (s := c.stake t) ?_ ?_ fun x hx => hx
  · rw [he]
    exact h
  · rw [he]
    exact .still hq

lemma Goes.stay {s : Stage} (hs : c.stake t = s.stake r) (hd : ∀ h, s ≠ .done (.ok h)) :
    Goes t r c (c.pool, s) := by
  refine ⟨[], ?_, by simp, fun h hout => absurd hout (hd h)⟩
  rw [Account.put_self hs]
  exact .refl

lemma goes_finish {result : Except MediaError Handle} (was : (c.stake t).leaves i)
    (holds : c.pool.holds i t = true)
    (hres : ∀ h, result = .ok h → h.asset = r.asset.id ∧ h.slot = i ∧
      ∃ g, (c.pool.slot i).serves r.asset.id g = true ∧ (c.stake t).pick? = some (i, g)) :
    Goes t r c (finish t c.pool i result) := by
  refine Goes.after_still (q := { c.pool with agenda := c.pool.agenda.stopTimers t }) ?_
    (c.pool.still_agenda _ _ rfl)
  refine ⟨[], .of_move (.leave was holds), by simp, fun h hout => ?_⟩
  obtain ⟨hasset, hslot, k, hserves, hpick⟩ := hres h (by simpa [finish] using hout)
  refine ⟨hasset, k, ?_, by simpa [hslot, Note.picked] using hpick⟩
  rw [hslot, ← hserves]
  refine Slot.serves_of_binding ?_ _ _
  simp only [finish, Pool.slot_unlock]
  split <;> rfl

lemma goes_finishSeek {stale : Bool} (was : c.stake t = .serving i g r.asset.id)
    (holds : c.pool.holds i t = true)
    (hs : (c.pool.slot i).generation = g → (c.pool.slot i).serves r.asset.id g = true) :
    Goes t r c (finishSeek t r c.pool i g stale) := by
  refine goes_finish (by simp [was, Stake.leaves]) holds fun h hres => ?_
  split at hres
  · simp at hres
  · next hlost =>
    cases hres
    have hg : (c.pool.slot i).generation = g := by
      simp only [Pool.isLost, Bool.or_eq_true, bne_iff_ne, ne_eq, not_or, not_not] at hlost
      exact hlost.2
    exact ⟨rfl, rfl, g, hs hg, by simp [was, Stake.pick?]⟩

lemma goes_pollSeek {due : Option Nat} {deadline : Nat}
    (was : c.stake t = .serving i g r.asset.id) (holds : c.pool.holds i t = true)
    (hs : (c.pool.slot i).generation = g → (c.pool.slot i).serves r.asset.id g = true) :
    Goes t r c (pollSeek t r c.pool i g due deadline) := by
  unfold pollSeek
  dsimp only
  split
  · have hq := c.pool.still_modifyElement i fun e => e.finishSeek c.pool.now r.seekTarget
    have hb := hq.binding i
    refine Goes.after_still ?_ hq
    refine goes_finishSeek was ?_ ?_
    · rw [Pool.holds_iff, hq.lock, ← Pool.holds_iff]
      exact holds
    · rw [Slot.serves_of_binding hb, (Slot.binding_eq_iff.mp hb).2.2.2]
      exact hs
  · split
    · exact goes_finishSeek was holds hs
    · exact .stay was (by simp)

lemma goes_moveToTarget (was : c.stake t = .serving i g r.asset.id)
    (holds : c.pool.holds i t = true) (hs : (c.pool.slot i).serves r.asset.id g = true) :
    Goes t r c (moveToTarget t r c.pool i g) := by
  unfold moveToTarget
  dsimp only
  split
  · refine goes_finish (by simp [was, Stake.leaves]) holds fun h hres => ?_
    cases hres
    exact ⟨rfl, rfl, g, hs, by simp [was, Stake.pick?]⟩
  · have hstarted : ((c.pool.agenda.sleepUntil t (c.pool.now + c.pool.backend.seekMs)).sleepUntil t
        (c.pool.now + c.pool.config.seekTimeoutMs.toNat)).started = c.pool.agenda.started := by simp
    have hq := c.pool.still_agenda
      { c.pool.backend with seeks := c.pool.backend.seeks + 1 } _ hstarted
    refine Goes.after_still ?_ hq
    exact goes_pollSeek was holds fun _ => hs

lemma goes_pollLoad {due : Nat} (was : c.stake t = .loading i g r.asset.id)
    (holds : c.pool.holds i t = true)
    (hs : (c.pool.slot i).generation = g → (c.pool.slot i).asset = some r.asset.id) :
    Goes t r c (pollLoad t r c.pool i g due) := by
  have hlt := c.pool.lt_size_of_holds holds
  unfold pollLoad
  split
  · have hf := c.pool.finishes i g r.asset.id r.asset.url
    rcases hout : c.pool.finishLoad i g r.asset.id r.asset.url with ⟨q, result⟩
    rw [hout] at hf
    cases hf with
    | lost hlost =>
      refine Goes.after_move ?_ (.lose was hlost) (by simp [Stake.pick?])
      exact goes_finish (by simp [Stake.leaves]) holds (by simp)
    | loaded hg =>
      refine Goes.after_move ?_ (.load was hg) (by simp [was, Stake.pick?])
      refine goes_moveToTarget (by simp) ?_ ?_
      · simpa [Pool.holds, hlt, Slot.finishLoad] using holds
      · simp [hlt, Slot.serves, Slot.finishLoad, hg, hs hg]
    | failed hg =>
      refine Goes.after ?_ (Moves.of_move (.fail was hg holds)) (by simp [Note.Allowed])
        (by simp [Stake.pick?])
      refine goes_finish (by simp [Stake.leaves]) ?_ (by simp)
      simpa [Pool.holds, hlt, Slot.unbind, Slot.unloadElement] using holds
  · exact .stay was (by simp)

lemma goes_wait {g : Option Nat} {picks : Nat} (busy : c.pool.isFree i = false)
    (was : c.stake t = match g with
      | none => .none
      | some g => .found i g) :
    Goes t r c (c.pool.enqueue i t, .queued i g picks) :=
  ⟨[], .of_move (.wait busy was), by simp, by simp⟩

lemma goes_again {out : Pool × Stage} {k : Option Nat} (was : c.stake t = .queued i k)
    (holds : c.pool.holds i t = true) (h : Goes t r (c.put (c.pool.unlock i) t .none) out) :
    Goes t r c out :=
  h.after_move (.leave (by simp [was, Stake.leaves]) holds) (by simp [Stake.pick?])

lemma goes_serve {again : Pool × Stage} (was : c.stake t = .queued i (some g))
    (holds : c.pool.holds i t = true) (h : Goes t r (c.put (c.pool.unlock i) t .none) again) :
    Goes t r c (if (c.pool.slot i).serves r.asset.id g then moveToTarget t r c.pool i g
      else again) := by
  split
  · next hs =>
    have hmove : Move c [] (c.put c.pool t (.serving i g r.asset.id)) := .serve was holds hs
    refine Goes.after_move ?_ hmove (by simp [was, Stake.pick?])
    exact goes_moveToTarget (by simp) holds hs
  · exact goes_again was holds h

lemma goes_run (n : Nat) (was : c.stake t = .none) : Goes t r c (run t r n c.pool) := by
  induction n generalizing c with
  | zero => exact .stay was (by simp)
  | succ n ih =>
    have hpick := c.pool.picks t r.asset.id r.pinned
    unfold run
    rcases hout : c.pool.pick t r.asset.id r.pinned with ⟨q, result⟩
    rw [hout] at hpick
    cases hpick with
    | disposed => exact .stay was (by simp)
    | @kept i hi =>
      have hmove : Move c _ _ := .keep was hi
      refine Goes.after ?_ (Moves.of_move hmove) (by simp [Note.Allowed])
        (by simp [Stake.pick?, Note.picked, Note.pickOf])
      have hlt := c.pool.lt_size_of_asset (Pool.slotOf?_eq_some hi)
      dsimp only
      split
      · next hfree =>
        have hlt' : i < (c.pool.touch i).size := by simpa using hlt
        refine Goes.after_move ?_ (.enter (Account.stake_put ..) hfree hlt') (by simp [Stake.pick?])
        have hholds : ((c.pool.touch i).lock i t).holds i t = true := by
          simp [Pool.holds, Lock.take, hlt]
        exact goes_serve (Account.stake_put ..) hholds (ih (Account.stake_put ..))
      · next hbusy => exact goes_wait (by simpa using hbusy) (Account.stake_put ..)
    | @taken i alive hi free lt hpin =>
      have hmove : Move c _ _ := .take was alive hi free lt
      refine Goes.after ?_ (Moves.of_move hmove) (by simp [Note.Allowed, hpin])
        (by simp [Stake.pick?, Note.picked, Note.pickOf])
      dsimp only
      have hq := (c.pool.rebind t i r.asset.id).still_beginLoad i r.asset.url t
      refine Goes.after_still ?_ hq
      refine goes_pollLoad (Account.stake_put ..) ?_ fun _ => ?_
      · rw [Pool.holds_iff, hq.lock]
        simp [lt, Lock.take]
      · rw [(Slot.binding_eq_iff.mp (hq.binding i)).1]
        simp [lt, Slot.bind]
    | @awaited i =>
      have hd : Move c [] (c.put c.pool.countUse t .none) := by
        rw [Account.put_self was]
        exact .count
      refine Goes.after_move ?_ hd (by simp [Stake.pick?])
      dsimp only
      split
      · exact ih (Account.stake_put ..)
      · next hbusy => exact goes_wait (by simpa using hbusy) (Account.stake_put ..)
    | exhausted =>
      have hd : Move c [] (c.put c.pool.countUse t .none) := by
        rw [Account.put_self was]
        exact .count
      exact ⟨[], .of_move hd, by simp, by simp⟩

lemma goes_pollQueued {k : Option Nat} {picks : Nat} (was : c.stake t = .queued i k) :
    Goes t r c (pollQueued t r c.pool i k picks) := by
  unfold pollQueued
  split
  · next holds =>
    rcases k with _ | g
    · exact goes_again was holds (goes_run _ (Account.stake_put ..))
    · exact goes_serve was holds (goes_run _ (Account.stake_put ..))
  · exact .stay was (by simp)

/-- **A poll of a request goes by moves**, and a handle that comes of it is as good as it says. -/
theorem goes_poll {stage : Stage} (hc : c.Good) (was : c.stake t = stage.stake r)
    (hs : ∀ result, stage ≠ .done result) : Goes t r c (poll t r c.pool stage) := by
  have hholds : ∀ i, (c.stake t).held? = some i → c.pool.holds i t = true := fun i hi =>
    Pool.holds_iff.mpr (hc.fair.held hi)
  cases stage with
  | unstarted =>
    dsimp only [poll]
    split
    · exact .stay was (by simp)
    · exact goes_run _ was
  | queued i k picks => exact goes_pollQueued was
  | loading i g due =>
    have hl := hc.owned.loading was
    exact goes_pollLoad was (hholds i (by rw [was]; rfl)) fun hg => (hl.2 hg).2
  | seeking i g due deadline =>
    exact goes_pollSeek was (hholds i (by rw [was]; rfl)) (hc.owned.serving was).2
  | done result => exact absurd rfl (hs result)

end Request

namespace Warmup

variable {c : Account} {t : TaskId} {w : Warmup}

/-- A step of a load in advance, which may leave its own slot unbound and binds none. -/
def Goes (t : TaskId) (w : Warmup) (c : Account) (out : Pool × Stage) : Prop :=
  ∃ ns, Moves c ns (c.put out.1 t (out.2.stake w)) ∧ ∀ n ∈ ns, n = .failed t w.slot

lemma Goes.after_still {q : Pool} {out : Pool × Stage} (hq : c.pool.Still q)
    (h : Goes t w ⟨q, c.stake⟩ out) : Goes t w c out := by
  obtain ⟨ns, hns, hfailed⟩ := h
  exact ⟨[] ++ ns, (Moves.of_move (.still hq)).trans hns, by simpa using hfailed⟩

lemma goes_unlock {ms : List Note} {q : Pool} {s : Stake} (hm : Move c ms (c.put q t s))
    (hms : ∀ n ∈ ms, n = .failed t w.slot) (hs : s.leaves w.slot)
    (holds : q.holds w.slot t = true) : Goes t w c (q.unlock w.slot, .done) := by
  have hleave : Move (c.put q t s) [] ((c.put q t s).put (q.unlock w.slot) t .none) :=
    .leave (by simpa using hs) holds
  rw [Account.put_put] at hleave
  have h := (Moves.of_move hm).trans (.of_move hleave)
  exact ⟨ms ++ [], h, by simpa using hms⟩

lemma goes_pollLoad {due : Nat} (was : c.stake t = .loading w.slot w.generation w.asset)
    (holds : c.pool.holds w.slot t = true) : Goes t w c (w.pollLoad c.pool due) := by
  have hlt := c.pool.lt_size_of_holds holds
  unfold pollLoad
  split
  · have hf := c.pool.finishes w.slot w.generation w.asset w.url
    rcases hout : c.pool.finishLoad w.slot w.generation w.asset w.url with ⟨q, result⟩
    rw [hout] at hf
    cases hf with
    | lost hlost => exact goes_unlock (.lose was hlost) (by simp) rfl holds
    | loaded hg =>
      refine goes_unlock (.load was hg) (by simp) rfl ?_
      simpa [Pool.holds, hlt, Slot.finishLoad] using holds
    | failed hg =>
      refine goes_unlock (.fail was hg holds) (by simp) rfl ?_
      simpa [Pool.holds, hlt, Slot.unbind, Slot.unloadElement] using holds
  · refine ⟨[], ?_, by simp⟩
    have he := Account.put_self was c.pool
    exact he ▸ .refl

/-- **A poll of a load in advance goes by moves.** -/
theorem goes_poll {stage : Stage} (hc : c.Good) (was : c.stake t = stage.stake w) :
    Goes t w c (poll t w c.pool stage) := by
  have hholds : ∀ i, (c.stake t).held? = some i → c.pool.holds i t = true := fun i hi =>
    Pool.holds_iff.mpr (hc.fair.held hi)
  cases stage with
  | unstarted =>
    have hq := c.pool.still_beginLoad w.slot w.url t
    have hholds' := hholds w.slot (by rw [was]; rfl)
    rw [Pool.holds_iff, ← hq.lock, ← Pool.holds_iff] at hholds'
    refine Goes.after_still hq ?_
    exact goes_pollLoad was hholds'
  | loading due => exact goes_pollLoad was (hholds w.slot (by rw [was]; rfl))
  | done =>
    refine ⟨[], ?_, by simp⟩
    have he := Account.put_self was c.pool
    exact he ▸ .refl

end Warmup

end Montage
