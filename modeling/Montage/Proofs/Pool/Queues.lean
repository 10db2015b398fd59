import Montage.Proofs.Pool.Contests

/-!
Who is left without a slot in a contest.

A request that has been handed the lock of a slot binds a slot if one is free once it has let go of
the lock. If none is, because somebody else is next in line, it waits again with one pick less; and
with no pick left it is abandoned, whatever is free. A pool of `n` slots can bring that about as
soon as there are `n + 2` requests, and not before.
-/

namespace Montage

namespace Pool

variable {p : Pool} {t : TaskId} {r : Request} {stage : Request.Stage} {as : List AssetId}
  {i n : Nat}

/-- The request has a slot bound to its asset, unless the load has failed at once. -/
def Binds (p q : Pool) (t : TaskId) (r : Request) (j : Nat) : Prop :=
  (p.slot j).generation < (q.slot j).generation ∧
    ((q.slot j).asset = some r.asset.id ∨
      ∃ reason, q.result? t = some (.error (.loadFailed r.asset.url reason)))

lemma result?_resume (hp : p.Ordered) (hw : p.work? t = some (.request r stage))
    {result : Except MediaError Handle} : (p.resume t).result? t = some result ↔
      (r.poll t p stage).2 = .done result := by
  have hnow : (p.resume t).work? t = some (.request r (r.poll t p stage).2) :=
    work?_resume hw (work_poll hp hw)
  rw [result?, hnow]
  cases (r.poll t p stage).2 <;> simp

lemma isFree_unlock {j : Nat} (hi : i < p.size) : (p.unlock i).isFree j = true ↔
    j = i ∧ (p.slot i).lock.waiting = [] ∨ j ≠ i ∧ p.isFree j = true := by
  rw [isFree_iff, isFree_iff, slot_unlock]
  by_cases hij : i = j
  · subst hij
    rw [if_pos ⟨rfl, hi⟩]
    rcases hl : (p.slot i).lock.waiting with _ | ⟨u, rest⟩ <;> simp [Lock.release, hl]
  · rw [if_neg (by simp [hij])]
    simp [Ne.symm hij]

end Pool

namespace Request

variable {t : TaskId} {r : Request} {p : Pool} {n : Nat} {out : Pool × Stage}

lemma Competes.not_abandoned (h : Competes t r n p out) (a : AssetId) :
    out.2 ≠ .done (.error (.abandoned a)) := by
  cases h with
  | binds _ _ _ had loads => exact (loads.ended had).2 a
  | waits _ _ eq =>
    subst eq
    nofun

/-- The slot stays with the asset that it was bound to, unless the load has failed. -/
lemma Loads.keeps {i g due : Nat} (h : Loads r p i g due out) (had : p.isLost i g = false)
    (j : Nat) :
    (p.slot j).generation ≤ (out.1.slot j).generation ∧
      ((out.1.slot j).asset = (p.slot j).asset ∨
        ∃ reason, out.2 = .done (.error (.loadFailed r.asset.url reason))) := by
  cases h with
  | waits => exact ⟨Nat.le_refl _, .inl rfl⟩
  | lost _ lost => simp [lost] at had
  | @fails q reason _ tame =>
    refine ⟨?_, .inr ⟨reason, rfl⟩⟩
    have hq := (Slot.binding_eq_iff.mp (q.binding_unlock i j)).2.2.2
    rw [hq, (Slot.binding_eq_iff.mp (tame.binding j)).2.2.2, Pool.slot_unbind]
    split
    · exact Nat.le_succ _
    · exact Nat.le_refl _
  | loads _ _ _ seeks =>
    obtain ⟨ha, -, -, hg⟩ := Slot.binding_eq_iff.mp (seeks.binding j)
    rw [ha, hg, Pool.slot_modifySlot]
    split <;> exact ⟨Nat.le_refl _, .inl rfl⟩

lemma Competes.binds_of_free (h : Competes t r n p out) {j : Nat} (lt : j < p.size)
    (free : p.isFree j = true) : ∃ i, p.isFree i = true ∧
      (p.slot i).generation < (out.1.slot i).generation ∧
      ((out.1.slot i).asset = some r.asset.id ∨
        ∃ reason, out.2 = .done (.error (.loadFailed r.asset.url reason))) := by
  cases h with
  | @binds i q ifree ilt tame had loads =>
    obtain ⟨hg, ha⟩ := loads.keeps had i
    have hq : (q.slot i).generation = (p.slot i).generation + 1 := (Pool.isLost_eq_false.mp had).2
    have hasset : (q.slot i).asset = some r.asset.id := by
      rw [(Slot.binding_eq_iff.mp (tame.binding i)).1, Pool.slot_begun, if_pos ⟨rfl, ilt⟩]
      rfl
    rw [hasset] at ha
    exact ⟨i, ifree, by omega, ha⟩
  | waits busy =>
    have hj := busy j lt
    simp [free] at hj

end Request

namespace Pool

variable {p : Pool} {t : TaskId} {r : Request} {stage : Request.Stage} {as : List AssetId}
  {i n : Nat}

/-- **Who is abandoned**: whoever is handed a lock with no pick left. -/
lemma Contested.abandoned_iff (h : Contested as p) (hw : p.work? t = some (.request r stage))
    (hs : ∀ result, stage ≠ .done result) :
    (∃ a, (p.resume t).result? t = some (.error (.abandoned a))) ↔
      ∃ i, stage = .queued i none 0 ∧ p.holds i t = true := by
  have hround := h.round hw hs
  simp only [result?_resume h.ordered hw]
  obtain ⟨out, hout⟩ : ∃ out, r.poll t p stage = out := ⟨_, rfl⟩
  rw [hout] at hround ⊢
  cases hround with
  | refused => simp
  | starts competes => simpa using competes.not_abandoned
  | stays holds =>
    simp [holds]
  | again _ competes => simpa using competes.not_abandoned
  | @spent i holds => simpa using holds
  | loads had loads => simpa using (loads.ended had).2
  | seeks had seeks => simpa using (seeks.ended had).2

lemma Contested.competes {k : Option Nat} (h : Contested as p)
    (hw : p.work? t = some (.request r (.queued i k (n + 1)))) (holds : p.holds i t = true) :
    r.Competes t n (p.unlock i) (r.poll t p (.queued i k (n + 1))) := by
  have hround := h.round hw nofun
  obtain ⟨out, hout⟩ : ∃ out, r.poll t p (.queued i k (n + 1)) = out := ⟨_, rfl⟩
  rw [hout] at hround ⊢
  cases hround with
  | stays hold => simp [holds] at hold
  | again _ competes => exact competes

/-- **A turn comes to something** if a slot is free once the request has let go of its own. -/
lemma Contested.binds_of_free {k : Option Nat} (h : Contested as p)
    (hw : p.work? t = some (.request r (.queued i k (n + 1)))) (holds : p.holds i t = true)
    (hfree : (p.slot i).lock.waiting = [] ∨ ∃ j, j ≠ i ∧ j < p.size ∧ p.isFree j = true) :
    ∃ j, p.Binds (p.resume t) t r j := by
  have hlt := p.lt_size_of_holds holds
  obtain ⟨j, hj, free⟩ : ∃ j, j < p.size ∧ (p.unlock i).isFree j = true := by
    rcases hfree with hnil | ⟨j, hji, hj, hfree⟩
    · exact ⟨i, hlt, (isFree_unlock hlt).mpr (.inl ⟨rfl, hnil⟩)⟩
    · exact ⟨j, hj, (isFree_unlock hlt).mpr (.inr ⟨hji, hfree⟩)⟩
  obtain ⟨l, -, hg, ha⟩ := (h.competes hw holds).binds_of_free (by simpa using hj) free
  rw [(Slot.binding_eq_iff.mp (p.binding_unlock i l)).2.2.2] at hg
  refine ⟨l, ?_, ?_⟩
  · rw [slot_resume hw]
    exact hg
  · rw [slot_resume hw]
    exact ha.imp_right fun ⟨reason, hout⟩ => ⟨reason, (result?_resume h.ordered hw).mpr hout⟩

lemma byAge_congr {q : Pool} (hn : q.size = p.size)
    (hu : ∀ j, (q.slot j).lastUsed = (p.slot j).lastUsed) (pinned : List Nat) :
    q.byAge pinned = p.byAge pinned := by
  simp only [byAge, hn, hu]

/-- A turn comes to nothing if somebody else is next in line and all other slots are worked on. -/
lemma Contested.resume_of_busy {k : Option Nat} (h : Contested as p)
    (hw : p.work? t = some (.request r (.queued i k (n + 1)))) (holds : p.holds i t = true)
    (hnext : (p.slot i).lock.waiting ≠ [])
    (hbusy : ∀ j, j ≠ i → j < p.size → p.isFree j = false) :
    ∃ j, (p.byAge []).head? = some j ∧ p.resume t =
      ((p.unlock i).countUse.enqueue j t).setWork t (.request r (.queued j none n)) := by
  have hlt := p.lt_size_of_holds holds
  have hresume : p.resume t = (r.poll t p (.queued i k (n + 1))).1.setWork t
      (.request r (r.poll t p (.queued i k (n + 1))).2) := resume_eq hw
  have hcompetes := h.competes hw holds
  obtain ⟨out, hout⟩ : ∃ out, r.poll t p (.queued i k (n + 1)) = out := ⟨_, rfl⟩
  rw [hout] at hcompetes hresume
  cases hcompetes with
  | @binds j q free lt =>
    rcases (isFree_unlock hlt).mp free with ⟨-, hnil⟩ | ⟨hji, hfree⟩
    · exact absurd hnil hnext
    · have hj := hbusy j hji (by simpa using lt)
      simp [hfree] at hj
  | @waits j busy oldest eq =>
    subst eq
    refine ⟨j, ?_, hresume⟩
    rw [← oldest]
    refine congrArg List.head? (byAge_congr ?_ (fun l => ?_) []).symm
    · exact p.size_unlock i
    · rw [slot_unlock]
      split <;> rfl

/-- **A turn that comes to nothing** costs a pick, and the next in line has the slot. -/
lemma Contested.queued_of_busy {k : Option Nat} {u : TaskId} {rest : List TaskId}
    (h : Contested as p) (hw : p.work? t = some (.request r (.queued i k (n + 1))))
    (holds : p.holds i t = true) (hnext : (p.slot i).lock.waiting = u :: rest)
    (hbusy : ∀ j, j ≠ i → j < p.size → p.isFree j = false) :
    (∃ j, (p.resume t).work? t = some (.request r (.queued j none n))) ∧
      (p.resume t).holds i u = true ∧
      ∀ j, ((p.resume t).slot j).binding = (p.slot j).binding := by
  have hlt := p.lt_size_of_holds holds
  obtain ⟨j, -, hq⟩ := h.resume_of_busy hw holds (by simp [hnext]) hbusy
  have hslot : ∀ l, (p.resume t).slot l = (((p.unlock i).countUse.enqueue j t).slot l) := by
    intro l
    rw [hq]
    rfl
  have hholder : ((p.unlock i).slot i).lock.holder = some u := by
    rw [slot_unlock, if_pos ⟨rfl, hlt⟩]
    simp [Lock.release, hnext]
  refine ⟨⟨j, ?_⟩, ?_, fun l => ?_⟩
  · rw [hq, work?_setWork, if_pos rfl]
    have hwork : ((p.unlock i).countUse.enqueue j t).work = p.work := p.work_unlock i
    rw [work?, hwork]
    exact congrArg (Option.map _) hw
  · rw [holds_iff, hslot, slot_enqueue, ← hholder]
    split <;> rfl
  · rw [hslot, slot_enqueue, ← p.binding_unlock i l]
    split <;> rfl

end Pool

end Montage
