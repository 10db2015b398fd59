import Montage.Proofs.Pool.Answers

/-!
What a request takes away.

When nobody else has a request, the request of the main task leaves slots bound as they are, with
one exception at most: the slot that it takes when its asset is bound nowhere. It takes the slot to
load the asset into it. So what comes of it then is a handle for that very slot, of an asset that
can be loaded, or the load fails.
-/

namespace Montage

namespace Pool

/-- The slot is at the same generation, and bound to the same asset. -/
def SameAt (p q : Pool) (k : Nat) : Prop :=
  (q.slot k).generation = (p.slot k).generation ∧ (q.slot k).asset = (p.slot k).asset

variable {p q q' : Pool} {i k : Nat}

namespace SameAt

lemma refl (p : Pool) (k : Nat) : p.SameAt p k := ⟨rfl, rfl⟩

lemma trans (h : p.SameAt q k) (h' : q.SameAt q' k) : p.SameAt q' k :=
  ⟨h'.1.trans h.1, h'.2.trans h.2⟩

lemma of_binding (h : (q.slot k).binding = (p.slot k).binding) : p.SameAt q k :=
  ⟨(Slot.binding_eq_iff.mp h).2.2.2, (Slot.binding_eq_iff.mp h).1⟩

lemma of_slot (h : q.slot k = p.slot k) : p.SameAt q k := of_binding (congrArg Slot.binding h)

lemma unlock (p : Pool) (i k : Nat) : p.SameAt (p.unlock i) k := by
  rw [SameAt, slot_unlock]
  split <;> exact ⟨rfl, rfl⟩

lemma lock (p : Pool) (i k : Nat) (t : TaskId) : p.SameAt (p.lock i t) k := by
  rw [SameAt, slot_lock]
  split <;> exact ⟨rfl, rfl⟩

lemma enqueue (p : Pool) (i k : Nat) (t : TaskId) : p.SameAt (p.enqueue i t) k := by
  rw [SameAt, slot_enqueue]
  split <;> exact ⟨rfl, rfl⟩

lemma touch (p : Pool) (i k : Nat) : p.SameAt (p.touch i) k := by
  rw [SameAt, slot_touch]
  split <;> exact ⟨rfl, rfl⟩

end SameAt

end Pool

namespace Request

open Pool (SameAt)

variable {r : Request} {p q u : Pool} {i j g n due : Nat} {stage : Stage} {out : Pool × Stage}

/-- Where a request may stand, or what it may have come to, when it has taken a slot. -/
inductive Grips (r : Request) (p : Pool) (i : Nat) : Stage → Prop
  | loads {g due : Nat} : Grips r p i (.loading i g due)
  | seeks {g deadline : Nat} {due : Option Nat} (good : p.backend.refuses r.asset.url = false) :
      Grips r p i (.seeking i g due deadline)
  | served {stale : Bool} (good : p.backend.refuses r.asset.url = false) :
      Grips r p i (.done (.ok ⟨r.asset.id, i, stale⟩))
  | failed {reason : String} : Grips r p i (.done (.error (.loadFailed r.asset.url reason)))

/-- Whether a request loads its asset. -/
def Stage.loads : Stage → Bool
  | loading .. => true
  | _ => false

/-- What a turn of a request takes: it leaves all slots bound as they are, or all but one. -/
def TakesOne (r : Request) (p : Pool) (out : Pool × Stage) : Prop :=
  (∀ k, p.SameAt out.1 k) ∧ out.2.loads = false ∨
    ∃ i, (∀ k ≠ i, p.SameAt out.1 k) ∧ Grips r p i out.2

lemma Grips.failing (h : Grips r q i stage) (hf : q.backend.failing = p.backend.failing) :
    Grips r p i stage := by
  have hrefuses : q.backend.refuses r.asset.url = p.backend.refuses r.asset.url := by
    rw [Backend.refuses, Backend.refuses, hf]
  cases h with
  | loads => exact .loads
  | seeks good => exact .seeks (hrefuses.symm.trans good)
  | served good => exact .served (hrefuses.symm.trans good)
  | failed => exact .failed

lemma Seeks.grips (h : Seeks r u i g out) (had : u.isLost i g = false)
    (good : p.backend.refuses r.asset.url = false) : Grips r p i out.2 := by
  cases h with
  | waits => exact .seeks good
  | ends => exact .served good
  | lost _ lost => simp [had] at lost

lemma Seeks.not_loads (h : Seeks r u i g out) : out.2.loads = false := by
  cases h <;> rfl

lemma Loads.grips (h : Loads r u i g due out) (had : u.isLost i g = false) :
    (∀ k ≠ i, u.SameAt out.1 k) ∧ Grips r u i out.2 := by
  cases h with
  | waits => exact ⟨fun k _ => .refl u k, .loads⟩
  | lost _ lost => simp [had] at lost
  | @fails q _ _ tame =>
    refine ⟨fun k hk => ?_, .failed⟩
    have hunbind : u.SameAt (u.unbind i) k := .of_slot (by simp [Ne.symm hk])
    exact (hunbind.trans (.of_binding (tame.binding k))).trans (.unlock q i k)
  | loads _ _ _ seeks good =>
    refine ⟨fun k hk => ?_, seeks.grips (isLost_finishLoad had) good⟩
    have hload : u.SameAt (u.modifySlot i Slot.finishLoad) k := .of_slot (by simp [Ne.symm hk])
    exact hload.trans (.of_binding (seeks.binding k))

lemma TakesOne.after (h : TakesOne r u out) (hu : ∀ k, p.SameAt u k)
    (hf : u.backend.failing = p.backend.failing) : TakesOne r p out := by
  rcases h with ⟨hsame, hloads⟩ | ⟨i, hothers, hgrips⟩
  · exact .inl ⟨fun k => (hu k).trans (hsame k), hloads⟩
  · exact .inr ⟨i, fun k hk => (hu k).trans (hothers k hk), hgrips.failing hf⟩

lemma Runs.takesOne (h : Runs .main r n p out) : TakesOne r p out := by
  induction h with
  | spent | refused => exact .inl ⟨fun k => .refl _ k, rfl⟩
  | @binds n i p q out alive _ _ lt _ tame loads _ failing _ =>
    have hslot := fun k => p.slot_begun .main i k r.asset.id r.asset.url
    have hgen : (q.slot i).generation = (p.slot i).generation + 1 := by
      rw [(Slot.binding_eq_iff.mp (tame.binding i)).2.2.2, hslot, if_pos ⟨rfl, lt⟩]
      rfl
    have had : q.isLost i ((p.slot i).generation + 1) = false :=
      Pool.isLost_eq_false.mpr ⟨tame.disposed.trans alive, hgen⟩
    obtain ⟨hothers, hgrips⟩ := loads.grips had
    refine .inr ⟨i, fun k hk => ?_, hgrips.failing failing⟩
    have hbegun := hslot k
    rw [if_neg fun hik => hk hik.1.symm] at hbegun
    exact ((SameAt.of_slot hbegun).trans (.of_binding (tame.binding k))).trans (hothers k hk)
  | @serves n i p out _ _ _ seeks =>
    refine .inl ⟨fun k => ?_, seeks.not_loads⟩
    exact ((SameAt.touch p i k).trans (.lock _ i k _)).trans (.of_binding (seeks.binding k))
  | @again n i p out _ _ _ _ ih =>
    refine ih.after (fun k => ?_) (by simp [Pool.touch, Pool.lock, Pool.countUse, Pool.modifySlot])
    exact ((SameAt.touch p i k).trans (.lock _ i k _)).trans (.unlock _ i k)
  | @joins n i p =>
    exact .inl ⟨fun k => (SameAt.touch p i k).trans (.enqueue _ i k _), rfl⟩
  | @waits n i p => exact .inl ⟨fun k => .enqueue p.countUse i k _, rfl⟩
  | exhausted => exact .inl ⟨fun k => .refl _ k, rfl⟩

lemma Steps.takesOne (h : Steps .main r q stage out) (hp : stage.picks = true) :
    TakesOne r q out := by
  cases h with
  | refused | stays => exact .inl ⟨fun k => .refl q k, rfl⟩
  | starts runs => exact runs.takesOne
  | uses _ _ seeks => exact .inl ⟨fun k => .of_binding (seeks.binding k), seeks.not_loads⟩
  | again _ runs => exact runs.takesOne.after (fun k => .unlock q _ k) (by simp)
  | loads | seeks => cases hp

/-- What a request has taken by the time that it stands at a stage: no slot that was open to it, or
just one. -/
def Grip (r : Request) (p q : Pool) (stage : Stage) : Prop :=
  (∀ k, p.IsOpen k → p.SameAt q k) ∧ stage.loads = false ∨
    ∃ i, (∀ k ≠ i, p.IsOpen k → p.SameAt q k) ∧ Grips r p i stage

lemma Grip.of_picks (h : Grip r p q stage) (hp : stage.picks = true) (hk : p.IsOpen k) :
    p.SameAt q k := by
  rcases h with ⟨hsame, -⟩ | ⟨i, -, hgrips⟩
  · exact hsame k hk
  · cases hgrips <;> cases hp

/-- **What a turn takes.** -/
lemma Stands.grip (h : Stands r p q stage) (hg : Grip r p q stage) :
    Grip r p (r.poll .main q stage).1 (r.poll .main q stage).2 := by
  have hf : q.backend.failing = p.backend.failing := h.eases.failing
  have hstake := Pool.stake_of_work? h.work
  have hsteps : Steps .main r q stage (r.poll .main q stage) :=
    .poll h.alone.ordered.good.tidy h.keen.ne_done
  obtain ⟨out, hout⟩ : ∃ out, r.poll .main q stage = out := ⟨_, rfl⟩
  rw [hout] at hsteps ⊢
  by_cases hp : stage.picks = true
  · have hsame := fun k (hk : p.IsOpen k) => hg.of_picks hp hk
    rcases hsteps.takesOne hp with ⟨hturn, hloads⟩ | ⟨i, hturn, hgrips⟩
    · exact .inl ⟨fun k hk => (hsame k hk).trans (hturn k), hloads⟩
    · exact .inr ⟨i, fun k hi hk => (hsame k hk).trans (hturn k hi), hgrips.failing hf⟩
  cases h.keen with
  | unstarted | joins | waits => exact absurd rfl hp
  | @loads i g due _ same _ =>
    obtain ⟨-, howned⟩ := h.alone.ordered.good.owned.loading hstake
    have alive : q.disposed = false := h.alone.ordered.good.tidy.alive (howned same).2
    cases hsteps with
    | loads loads =>
      obtain ⟨hturn, hgrips⟩ := loads.grips (Pool.isLost_eq_false.mpr ⟨alive, same⟩)
      rcases hg with ⟨-, hloads⟩ | ⟨j, hothers, hgrip⟩
      · cases hloads
      · cases hgrip with
        | loads =>
          exact .inr ⟨i, fun k hi hk => (hothers k hi hk).trans (hturn k hi), hgrips.failing hf⟩
  | @seeks i g deadline due serves =>
    obtain ⟨hgen, -, -, hasset⟩ := Slot.serves_eq_true.mp serves
    have alive : q.disposed = false := h.alone.ordered.good.tidy.alive hasset
    cases hsteps with
    | seeks seeks =>
      have hturn : ∀ k, q.SameAt out.1 k := fun k => .of_binding (seeks.binding k)
      rcases hg with ⟨hsame, -⟩ | ⟨j, hothers, hgrip⟩
      · exact .inl ⟨fun k hk => (hsame k hk).trans (hturn k), seeks.not_loads⟩
      · cases hgrip with
        | seeks good =>
          exact .inr ⟨i, fun k hi hk => (hothers k hi hk).trans (hturn k),
            seeks.grips (Pool.isLost_eq_false.mpr ⟨alive, hgen⟩) good⟩

end Request

namespace Pool

open Request

variable {p q : Pool} {r : Request} {i : Nat} {result : Except MediaError Handle}

lemma grip_resume {stage : Stage} (h : Stands r p q stage) (hg : Grip r p q stage) :
    ∃ stage', (q.resume .main).work? .main = some (.request r stage') ∧
      Grip r p (q.resume .main) stage' := by
  have hpoll := work_poll h.alone.ordered h.work
  obtain ⟨ws, hresume⟩ : ∃ ws, q.resume .main = { (r.poll .main q stage).1 with work := ws } :=
    ⟨_, resume_eq h.work⟩
  exact ⟨_, work?_resume h.work hpoll, hresume ▸ h.grip hg⟩

/-- **What a request has taken** while it is waited for. -/
lemma Carries.grip (h : (p.take .main r).Carries q) (hp : p.Alone) (idle : p.work? .main = none) :
    ∃ stage, Stands r p q stage ∧ Grip r p q stage := by
  induction h with
  | refl => exact ⟨_, .take hp idle r, .inl ⟨fun _ _ => .of_slot rfl, rfl⟩⟩
  | @beside q e _ he ih =>
    obtain ⟨stage, hstands, hgrip⟩ := ih
    have hsame : ∀ k, p.IsOpen k → q.SameAt (e.apply q) k := fun k hk =>
      .of_slot (he.slot_eq hstands.alone (hstands.opens k hk))
    refine ⟨stage, hstands.beside he, hgrip.imp ?_ ?_⟩
    · rintro ⟨hopen, hloads⟩
      exact ⟨fun k hk => (hopen k hk).trans (hsame k hk), hloads⟩
    · rintro ⟨i, hothers, hgrips⟩
      exact ⟨i, fun k hi hk => (hothers k hi hk).trans (hsame k hk), hgrips⟩
  | @turn q hcarries waits ih =>
    obtain ⟨stage, hstands, hgrip⟩ := ih
    obtain ⟨stage', hwork', hgrip'⟩ := grip_resume hstands hgrip
    obtain ⟨stage'', hstands'⟩ := (hcarries.turn waits).stands hp idle
    obtain rfl : stage' = stage'' := by simpa [hwork'] using hstands'.work
    exact ⟨stage', hstands', hgrip'⟩

/-- **What a request takes away.** A slot that is open to the request and is not bound as it was has
been taken for the asset, which can be loaded or has failed to. Nothing else has been taken. -/
theorem Answers.takes (h : p.Answers r result q) (hp : p.Alone) (idle : p.work? .main = none)
    (hi : p.IsOpen i) (taken : ¬p.SameAt q i) :
    (∀ k ≠ i, p.IsOpen k → p.SameAt q k) ∧
      ((∃ stale, result = .ok ⟨r.asset.id, i, stale⟩) ∧ p.backend.refuses r.asset.url = false ∨
        ∃ reason, result = .error (.loadFailed r.asset.url reason)) := by
  obtain ⟨c, hcarries, hresult, rfl⟩ := h
  obtain ⟨stage, hstands, hgrip⟩ := hcarries.grip hp idle
  obtain ⟨stage', hwork, hgrip'⟩ := grip_resume hstands hgrip
  obtain rfl : stage' = .done result := by
    rw [result?, hwork] at hresult
    cases stage' <;> simp_all
  rcases hgrip' with ⟨hsame, -⟩ | ⟨j, hothers, hgrips⟩
  · exact absurd (hsame i hi) taken
  · obtain rfl : i = j := by
      by_contra hij
      exact taken (hothers i hij hi)
    refine ⟨hothers, ?_⟩
    cases hgrips with
    | served good => exact .inl ⟨⟨_, rfl⟩, good⟩
    | failed => exact .inr ⟨_, rfl⟩

end Pool

end Montage
