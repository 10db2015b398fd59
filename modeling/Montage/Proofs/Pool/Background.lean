import Montage.Proofs.Pool.Handles

/-!
What goes on in a pool while a request waits.

Loads in advance begin, go on and fail, time passes, the backend changes and elements are played
with. None of this takes a prepared slot away: loads in advance bind slots that nothing is bound to,
and a load that fails unbinds a slot that was never prepared.
-/

namespace Montage

namespace Pool

/-- The slot is prepared, and bound to the asset. -/
def Shows (p : Pool) (i : Nat) (a : AssetId) : Prop :=
  (p.slot i).prepared = true ∧ (p.slot i).asset = some a

/-- Nobody but the main task makes a request. -/
def Quiet (p : Pool) : Prop := ∀ t r stage, p.work? t = some (.request r stage) → t = TaskId.main

/-- An event that no request has a part in, and that takes nothing out of the pool. -/
def Event.Background (p : Pool) : Event → Prop
  | resume t => ∀ r stage, p.work? t ≠ some (.request r stage)
  | preload .. | pauseExcept _ | element .. | attend _ | backend _ | schedule _ => True
  | request _ | call _ | collect _ | release _ | reset | dispose => False

variable {p q : Pool} {t : TaskId} {r : Request} {i : Nat} {a : AssetId} {e : Event}

lemma Shows.of_binding (h : p.Shows i a) (hb : (q.slot i).binding = (p.slot i).binding) :
    q.Shows i a := by
  obtain ⟨ha, -, hp, -⟩ := Slot.binding_eq_iff.mp hb
  exact ⟨hp.trans h.1, ha.trans h.2⟩

lemma Shows.of_slot (h : p.Shows i a) (hs : (q.slot i).bare = (p.slot i).bare) : q.Shows i a := by
  have hasset := congrArg Slot.asset hs
  have hprepared := congrArg Slot.prepared hs
  exact ⟨hprepared.trans h.1, hasset.trans h.2⟩

lemma Shows.of_course {ns : List Note} (h : p.Shows i a) (hp : p.Ordered)
    (hc : Course p.account ns q.account) (hn : ∀ n ∈ ns, n.evicts i = false) : q.Shows i a :=
  h.of_binding (hc.binding_of_prepared hp.good h.1 hn)

namespace Event

lemma Background.ordered (hp : p.Ordered) (_ : e.Background p) : (e.apply p).Ordered := by
  obtain ⟨_, ⟨_, h⟩, -⟩ := e.course hp
  exact h

/-- **What is shown stays**, whatever goes on in the background. -/
lemma Background.shows (he : e.Background p) (hp : p.Ordered) (h : p.Shows i a) :
    (e.apply p).Shows i a := by
  obtain ⟨ns, ⟨hc, -⟩, hleaves⟩ := e.course hp
  refine h.of_course hp hc fun n hn => ?_
  have hl := hleaves n hn
  cases e with
  | resume u =>
    obtain ⟨w, hw, hl⟩ := hl
    cases w with
    | request r stage => exact absurd hw (he r stage)
    | warmup w stage =>
      rw [show n = .failed u w.slot from hl]
      rfl
  | preload upcoming assets =>
    obtain ⟨u, j, g, rfl, hj⟩ := hl
    have hij : j ≠ i := by
      rintro rfl
      simp [h.2] at hj
    simpa [Note.evicts] using hij
  | request | call | collect | release | reset | dispose => exact he.elim
  | pauseExcept | element | attend | backend | schedule => exact hl.elim

end Event

/-- Under a task there is the work that was there before, or a load in advance. -/
def Follows (p q : Pool) (t : TaskId) : Prop :=
  q.work? t = p.work? t ∨ (∃ w stage, q.work? t = some (.warmup w stage)) ∧
    (p.agenda.started < t ∨ ∃ w stage, p.work? t = some (.warmup w stage))

lemma follows_warmUp (lookup : AssetId → Option MediaAsset) (budget : Nat) (ids : List AssetId)
    (n : Nat) (p : Pool) (t : TaskId) : p.Follows (warmUp lookup budget ids n p).2 t := by
  fun_induction warmUp lookup budget ids n p with
  | case1 | case2 | case4 => exact .inl rfl
  | case3 _ _ _ _ _ _ ih => exact ih
  | case5 budget id rest n p a _ _ i _ ih =>
    have hstart := work?_append (p := p) (q := p.startWarmup i id a.url) rfl t
    rcases ih with h | ⟨h, hlt | ⟨w, stage, hw⟩⟩
    · rw [hstart] at h
      split at h
      · next ht =>
        rcases hp : p.work? t with _ | w
        · rw [hp, Option.none_or] at h
          exact .inr ⟨⟨_, _, h⟩, .inl (ht ▸ Nat.lt_succ_self _)⟩
        · rw [hp, Option.some_or, ← hp] at h
          exact .inl h
      · rw [Option.or_none] at h
        exact .inl h
    · exact .inr ⟨h, .inl (Nat.lt_of_succ_lt hlt)⟩
    · rw [hstart] at hw
      split at hw
      · next ht => exact .inr ⟨h, .inl (ht ▸ Nat.lt_succ_self _)⟩
      · rw [Option.or_none] at hw
        exact .inr ⟨h, .inr ⟨w, stage, hw⟩⟩
  | case6 _ _ _ _ _ _ _ _ ih => exact ih

lemma follows_resume (hp : p.Ordered) {w : Warmup} {stage : Warmup.Stage}
    (hw : p.work? t = some (.warmup w stage)) (u : TaskId) : p.Follows (p.resume t) u := by
  obtain ⟨ns, hns, -⟩ := Warmup.goes_poll (w := w) hp.good (stake_of_work? hw)
  have hwork : ((Work.warmup w stage).poll t p).1.work = p.work := hns.frame.1
  by_cases hu : u = t
  · subst hu
    exact .inr ⟨⟨_, _, work?_resume hw hwork⟩, .inr ⟨_, _, hw⟩⟩
  · exact .inl (work?_resume_of_ne hw hwork hu)

lemma Event.Background.follows (he : e.Background p) (hp : p.Ordered) (t : TaskId) :
    p.Follows (e.apply p) t := by
  cases e with
  | resume u =>
    rcases hw : p.work? u with _ | w
    · rw [apply, resume_eq_self hw]
      exact .inl rfl
    · cases w with
      | request r stage => exact absurd hw (he r stage)
      | warmup w stage => exact follows_resume hp hw t
  | preload upcoming assets =>
    simp only [apply, Pool.preload, Pool.preloadFrom]
    split
    · exact .inl rfl
    · exact follows_warmUp assets.find? _ upcoming 0 p t
  | request | call | collect | release | reset | dispose => exact he.elim
  | pauseExcept | element | attend | backend | schedule => exact .inl rfl

lemma Event.Background.work?_main (he : e.Background p) (hp : p.Ordered)
    (hw : ∀ w stage, p.work? .main ≠ some (.warmup w stage)) :
    (e.apply p).work? .main = p.work? .main := by
  rcases he.follows hp .main with h | ⟨-, h | ⟨w, stage, h⟩⟩
  · exact h
  · exact absurd h (Nat.not_lt_zero _)
  · exact absurd h (hw w stage)

lemma Event.Background.quiet (he : e.Background p) (hp : p.Ordered) (hq : p.Quiet) :
    (e.apply p).Quiet := by
  intro t r stage h
  rcases he.follows hp t with hsame | ⟨⟨w, stage', hw⟩, -⟩
  · exact hq t r stage (hsame ▸ h)
  · simp [hw] at h

/-- **A step of a request** takes no pinned slot away. It goes on, or it is over; and a handle that
it ends with names a slot that shows the asset. -/
theorem resume_request {stage : Request.Stage} (hp : p.Ordered)
    (hw : p.work? t = some (.request r stage)) (hs : ∀ result, stage ≠ .done result) :
    (p.resume t).Ordered ∧ (∀ i ∈ r.pinned, ∀ a, p.Shows i a → (p.resume t).Shows i a) ∧
      ((∃ stage', (p.resume t).work? t = some (.request r stage')) ∧
        ∀ u ≠ t, (p.resume t).work? u = p.work? u) ∧
        ∀ h, (p.resume t).result? t = some (.ok h) → (p.resume t).Shows h.slot r.asset.id := by
  obtain ⟨ms, ⟨hcourse, hallowed⟩, hwork, hhandle⟩ := serves_of_resume hp hw hs
  obtain ⟨-, ⟨-, hordered⟩, -⟩ := course_resume hp hw
  refine ⟨hordered, fun i hi a h => h.of_course hp hcourse fun n hn => ?_, hwork, fun h hr => ?_⟩
  · have hn' := hallowed n hn
    cases n with
    | found | failed => rfl
    | bound u j g =>
      have hij : j ≠ i := fun h => hn'.2 (h ▸ hi)
      simpa [Note.evicts] using hij
    | unbound => exact hn'.elim
  · obtain ⟨-, k, hserves, -⟩ := hhandle h hr
    obtain ⟨-, hprepared, -, hasset⟩ := Slot.serves_eq_true.mp hserves
    exact ⟨hprepared, hasset⟩

end Pool

end Montage
