import Montage.Proofs.Pool.Asks

/-!
A request of the main task from its start to its end, when nobody else has one.

While it is waited for, loads in advance have their turns and time passes. What a turn of the
request does adds up: a prepared slot is left alone, or it is the one that is handed out, or it is
taken away because the asset was nowhere to be had.
-/

namespace Montage

namespace Pool

/-- The request of the main task is carried on, without coming to an end, and others go on beside
it. -/
inductive Carries (p : Pool) : Pool → Prop
  | refl : Carries p p
  | beside {q : Pool} {e : Event} (h : Carries p q) (he : e.Beside q) : Carries p (e.apply q)
  | turn {q : Pool} (h : Carries p q) (waits : (q.resume .main).result? .main = none) :
      Carries p (q.resume .main)

/-- The main task makes a request of the pool, waits for it, and gets a result. -/
def Answers (p : Pool) (r : Request) (result : Except MediaError Handle) (q : Pool) : Prop :=
  ∃ c, (p.take .main r).Carries c ∧ (c.resume .main).result? .main = some result ∧
    q = (c.resume .main).forget .main

end Pool

namespace Request

variable {r : Request} {p q q' : Pool} {i j : Nat} {stage stage' : Stage} {e : Pool.Event}
  {result : Except MediaError Handle}

/-! ### The table of work does not matter -/

lemma Keen.setWork (h : Keen q r stage) (ws : List (TaskId × Work)) :
    Keen { q with work := ws } r stage := by
  cases h with
  | unstarted => exact .unstarted
  | joins two bound => exact .joins two bound
  | waits one hi unbound => exact .waits one hi unbound
  | loads hi same source => exact .loads hi same source
  | seeks serves => exact .seeks serves

lemma Verdict.setWork (h : Verdict p q r result) (ws : List (TaskId × Work)) :
    Verdict p { q with work := ws } r result := by
  cases h with
  | served shows aligned => exact .served shows aligned
  | missing empty => exact .missing empty
  | disposed hd => exact .disposed hd
  | exhausted unbound all => exact .exhausted unbound all
  | failed unbound refuses => exact .failed unbound refuses

lemma Verdict.failing (h : Verdict p q r result)
    (hf : p.backend.failing = q'.backend.failing) : Verdict q' q r result := by
  cases h with
  | served shows aligned => exact .served shows aligned
  | missing empty => exact .missing empty
  | disposed hd => exact .disposed hd
  | exhausted unbound all => exact .exhausted unbound all
  | failed unbound refuses =>
    rw [Backend.refuses, hf] at refuses
    exact .failed unbound refuses

/-! ### What goes on beside a request -/

/-- Whoever goes on beside the request leaves it as it stands. -/
lemma Keen.beside (k : Keen q r stage) (h : q.Alone)
    (hw : q.work? .main = some (.request r stage)) (he : e.Beside q) :
    Keen (e.apply q) r stage := by
  have hstake := Pool.stake_of_work? hw
  have unbound (hq : ∀ j, (q.slot j).asset ≠ some r.asset.id) (j : Nat) :
      ((e.apply q).slot j).asset ≠ some r.asset.id := by
    rcases he.binding j with ⟨-, hasset⟩ | hnone
    · rw [hasset]
      exact hq j
    · simp [hnone]
  cases k with
  | unstarted => exact .unstarted
  | @joins i g n two bound =>
    refine .joins two ?_
    rcases bound with ⟨hg, hasset⟩ | hunbound
    · rcases he.binding i with ⟨hg', hasset'⟩ | hnone
      · exact .inl ⟨hg'.trans hg, hasset'.trans hasset⟩
      · refine .inr fun j hj => ?_
        rcases he.binding j with ⟨-, hasset'⟩ | hnone'
        · obtain rfl : j = i := h.ordered.good.tidy.distinct (hasset'.symm.trans hj) hasset
          simp [hnone] at hj
        · simp [hnone'] at hj
    · exact .inr (unbound hunbound)
  | waits one hi hunbound => exact .waits one hi (unbound hunbound)
  | @loads i g due hi same source =>
    have hslot := he.slot_eq h (h.isOpen_of_held (i := i) (by rw [hstake]; rfl))
    refine .loads hi (by rwa [hslot]) ?_
    rwa [Pool.element, hslot]
  | @seeks i g deadline due serves =>
    have hslot := he.slot_eq h (h.isOpen_of_held (i := i) (by rw [hstake]; rfl))
    exact .seeks (by rwa [hslot])

/-! ### What adds up -/

/-- What becomes of a slot while the main task waits for a request that it has made of the pool. -/
inductive Fate (r : Request) (p : Pool) (s : Slot) (stage : Stage) (j : Nat) : Prop
  | stays (h : (p.slot j).Stays r.asset.id s)
  | lands (shows : p.Shows j r.asset.id) (binding : s.binding = (p.slot j).binding)
      (done : stage = .done (.ok ⟨r.asset.id, j, false⟩))
  | loads (empty : (p.slot j).prepared = false)
  | takes (later : (p.slot j).generation < s.generation) (hj : j ∉ r.pinned)
      (unshown : ∀ i, ¬p.Shows i r.asset.id)
      (oldest : ∀ k, k < p.size → k ∉ r.pinned → p.isFree k = true →
        (p.slot j).lastUsed ≤ (p.slot k).lastUsed)

/-- What has come so far of a request that the main task has made of the pool `p`. -/
structure Since (r : Request) (p q : Pool) (stage : Stage) : Prop where
  alone : q.Alone
  size : q.size = p.size
  eases : p.Eases q
  opens : ∀ i, p.IsOpen i → q.IsOpen i
  fate : ∀ j, Fate r p (q.slot j) stage j
  rebound : ∀ j, r.Rebound (p.slot j) (q.slot j)

lemma Since.shows {a : AssetId} (h : Since r p q stage) (hs : p.Shows i a)
    (hi : i ∈ r.pinned ∨ a = r.asset.id) : q.Shows i a := by
  cases h.fate i with
  | stays hstays => exact hs.of_binding hstays.binding
  | lands _ binding _ => exact hs.of_binding binding
  | loads empty => simp [hs.1] at empty
  | takes _ hpin unshown =>
    rcases hi with hi | rfl
    · exact absurd hi hpin
    · exact absurd hs (unshown i)

lemma Since.element_eq {a : AssetId} (h : Since r p q (.done result)) (hs : p.Shows i a)
    (hi : i ∈ r.pinned) (hne : ∀ hd, result = .ok hd → hd.slot = i → hd.stale = true) :
    q.element i = p.element i := by
  cases h.fate i with
  | stays hstays => exact hstays.element
  | lands _ _ done => cases hne _ (Stage.done.inj done) rfl
  | loads empty => simp [hs.1] at empty
  | takes _ hpin => exact absurd hi hpin

/-- The request stands at a stage. -/
structure Stands (r : Request) (p q : Pool) (stage : Stage) : Prop extends Since r p q stage where
  work : q.work? .main = some (.request r stage)
  keen : Keen q r stage
  named : stage ≠ .unstarted → r.asset.url.isEmpty = false
  rests : stage.picks = true → ∀ j, p.isFree j = true →
    q.isFree j = true ∧ (p.slot j).Stays r.asset.id (q.slot j)

lemma Rebound.trans {s s' s'' : Slot} (h : r.Rebound s s') (h' : r.Rebound s' s'') :
    r.Rebound s s'' := by
  rcases h' with ⟨hg', ha'⟩ | h'
  · rcases h with ⟨hg, ha⟩ | ha
    · exact .inl ⟨hg'.trans hg, ha'.trans ha⟩
    · exact .inr (ha'.symm ▸ ha)
  · exact .inr h'

namespace Stands

lemma take (h : p.Alone) (idle : p.work? .main = none) (r : Request) :
    Stands r p (p.take .main r) .unstarted := by
  obtain ⟨halone, hwork⟩ := h.take idle r
  exact {
    alone := halone
    size := rfl
    eases := .of_slots rfl rfl rfl
    opens := fun _ hi => hi
    fate := fun _ => .stays (.refl _ _)
    rebound := fun _ => .inl ⟨rfl, rfl⟩
    work := hwork
    keen := .unstarted
    named := fun h => absurd rfl h
    rests := fun _ _ hj => ⟨hj, .refl _ _⟩ }

/-- Something goes on beside the request. -/
lemma beside (h : Stands r p q stage) (he : e.Beside q) : Stands r p (e.apply q) stage where
  alone := he.alone h.alone
  size := (h.alone.ordered.size_run [e]).trans h.size
  eases := h.eases.trans (Pool.Event.eases he.handsOff)
  opens i hi := he.isOpen h.alone (h.opens i hi)
  fate j := by
    cases h.fate j with
    | stays hs =>
      by_cases hj : q.IsOpen j
      · rw [← he.slot_eq h.alone hj] at hs
        exact .stays hs
      · obtain ⟨t, ht, hholder⟩ : ∃ t ≠ TaskId.main, (q.slot j).lock.holder = some t := by
          simpa [Pool.IsOpen] using hj
        exact .loads (hs.prepared ▸ h.alone.not_prepared ht hholder)
    | lands _ _ done => exact absurd done (h.keen.ne_done _)
    | loads empty => exact .loads empty
    | takes later hj unshown oldest =>
      have hlater := ((Pool.Event.eases he.handsOff).slot j).later
      exact .takes (Nat.lt_of_lt_of_le later hlater) hj unshown oldest
  rebound j := by
    refine (h.rebound j).trans ?_
    rcases he.binding j with hsame | hnone
    · exact .inl hsame
    · exact .inr (.inr hnone)
  work := (he.work?_main h.alone).trans h.work
  keen := h.keen.beside h.alone h.work he
  named := h.named
  rests hp j hj := by
    obtain ⟨hfree, hstays⟩ := h.rests hp j hj
    have hslot := he.slot_eq h.alone (Pool.Alone.isOpen_of_isFree hfree)
    refine ⟨?_, by rwa [hslot]⟩
    rwa [Pool.isFree, hslot]

lemma unshown (h : Stands r p q stage) (hq : ∀ i, (q.slot i).asset ≠ some r.asset.id) (i : Nat) :
    ¬p.Shows i r.asset.id := by
  intro hs
  cases h.fate i with
  | stays hstays => exact hq i (hstays.asset.trans hs.2)
  | lands _ _ done => exact h.keen.ne_done _ done
  | loads empty => simp [hs.1] at empty
  | takes _ _ unshown => exact unshown i hs

lemma picks (h : Stands r p q stage) (hq : ∀ i, (q.slot i).asset ≠ some r.asset.id) :
    stage.picks = true := by
  have hstake := Pool.stake_of_work? h.work
  cases h.keen with
  | unstarted | joins | waits => rfl
  | @loads i g due _ same _ =>
    obtain ⟨-, howned⟩ := h.alone.ordered.good.owned.loading hstake
    exact absurd (howned same).2 (hq i)
  | @seeks i g deadline due serves =>
    obtain ⟨-, -, -, hasset⟩ := Slot.serves_eq_true.mp serves
    exact absurd hasset (hq i)

/-- What a turn does to a slot adds to what has come of it before. -/
lemma fate_turn {s : Slot} (h : Stands r p q stage) (hq : (q.slot j).Eases s)
    (hj : Fares r q s stage' j) : Fate r p s stage' j := by
  cases h.fate j with
  | stays hs =>
    cases hj with
    | stays hs' => exact .stays (hs.trans hs')
    | lands shows binding done =>
      exact .lands ⟨hs.prepared ▸ shows.1, hs.asset ▸ shows.2⟩ (binding.trans hs.binding) done
    | loads empty => exact .loads (hs.prepared ▸ empty)
    | takes later hpin unbound oldest =>
      have hunshown := h.unshown unbound
      refine .takes (hs.generation ▸ later) hpin hunshown fun k hk hkpin hkfree => ?_
      obtain ⟨hfree, hk'⟩ := h.rests (h.picks unbound) k hkfree
      have hold := oldest k (h.size.symm ▸ hk) hkpin hfree
      have hused : ∀ j, (p.slot j).Stays r.asset.id (q.slot j) →
          (q.slot j).lastUsed = (p.slot j).lastUsed := fun j hj =>
        hj.used.resolve_right fun ha => unbound j (hj.asset.trans ha)
      rwa [hused j hs, hused k hk'] at hold
  | lands _ _ done => exact absurd done (h.keen.ne_done _)
  | loads empty => exact .loads empty
  | takes later hpin unshown oldest =>
    exact .takes (Nat.lt_of_lt_of_le later hq.later) hpin unshown oldest

lemma named_turn {out : Pool × Stage} (h : Stands r p q stage) (hs : Steps .main r q stage out) :
    out.2 = .done (.error (.missingSource r.asset.id)) ∨ r.asset.url.isEmpty = false := by
  by_cases hu : stage = .unstarted
  · subst hu
    cases hs with
    | refused => exact .inl rfl
    | starts _ named => exact .inr named
  · exact .inr (h.named hu)

/-- **A turn of the request.** -/
lemma turn (h : Stands r p q stage) :
    ∃ stage', (q.resume .main).work? .main = some (.request r stage') ∧
      Since r p (q.resume .main) stage' ∧
        (Stands r p (q.resume .main) stage' ∨
          ∃ result, stage' = .done result ∧ Verdict p (q.resume .main) r result ∧
            (result = .error (.missingSource r.asset.id) ∨ r.asset.url.isEmpty = false)) := by
  obtain ⟨hnext, hfares, hrebound, hrests⟩ := h.keen.outcome h.alone h.work
  have hpoll := Pool.work_poll h.alone.ordered h.work
  have hwork : (q.resume .main).work? .main = some (.request r (r.poll .main q stage).2) :=
    Pool.work?_resume h.work hpoll
  obtain ⟨ws, hresume⟩ : ∃ ws, q.resume .main = { (r.poll .main q stage).1 with work := ws } :=
    ⟨_, Pool.resume_eq h.work⟩
  have heases := q.eases_resume .main
  have hsince : Since r p (q.resume .main) (r.poll .main q stage).2 := {
    alone := h.alone.resume h.work
    size := (h.alone.ordered.size_run [.resume .main]).trans h.size
    eases := h.eases.trans heases
    opens := fun i hi => h.alone.isOpen_resume h.work (h.opens i hi)
    fate := fun j => h.fate_turn (heases.slot j) (hresume ▸ hfares j)
    rebound := fun j => (h.rebound j).trans (hresume ▸ hrebound j) }
  have hsteps := Steps.poll (t := .main) (r := r) h.alone.ordered.good.tidy h.keen.ne_done
  refine ⟨_, hwork, hsince, ?_⟩
  rcases hnext with hkeen | ⟨result, hdone, hverdict⟩
  · refine .inl { hsince with
      work := hwork
      keen := hresume ▸ hkeen.setWork ws
      named := fun _ => (h.named_turn hsteps).resolve_left (hkeen.ne_done _)
      rests := ?_ }
    intro hpicks j hj
    obtain ⟨hfree, hstays⟩ := h.rests (hsteps.picks hpicks) j hj
    obtain ⟨hstays', hfree'⟩ := hrests hpicks j
    rw [hresume]
    exact ⟨hfree' hfree, hstays.trans hstays'⟩
  · refine .inr ⟨result, hdone, hresume ▸ (hverdict.setWork ws).failing h.eases.failing, ?_⟩
    refine (h.named_turn hsteps).imp_left fun hmissing => ?_
    exact Stage.done.inj (hdone.symm.trans hmissing)

end Stands

lemma Since.forget (h : Since r p q (.done result)) (ended : (q.result? .main).isSome = true) :
    Since r p (q.forget .main) (.done result) where
  alone := (h.alone.forget ended).1
  size := h.size
  eases := h.eases.trans (.of_slots rfl rfl rfl)
  opens := h.opens
  fate := h.fate
  rebound := h.rebound

end Request

namespace Pool

variable {p q : Pool} {r : Request} {result : Except MediaError Handle}

open Request

/-- **A request that is waited for.** -/
lemma Carries.stands (h : (p.take .main r).Carries q) (hp : p.Alone)
    (idle : p.work? .main = none) : ∃ stage, Stands r p q stage := by
  induction h with
  | refl => exact ⟨_, .take hp idle r⟩
  | beside _ he ih =>
    obtain ⟨stage, h⟩ := ih
    exact ⟨stage, h.beside he⟩
  | turn _ waits ih =>
    obtain ⟨stage, h⟩ := ih
    obtain ⟨stage', hwork, -, h' | ⟨result, rfl, -, -⟩⟩ := h.turn
    · exact ⟨stage', h'⟩
    · simp [result?, hwork] at waits

/-- **What comes of a request.** -/
theorem Answers.since (h : p.Answers r result q) (hp : p.Alone) (idle : p.work? .main = none) :
    (Since r p q (.done result) ∧ q.work? .main = none) ∧ Verdict p q r result ∧
      (result = .error (.missingSource r.asset.id) ∨ r.asset.url.isEmpty = false) := by
  obtain ⟨c, hcarries, hresult, rfl⟩ := h
  obtain ⟨stage, hstands⟩ := hcarries.stands hp idle
  obtain ⟨stage', hwork, hsince, hnext⟩ := hstands.turn
  obtain rfl : stage' = .done result := by
    rw [result?, hwork] at hresult
    cases stage' <;> simp_all
  have hover : ((c.resume .main).result? .main).isSome = true := by simp [hresult]
  refine ⟨⟨hsince.forget hover, (hsince.alone.forget hover).2⟩, ?_⟩
  rcases hnext with hstands' | ⟨result', hdone, hverdict, hnamed⟩
  · exact absurd rfl (hstands'.keen.ne_done result)
  · cases hdone
    exact ⟨hverdict.setWork _, hnamed⟩

lemma Answers.shows {hd : Handle} (h : p.Answers r (.ok hd) q) (hp : p.Alone)
    (idle : p.work? .main = none) : q.Shows hd.slot r.asset.id := by
  obtain ⟨-, hverdict, -⟩ := h.since hp idle
  cases hverdict with
  | served shows => exact shows

end Pool

end Montage
