import Montage.Proofs.Pool.Steps

/-!
What becomes of a slot and its element in an event.

Whoever binds or unbinds a slot unloads its element, and whoever loads it sets the source. Nobody
else changes sources, with one exception: a load in advance that has its first turn after its slot
was taken away sets the source all the same, on an element that nothing is bound to.
-/

namespace Montage

/-! ### Slots that are taken away -/

/-- A slot that is taken away from whoever loads it stays unbound until its lock is let go of. -/
def Account.Vacant (c : Account) : Prop :=
  ∀ t i g a, c.stake t = .loading i g a → (c.pool.slot i).generation ≠ g →
    (c.pool.slot i).asset = none

namespace Account.Vacant

variable {c d : Account} {ns : List Note} {q : Pool} {t : TaskId} {s : Stake}

lemma put (h : c.Vacant)
    (hq : ∀ u j, u ≠ t → (c.stake u).held? = some j → (q.slot j).asset = none ∨
      (q.slot j).generation = (c.pool.slot j).generation ∧
        (q.slot j).asset = (c.pool.slot j).asset)
    (hs : ∀ j g a, s = .loading j g a → (q.slot j).generation = g) : (c.put q t s).Vacant := by
  intro u j g a hu hg
  simp only [Account.put, Function.update_apply] at hu hg ⊢
  split at hu
  · exact absurd (hs j g a hu) hg
  · next hne =>
    rcases hq u j hne (by rw [hu]; rfl) with hnone | ⟨hgen, hasset⟩
    · exact hnone
    · exact hasset.trans (h u j g a hu (hgen ▸ hg))

lemma congr (h : c.Vacant) (hq : ∀ j, (q.slot j).asset = none ∨
    (q.slot j).generation = (c.pool.slot j).generation ∧
      (q.slot j).asset = (c.pool.slot j).asset) : Vacant ⟨q, c.stake⟩ := by
  intro u j g a hu hg
  rcases hq j with hnone | ⟨hgen, hasset⟩
  · exact hnone
  · exact hasset.trans (h u j g a hu (hgen ▸ hg))

lemma book (h : c.Vacant) (hq : c.pool.Agrees q) : Vacant ⟨q, c.stake⟩ :=
  h.congr fun j => .inr ⟨(Slot.binding_eq_iff.mp (hq.binding j)).2.2.2,
    (Slot.binding_eq_iff.mp (hq.binding j)).1⟩

lemma move (h : c.Vacant) (hc : c.Good) (m : Move c ns d) : d.Vacant := by
  cases m with
  | still hq => exact h.book hq.toAgrees
  | count | close => exact h.congr fun _ => .inr ⟨rfl, rfl⟩
  | keep =>
    refine h.put (fun u j _ _ => ?_) (by simp)
    rw [Pool.slot_touch]
    split <;> exact .inr ⟨rfl, rfl⟩
  | wait =>
    refine h.put (fun u j _ _ => ?_) (by simp)
    rw [Pool.slot_enqueue]
    split <;> exact .inr ⟨rfl, rfl⟩
  | enter =>
    refine h.put (fun u j _ _ => ?_) (by simp)
    rw [Pool.slot_lock]
    split <;> exact .inr ⟨rfl, rfl⟩
  | leave =>
    refine h.put (fun u j _ _ => ?_) (by simp)
    rw [Pool.slot_unlock]
    split <;> exact .inr ⟨rfl, rfl⟩
  | serve | lose => exact h.put (fun _ _ _ _ => .inr ⟨rfl, rfl⟩) (by simp)
  | @take t a i idle alive unbound free lt =>
    refine h.put (fun u j _ hu => .inr ?_) fun j g b hs => ?_
    · simp [hc.ne_of_isFree hu free]
    · cases hs
      simp [lt, Slot.bind]
  | load =>
    refine h.put (fun u j _ _ => ?_) (by simp)
    rw [Pool.slot_modifySlot]
    split <;> exact .inr ⟨rfl, rfl⟩
  | fail =>
    refine h.put (fun u j _ _ => ?_) (by simp)
    rw [Pool.slot_unbind]
    split
    · exact .inl rfl
    · exact .inr ⟨rfl, rfl⟩
  | unbind =>
    refine h.congr fun j => ?_
    rw [Pool.slot_unbind]
    split
    · exact .inl rfl
    · exact .inr ⟨rfl, rfl⟩
  | reset =>
    refine h.congr fun j => ?_
    rw [Pool.slot_reset]
    split
    · exact .inl rfl
    · exact .inr ⟨rfl, rfl⟩

lemma course (h : c.Vacant) (hc : c.Good) (k : Course c ns d) : d.Vacant := by
  induction k with
  | refl => exact h
  | move k m ih => exact ih.move (k.good hc) m
  | book _ hq ih => exact ih.book hq

end Account.Vacant

/-! ### What becomes of a slot -/

namespace Slot

/-- The slot is as it was, and its element has the source that it had. -/
structure Keeps (s s' : Slot) : Prop where
  binding : s'.binding = s.binding
  element : s.element.Tame s'.element

/-- Nothing is bound to the slot any more, and nothing is loaded. -/
structure Clears (s s' : Slot) : Prop where
  later : s.generation < s'.generation
  asset : s'.asset = none
  source : s'.element.source = none
  paused : s'.element.isPaused = true

/-- The slot is bound to an asset that is still to be loaded. -/
structure Reserves (s s' : Slot) : Prop where
  later : s.generation < s'.generation
  asset : s'.asset ≠ none
  prepared : s'.prepared = false

/-- The slot is bound to an asset, and its load has begun; it is over if it can succeed. -/
structure Binds (a : AssetId) (url : String) (good : Prop) (s s' : Slot) : Prop where
  later : s.generation < s'.generation
  asset : s'.asset = some a
  source : s'.element.source = some url
  loaded : s'.prepared = true → good

/-- The load of the slot has begun; it is over if it can succeed. -/
structure Fills (url : String) (good : Prop) (s s' : Slot) : Prop where
  same : s'.generation = s.generation
  asset : s'.asset = s.asset
  source : s'.element.source = some url
  loaded : s'.prepared = true → s.prepared = true ∨ good

variable {s s' s'' : Slot} {a : AssetId} {url : String} {good : Prop}

namespace Keeps

lemma refl (s : Slot) : s.Keeps s := ⟨rfl, .refl _⟩

lemma trans (h : s.Keeps s') (h' : s'.Keeps s'') : s.Keeps s'' :=
  ⟨h'.binding.trans h.binding, h.element.trans h'.element⟩

lemma asset (h : s.Keeps s') : s'.asset = s.asset := (binding_eq_iff.mp h.binding).1

lemma prepared (h : s.Keeps s') : s'.prepared = s.prepared := (binding_eq_iff.mp h.binding).2.2.1

lemma generation (h : s.Keeps s') : s'.generation = s.generation :=
  (binding_eq_iff.mp h.binding).2.2.2

lemma clears (h : s.Keeps s') (h' : s'.Clears s'') : s.Clears s'' :=
  ⟨h.generation ▸ h'.later, h'.asset, h'.source, h'.paused⟩

lemma binds (h : s.Keeps s') (h' : s'.Binds a url good s'') : s.Binds a url good s'' :=
  ⟨h.generation ▸ h'.later, h'.asset, h'.source, h'.loaded⟩

end Keeps

lemma Clears.keeps (h : s.Clears s') (h' : s'.Keeps s'') : s.Clears s'' where
  later := h'.generation ▸ h.later
  asset := h'.asset.trans h.asset
  source := h'.element.source.trans h.source
  paused := h'.element.paused h.source h.paused

lemma Reserves.keeps (h : s.Reserves s') (h' : s'.Keeps s'') : s.Reserves s'' :=
  ⟨h'.generation ▸ h.later, h'.asset ▸ h.asset, h'.prepared.trans h.prepared⟩

lemma Fills.keeps (h : s.Fills url good s') (h' : s'.Keeps s'') : s.Fills url good s'' :=
  ⟨h'.generation.trans h.same, h'.asset.trans h.asset, h'.element.source.trans h.source,
    fun hp => h.loaded (h'.prepared ▸ hp)⟩

lemma Binds.keeps (h : s.Binds a url good s') (h' : s'.Keeps s'') : s.Binds a url good s'' :=
  ⟨h'.generation ▸ h.later, h'.asset.trans h.asset, h'.element.source.trans h.source,
    fun hp => h.loaded (h'.prepared ▸ hp)⟩

lemma clears_unbind (s : Slot) (now : Nat) : s.Clears (s.unbind now) :=
  ⟨Nat.lt_succ_self _, rfl, rfl, rfl⟩

/-- What a load that is over comes to: it is lost, it fails, or the slot is loaded. -/
inductive Ends (url : String) (good : Prop) (s s' : Slot) : Prop
  | keeps (h : s.Keeps s')
  | clears (h : s.Clears s')
  | fills (h : s.Fills url good s')

lemma Ends.keeps' (h : s.Ends url good s') (h' : s'.Keeps s'') : s.Ends url good s'' := by
  cases h with
  | keeps h => exact .keeps (h.trans h')
  | clears h => exact .clears (h.keeps h')
  | fills h => exact .fills (h.keeps h')

/-- What some picks come to. -/
inductive Picks (a : AssetId) (url : String) (good : Prop) (s s' : Slot) : Prop
  | keeps (h : s.Keeps s')
  | clears (h : s.Clears s')
  | binds (h : s.Binds a url good s')

lemma Keeps.picks (h : s.Keeps s') (h' : s'.Picks a url good s'') : s.Picks a url good s'' := by
  cases h' with
  | keeps h' => exact .keeps (h.trans h')
  | clears h' => exact .clears (h.clears h')
  | binds h' => exact .binds (h.binds h')

lemma Fills.ends (h : s.Fills url good s') (h' : s'.Ends url good s'') : s.Ends url good s'' := by
  cases h' with
  | keeps h' => exact .fills (h.keeps h')
  | clears h' => exact .clears ⟨h.same ▸ h'.later, h'.asset, h'.source, h'.paused⟩
  | fills h' =>
    exact .fills ⟨h'.same.trans h.same, h'.asset.trans h.asset, h'.source, fun hp =>
      (h'.loaded hp).elim h.loaded .inr⟩

lemma Binds.ends (h : s.Binds a url good s') (h' : s'.Ends url good s'') :
    s.Picks a url good s'' := by
  cases h' with
  | keeps h' => exact .binds (h.keeps h')
  | clears h' => exact .clears ⟨Nat.lt_trans h.later h'.later, h'.asset, h'.source, h'.paused⟩
  | fills h' =>
    exact .binds ⟨h'.same ▸ h.later, h'.asset.trans h.asset, h'.source, fun hp =>
      (h'.loaded hp).elim h.loaded id⟩

end Slot

namespace Pool

variable {p q : Pool} {i j : Nat}

lemma Tame.keeps (h : p.Tame q) (j : Nat) : (p.slot j).Keeps (q.slot j) :=
  ⟨h.binding j, h.element j⟩

lemma keeps_unlock (p : Pool) (i j : Nat) : (p.slot j).Keeps ((p.unlock i).slot j) := by
  rw [slot_unlock]
  split <;> exact ⟨rfl, .refl _⟩

lemma keeps_lock (p : Pool) (i j : Nat) (t : TaskId) : (p.slot j).Keeps ((p.lock i t).slot j) := by
  rw [slot_lock]
  split <;> exact ⟨rfl, .refl _⟩

lemma keeps_enqueue (p : Pool) (i j : Nat) (t : TaskId) :
    (p.slot j).Keeps ((p.enqueue i t).slot j) := by
  rw [slot_enqueue]
  split <;> exact ⟨rfl, .refl _⟩

lemma keeps_touch (p : Pool) (i j : Nat) : (p.slot j).Keeps ((p.touch i).slot j) := by
  rw [slot_touch]
  split <;> exact ⟨rfl, .refl _⟩

lemma ends_unbind (p : Pool) (i j : Nat) (url : String) (good : Prop) :
    (p.slot j).Ends url good ((p.unbind i).slot j) := by
  rw [slot_unbind]
  split
  · exact .clears (Slot.clears_unbind _ _)
  · exact .keeps (.refl _)

lemma ends_finishLoad {url : String} {good : Prop} (source : (p.element i).source = some url)
    (hgood : good) (j : Nat) :
    (p.slot j).Ends url good ((p.modifySlot i Slot.finishLoad).slot j) := by
  rw [slot_modifySlot]
  split
  · next hij =>
    rw [hij.1] at source
    exact .fills ⟨rfl, rfl, source, fun _ => .inr hgood⟩
  · exact .keeps (.refl _)

end Pool

namespace Request

variable {t : TaskId} {r : Request} {p : Pool} {i g due n : Nat} {out : Pool × Stage}

lemma Seeks.keeps (h : Seeks r p i g out) (j : Nat) : (p.slot j).Keeps (out.1.slot j) := by
  cases h with
  | waits tame => exact tame.keeps j
  | @ends q _ tame | @lost q tame => exact (tame.keeps j).trans (q.keeps_unlock i j)

lemma Loads.ends (h : Loads r p i g due out) (j : Nat) :
    (p.slot j).Ends r.asset.url (p.backend.refuses r.asset.url = false) (out.1.slot j) := by
  cases h with
  | waits => exact .keeps (.refl _)
  | @lost q tame => exact .keeps ((tame.keeps j).trans (q.keeps_unlock i j))
  | @fails q _ _ tame =>
    exact ((p.ends_unbind i j _ _).keeps' (tame.keeps j)).keeps' (q.keeps_unlock i j)
  | loads _ _ source seeks good =>
    exact (Pool.ends_finishLoad source good j).keeps' (seeks.keeps j)

lemma Loads.keeps_of_ne (h : Loads r p i g due out) {j : Nat} (hij : i ≠ j) :
    (p.slot j).Keeps (out.1.slot j) := by
  cases h with
  | waits => exact .refl _
  | @lost q tame => exact (tame.keeps j).trans (q.keeps_unlock i j)
  | @fails q _ _ tame =>
    have hunbind : (p.unbind i).slot j = p.slot j := by simp [hij]
    exact (hunbind ▸ tame.keeps j).trans (q.keeps_unlock i j)
  | loads _ _ _ seeks =>
    have hload : (p.modifySlot i Slot.finishLoad).slot j = p.slot j := by simp [hij]
    exact hload ▸ seeks.keeps j

lemma Loads.keeps_of_lost (h : Loads r p i g due out) (hl : p.isLost i g = true) (j : Nat) :
    (p.slot j).Keeps (out.1.slot j) := by
  cases h with
  | waits => exact .refl _
  | @lost q tame => exact (tame.keeps j).trans (q.keeps_unlock i j)
  | fails _ _ had => simp [hl] at had
  | loads _ had => simp [hl] at had

lemma Runs.picks (h : Runs t r n p out) (j : Nat) :
    (p.slot j).Picks r.asset.id r.asset.url (p.backend.refuses r.asset.url = false)
      (out.1.slot j) := by
  induction h with
  | spent | refused | exhausted => exact .keeps (.refl _)
  | @binds n i p q out alive unbound free lt hi tame loads _ failing =>
    have hq := tame.keeps j
    rw [Pool.slot_begun] at hq
    by_cases hij : i = j
    · rw [if_pos ⟨hij, lt⟩] at hq
      have hbinds : (p.slot j).Binds r.asset.id r.asset.url (p.backend.refuses r.asset.url = false)
          (q.slot j) := Slot.Binds.keeps ⟨Nat.lt_succ_self _, rfl, rfl, fun hp => by cases hp⟩ hq
      have hends := loads.ends j
      rw [Backend.refuses, failing] at hends
      exact hbinds.ends hends
    · rw [if_neg (by simp [hij])] at hq
      exact .keeps (hq.trans (loads.keeps_of_ne hij))
  | @serves n i p out bound free serves seeks =>
    exact .keeps (((p.keeps_touch i j).trans (Pool.keeps_lock _ i j t)).trans (seeks.keeps j))
  | @again n i p out bound free runs other ih =>
    have hunlocked := ((p.keeps_touch i j).trans (Pool.keeps_lock _ i j t)).trans
      (Pool.keeps_unlock _ i j)
    have hbackend : (((p.touch i).lock i t).unlock i).backend = p.backend := Pool.backend_unlock _ i
    rw [hbackend] at ih
    exact hunlocked.picks ih
  | @joins n i p => exact .keeps ((p.keeps_touch i j).trans (Pool.keeps_enqueue _ i j t))
  | @waits n i p => exact .keeps (p.countUse.keeps_enqueue i j t)

end Request

/-- What work is for. -/
def Work.asset : Work → AssetId
  | request r _ => r.asset.id
  | warmup w _ => w.asset

/-- Where work loads its asset from. -/
def Work.url : Work → String
  | request r _ => r.asset.url
  | warmup w _ => w.url

namespace Pool

/-- Nobody gives the element of a slot another source from outside. -/
def Event.Gentle : Event → Prop
  | element _ f => ∀ e : Element, e.Tame (f e)
  | _ => True

/-- A load in advance has its first turn after its slot was taken away. -/
def Event.StartsLate (p : Pool) (i : Nat) : Event → Prop
  | resume t => ∃ w, p.work? t = some (.warmup w .unstarted) ∧ w.slot = i ∧
    p.isLost i w.generation = true
  | _ => False

/-- What may become of a slot in an event. -/
inductive Event.Turns (p : Pool) (e : Event) (i : Nat) (s : Slot) : Prop
  | keeps (h : (p.slot i).Keeps s)
  | clears (h : (p.slot i).Clears s)
  | reserves (h : (p.slot i).Reserves s)
  | binds {t : TaskId} {r : Request} {stage : Request.Stage} (turn : e = .resume t)
      (work : p.work? t = some (.request r stage)) (live : ∀ result, stage ≠ .done result)
      (h : (p.slot i).Binds r.asset.id r.asset.url (p.backend.refuses r.asset.url = false) s)
  | fills {t : TaskId} {w : Work} (turn : e = .resume t) (work : p.work? t = some w)
      (stake : w.stake = .loading i (p.slot i).generation w.asset)
      (asset : (p.slot i).asset = some w.asset) (empty : (p.slot i).prepared = false)
      (h : (p.slot i).Fills w.url (p.backend.refuses w.url = false) s)
  | late (late : e.StartsLate p i) (binding : s.binding = (p.slot i).binding)
      (unbound : (p.slot i).asset = none) (source : s.element.source ≠ none)

variable {p : Pool} {t : TaskId} {i : Nat}

lemma Event.Turns.of_picks {r : Request} {stage : Request.Stage} {s : Slot}
    (hw : p.work? t = some (.request r stage)) (hs : ∀ result, stage ≠ .done result)
    (h : (p.slot i).Picks r.asset.id r.asset.url (p.backend.refuses r.asset.url = false) s) :
    Turns p (.resume t) i s := by
  cases h with
  | keeps h => exact .keeps h
  | clears h => exact .clears h
  | binds h => exact .binds rfl hw hs h

lemma Event.Turns.of_ends {w : Work} {s : Slot} {g : Nat} (hp : p.Ordered)
    (hw : p.work? t = some w) (hs : w.stake = .loading i g w.asset) (had : p.isLost i g = false)
    (h : (p.slot i).Ends w.url (p.backend.refuses w.url = false) s) :
    Turns p (.resume t) i s := by
  cases h with
  | keeps h => exact .keeps h
  | clears h => exact .clears h
  | fills h =>
    obtain ⟨-, rfl⟩ := isLost_eq_false.mp had
    have hstake := (stake_of_work? hw).trans hs
    obtain ⟨hloading, hasset⟩ := (hp.good.owned.loading hstake).2 rfl
    exact .fills rfl hw hs hasset ((hp.good.tidy.sound i).not_prepared hloading) h

/-- What a step of a request does to a slot. -/
lemma turns_request {r : Request} {stage : Request.Stage} (hp : p.Ordered)
    (hw : p.work? t = some (.request r stage)) (i : Nat) :
    Event.Turns p (.resume t) i ((p.resume t).slot i) := by
  have hslot : (p.resume t).slot i = (r.poll t p stage).1.slot i := slot_resume hw i
  rw [hslot]
  by_cases hdone : ∃ result, stage = .done result
  · obtain ⟨result, rfl⟩ := hdone
    exact .keeps (.refl _)
  have hs : ∀ result, stage ≠ .done result := fun result h => hdone ⟨result, h⟩
  have hsteps : Request.Steps t r p stage (r.poll t p stage) := .poll hp.good.tidy hs
  obtain ⟨out, hout⟩ : ∃ out, r.poll t p stage = out := ⟨_, rfl⟩
  rw [hout] at hsteps ⊢
  cases hsteps with
  | refused | stays => exact .keeps (.refl _)
  | starts runs => exact .of_picks hw hs (runs.picks i)
  | uses _ _ seeks | seeks seeks => exact .keeps (seeks.keeps i)
  | @again j _ _ _ _ runs =>
    have hpicks := runs.picks i
    rw [Pool.backend_unlock] at hpicks
    exact .of_picks hw hs ((p.keeps_unlock j i).picks hpicks)
  | @loads j g due _ loads =>
    by_cases hij : j = i
    · subst hij
      rcases hl : p.isLost j g with _ | _
      · exact .of_ends hp hw rfl hl (loads.ends j)
      · exact .keeps (loads.keeps_of_lost hl j)
    · exact .keeps (loads.keeps_of_ne hij)

end Pool

/-! ### Loads in advance -/

namespace Warmup

variable {w : Warmup} {p : Pool}

lemma keeps_of_lost (hl : p.isLost w.slot w.generation = true) (due i : Nat) :
    (p.slot i).Keeps ((w.pollLoad p due).1.slot i) := by
  unfold pollLoad
  split
  · rw [Pool.finish_lost hl]
    exact p.keeps_unlock w.slot i
  · exact .refl _

lemma pollLoad_cases (had : p.isLost w.slot w.generation = false) (due : Nat) :
    (w.pollLoad p due).1 = p ∨ (w.pollLoad p due).1 = (p.unbind w.slot).unlock w.slot ∨
      (w.pollLoad p due).1 = (p.modifySlot w.slot Slot.finishLoad).unlock w.slot ∧
        (p.element w.slot).source = some w.url ∧ p.backend.refuses w.url = false := by
  unfold pollLoad
  split
  · rcases Request.loadResult_cases (p.element w.slot) p.backend w.url with
      ⟨hres, hs, good⟩ | ⟨_, hres, -⟩
    · exact .inr (.inr ⟨by simp [Pool.finishLoad, had, hres], hs, good⟩)
    · exact .inr (.inl (by simp [Pool.finishLoad, had, hres]))
  · exact .inl rfl

lemma ends_pollLoad (had : p.isLost w.slot w.generation = false) (due i : Nat) :
    (p.slot i).Ends w.url (p.backend.refuses w.url = false) ((w.pollLoad p due).1.slot i) := by
  rcases pollLoad_cases had due with hq | hq | ⟨hq, hsource, good⟩ <;> rw [hq]
  · exact .keeps (.refl _)
  · exact (p.ends_unbind w.slot i _ _).keeps' (Pool.keeps_unlock _ w.slot i)
  · exact (Pool.ends_finishLoad hsource good i).keeps' (Pool.keeps_unlock _ w.slot i)

lemma keeps_of_ne {i : Nat} (hi : w.slot ≠ i) (due : Nat) :
    (p.slot i).Keeps ((w.pollLoad p due).1.slot i) := by
  rcases hl : p.isLost w.slot w.generation with _ | _
  · rcases pollLoad_cases hl due with hq | hq | ⟨hq, -⟩ <;> rw [hq]
    · exact .refl _
    · have hunbind : (p.unbind w.slot).slot i = p.slot i := by simp [hi]
      exact hunbind ▸ Pool.keeps_unlock _ w.slot i
    · have hload : (p.modifySlot w.slot Slot.finishLoad).slot i = p.slot i := by simp [hi]
      exact hload ▸ Pool.keeps_unlock _ w.slot i
  · exact keeps_of_lost hl due i

end Warmup

namespace Pool

variable {p q : Pool} {t : TaskId} {i : Nat} {e : Event} {w : Warmup}

/-- The pool after a load in advance has begun. -/
def begun (p : Pool) (t : TaskId) (w : Warmup) : Pool :=
  let p' := p.beginLoad w.slot w.url
  { p' with agenda := p'.agenda.sleepUntil t (p.now + p.backend.loadMs) }

lemma slot_warmup (p : Pool) (w : Warmup) (t : TaskId) (j : Nat) :
    (p.begun t w).slot j = if w.slot = j ∧ w.slot < p.size then
      { p.slot j with element := (p.element j).beginLoad w.url } else p.slot j := by
  have hslot : (p.begun t w).slot j =
      (p.modifyElement w.slot fun e => e.beginLoad w.url).slot j := rfl
  rw [hslot, slot_modifyElement]
  rfl

lemma isLost_begun (p : Pool) (w : Warmup) (t : TaskId) (g : Nat) :
    (p.begun t w).isLost w.slot g = p.isLost w.slot g := by
  have hdisposed : (p.begun t w).disposed = p.disposed := rfl
  rw [isLost, isLost, slot_warmup, hdisposed]
  split <;> rfl

/-- **A late start** sets the source of an element that nothing is bound to. -/
lemma Event.StartsLate.turns (h : e.StartsLate p i) (hp : p.Ordered) (hv : p.account.Vacant) :
    ((e.apply p).slot i).binding = (p.slot i).binding ∧ (p.slot i).asset = none ∧
      ((e.apply p).element i).source ≠ none := by
  cases e with
  | resume t =>
    obtain ⟨w, hw, rfl, hl⟩ := h
    have hstake := stake_of_work? hw
    have hholds := holds_iff.mpr (hp.holder_of_work? hw rfl)
    have hlt := p.lt_size_of_holds hholds
    have hunbound : (p.slot w.slot).asset = none := by
      rcases hd : p.disposed with _ | _
      · refine hv t w.slot w.generation w.asset hstake fun hg => ?_
        rw [isLost_eq_false.mpr ⟨hd, hg⟩] at hl
        cases hl
      · exact hp.good.tidy.closed hd w.slot
    have hkeeps := Warmup.keeps_of_lost ((isLost_begun p w t _).trans hl)
      (p.now + p.backend.loadMs) w.slot
    have hslot : (p.resume t).slot w.slot =
        (w.pollLoad (p.begun t w) (p.now + p.backend.loadMs)).1.slot w.slot :=
      slot_resume hw w.slot
    rw [slot_warmup, if_pos ⟨rfl, hlt⟩, ← hslot] at hkeeps
    have hsource : ((p.resume t).element w.slot).source = some w.url := hkeeps.element.source
    exact ⟨hkeeps.binding, hunbound, fun hnone => Option.some_ne_none _ (hsource.symm.trans hnone)⟩
  | _ => exact h.elim

/-- What a step of a load in advance does to a slot. -/
lemma turns_warmup {stage : Warmup.Stage} (hp : p.Ordered) (hv : p.account.Vacant)
    (hw : p.work? t = some (.warmup w stage)) (i : Nat) :
    Event.Turns p (.resume t) i ((p.resume t).slot i) := by
  cases stage with
  | done =>
    have hslot : (p.resume t).slot i = p.slot i := slot_resume hw i
    rw [hslot]
    exact .keeps (.refl _)
  | loading due =>
    have hslot : (p.resume t).slot i = (w.pollLoad p due).1.slot i := slot_resume hw i
    rw [hslot]
    by_cases hi : w.slot = i
    · subst hi
      rcases hl : p.isLost w.slot w.generation with _ | _
      · exact .of_ends hp hw rfl hl (Warmup.ends_pollLoad hl due _)
      · exact .keeps (Warmup.keeps_of_lost hl due _)
    · exact .keeps (Warmup.keeps_of_ne hi due)
  | unstarted =>
    have hslot : (p.resume t).slot i =
        (w.pollLoad (p.begun t w) (p.now + p.backend.loadMs)).1.slot i := slot_resume hw i
    have hbegun := p.slot_warmup w t i
    by_cases hi : w.slot = i
    · subst hi
      rcases hl : p.isLost w.slot w.generation with _ | _
      · -- the slot is still had, and its load begins
        have hholds := holds_iff.mpr (hp.holder_of_work? hw rfl)
        rw [if_pos ⟨rfl, p.lt_size_of_holds hholds⟩] at hbegun
        have hfills : (p.slot w.slot).Fills w.url (p.backend.refuses w.url = false)
            ((p.begun t w).slot w.slot) := by
          rw [hbegun]
          exact ⟨rfl, rfl, rfl, .inl⟩
        rw [hslot]
        exact .of_ends hp hw rfl hl
          (hfills.ends (Warmup.ends_pollLoad ((isLost_begun p w t _).trans hl) _ w.slot))
      · have hlate : (Event.resume t).StartsLate p w.slot := ⟨w, hw, rfl, hl⟩
        obtain ⟨hbinding, hunbound, hsource⟩ := hlate.turns hp hv
        exact .late hlate hbinding hunbound hsource
    · rw [if_neg (by simp [hi])] at hbegun
      rw [hslot]
      exact .keeps (hbegun ▸ Warmup.keeps_of_ne hi _)

lemma slot_warmUp (lookup : AssetId → Option MediaAsset) (budget : Nat) (ids : List AssetId)
    (n : Nat) (p : Pool) (i : Nat) :
    (p.slot i).Keeps ((warmUp lookup budget ids n p).2.slot i) ∨
      (p.slot i).Reserves ((warmUp lookup budget ids n p).2.slot i) := by
  fun_induction warmUp lookup budget ids n p with
  | case1 | case2 | case4 => exact .inl (.refl _)
  | case3 _ _ _ _ _ _ ih | case6 _ _ _ _ _ _ _ _ ih => exact ih
  | case5 budget id rest n p a _ _ j hidle ih =>
    have hlt := (idleSlot?_eq_some hidle).1
    have hstart := p.slot_startWarmup j i id a.url
    rw [slot_rebind] at hstart
    split at hstart
    · have hreserves : (p.slot i).Reserves ((p.startWarmup j id a.url).slot i) := by
        rw [hstart]
        exact ⟨Nat.lt_succ_self _, Option.some_ne_none _, rfl⟩
      rcases ih with ih | ih
      · exact .inr (hreserves.keeps ih)
      · exact .inr ⟨Nat.lt_trans hreserves.later ih.later, ih.asset, ih.prepared⟩
    · rwa [hstart] at ih

lemma slot_preload (p : Pool) (upcoming : List AssetId) (assets : AssetTable) (i : Nat) :
    (p.slot i).Keeps ((p.preload upcoming assets).2.slot i) ∨
      (p.slot i).Reserves ((p.preload upcoming assets).2.slot i) := by
  unfold preload preloadFrom
  split
  · exact .inl (.refl _)
  · exact slot_warmUp assets.find? _ upcoming 0 p i

lemma slot_warmUp_of_bound (lookup : AssetId → Option MediaAsset) (budget : Nat)
    (ids : List AssetId) (n : Nat) (p : Pool) (hi : (p.slot i).asset ≠ none) :
    (warmUp lookup budget ids n p).2.slot i = p.slot i := by
  fun_induction warmUp lookup budget ids n p with
  | case1 | case2 | case4 => rfl
  | case3 _ _ _ _ _ _ ih | case6 _ _ _ _ _ _ _ _ ih => exact ih hi
  | case5 budget id rest n p a _ _ j hidle ih =>
    have hslot : (p.startWarmup j id a.url).slot i = p.slot i := by
      rw [slot_startWarmup, slot_rebind, if_neg]
      rintro ⟨rfl, -⟩
      exact hi (idleSlot?_eq_some hidle).2.1
    rw [ih (by rwa [hslot]), hslot]

lemma slot_preload_of_bound (upcoming : List AssetId) (assets : AssetTable)
    (hi : (p.slot i).asset ≠ none) : (p.preload upcoming assets).2.slot i = p.slot i := by
  unfold preload preloadFrom
  split
  · rfl
  · exact slot_warmUp_of_bound assets.find? _ upcoming 0 p hi

lemma keeps_pauseExcept (p : Pool) (active : List AssetId) (i : Nat) :
    (p.slot i).Keeps ((p.pauseExcept active).slot i) := by
  simp only [slot, pauseExcept, List.getElem?_map]
  rcases p.slots[i]? with _ | s
  · exact .refl _
  · dsimp only [Option.map_some, Option.getD_some]
    split
    · exact .refl _
    · split
      · exact .refl _
      · exact ⟨rfl, .pause _ _⟩

/-! ### What becomes of a slot in an event -/

/-- **What an event does to a slot.** -/
theorem Event.turns (e : Event) (hp : p.Ordered) (hv : p.account.Vacant) (he : e.Gentle) (i : Nat) :
    Turns p e i ((e.apply p).slot i) := by
  cases e with
  | request | attend | backend | schedule => exact .keeps (.refl _)
  | call r =>
    simp only [apply]
    split <;> exact .keeps (.refl _)
  | resume t =>
    rcases hw : p.work? t with _ | w
    · rw [apply, resume_eq_self hw]
      exact .keeps (.refl _)
    · cases w with
      | request r stage => exact turns_request hp hw i
      | warmup w stage => exact turns_warmup hp hv hw i
  | collect t =>
    simp only [apply]
    split <;> exact .keeps (.refl _)
  | preload upcoming assets =>
    rcases p.slot_preload upcoming assets i with h | h
    · exact .keeps h
    · exact .reserves h
  | release asset =>
    simp only [apply, Pool.release]
    split
    · next j _ =>
      rw [slot_unbind]
      split
      · exact .clears (Slot.clears_unbind _ _)
      · exact .keeps (.refl _)
    · exact .keeps (.refl _)
  | reset | dispose =>
    have hslot := p.slot_reset i
    split at hslot
    · exact .clears (hslot ▸ Slot.clears_unbind _ _)
    · exact .keeps (hslot ▸ .refl _)
  | pauseExcept active => exact .keeps (p.keeps_pauseExcept active i)
  | element j f => exact .keeps ((Tame.modifyElement he j).keeps i)

lemma vacant_new (config : PoolConfig) (backend : Backend) :
    (Pool.new config backend).account.Vacant := by
  intro t i g a h
  cases h

lemma Ordered.vacant (hp : p.Ordered) (hv : p.account.Vacant) (es : List Event) :
    (p.run es).account.Vacant := by
  obtain ⟨ns, hns⟩ := Traced.exists_of hp es
  exact hv.course hp.good hns.course

end Pool

end Montage
