import Montage.Preview.Scene
import Montage.Proofs.Preview.Passes

/-!
A pass turn by turn.

A turn takes a pass over one clip, or to the element of one, or on from there with what the pool
has answered. Beside it the pool goes on in whatever way, and the playhead moves, but only while the
pass waits. An evaluation is a trail of such turns, and the trail tells what the pool has answered
for which clip.
-/

namespace Montage

/-- The pool may be another, and the playhead elsewhere; nothing else has changed. -/
structure Rig.Drifts (r r' : Rig) : Prop where
  compositor : r'.compositor = { r.compositor with pool := r'.pool }
  requests : r'.host.requests = r.host.requests

namespace Rig.Drifts

variable {r r₁ r₂ : Rig}

@[refl] lemma refl (r : Rig) : r.Drifts r := ⟨rfl, rfl⟩

lemma trans (h : r.Drifts r₁) (k : r₁.Drifts r₂) : r.Drifts r₂ := by
  refine ⟨?_, k.requests.trans h.requests⟩
  rw [k.compositor, h.compositor]

lemma modifyPool (h : r.Drifts r₁) (f : Pool → Pool) : r.Drifts (r₁.modifyPool f) :=
  h.trans ⟨rfl, rfl⟩

lemma movePlayhead (h : r.Drifts r₁) (frame : Frame) : r.Drifts (r₁.movePlayhead frame) :=
  h.trans ⟨rfl, rfl⟩

end Rig.Drifts

namespace Pass

/-- What the pool has answered for the element of the clip in some place of the stack. -/
structure Answer where
  place : Nat
  result : Except MediaError Handle

/-- A point in an evaluation: with some clips still to come, or at a step. -/
inductive Point where
  | clips (p : Pass) (items : List PassItem)
  | step (s : Step)

/-- One turn of a pass, and what it has been answered. -/
inductive Turn (r : Rig) : Point → List Answer → Rig → Point → Prop
  | finish (p : Pass) :
      Turn r (.clips p []) [] (p.finish r).1 (.step (.ended (.ok (.applied (p.finish r).2))))
  | unknown {p : Pass} {item : PassItem} (rest : List PassItem)
      (none : p.assets.find? item.active.clip.asset = none) :
      Turn r (.clips p (item :: rest)) [] r
        (.clips (p.fail item (.unknownAsset item.active.clip.asset)) rest)
  /-- The clip needs no element. -/
  | plain {p : Pass} {item : PassItem} {asset : MediaAsset} (rest : List PassItem)
      (found : p.assets.find? item.active.clip.asset = some asset)
      (needless : asset.needsElement = false) :
      Turn r (.clips p (item :: rest)) [] r
        (.clips ({ p with activeAssets := asset.id :: p.activeAssets }.addLayer item asset none)
          rest)
  | fault {p : Pass} {item : PassItem} {asset : MediaAsset} {f : Fault} (rest : List PassItem)
      (found : p.assets.find? item.active.clip.asset = some asset)
      (needed : asset.needsElement = true)
      (time : p.snapshot.rate.secondsOf item.active.sourceFrame = (.error f : Except Fault Float)) :
      Turn r (.clips p (item :: rest)) [] r (.step (.ended (.error (.core (.fault f)))))
  | ask {p : Pass} {item : PassItem} {asset : MediaAsset} {target : Float} (rest : List PassItem)
      (found : p.assets.find? item.active.clip.asset = some asset)
      (needed : asset.needsElement = true)
      (time : p.snapshot.rate.secondsOf item.active.sourceFrame = .ok target) :
      Turn r (.clips p (item :: rest)) []
        (r.modifyPool fun pool => pool.take TaskId.main
          ⟨asset, target, p.playback.isPlaying, p.pinned⟩)
        (.step (.waits { p with activeAssets := asset.id :: p.activeAssets } item asset rest))
  | drift {p : Pass} {item : PassItem} {asset : MediaAsset} {rest : List PassItem} {r' : Rig}
      (drifts : r.Drifts r') :
      Turn r (.step (.waits p item asset rest)) [] r' (.step (.waits p item asset rest))
  | serve {p : Pass} {item : PassItem} {asset : MediaAsset} {rest : List PassItem} {h : Handle}
      (result : r.pool.result? TaskId.main = some (.ok h)) (still : r.host.playhead = p.frame) :
      Turn r (.step (.waits p item asset rest)) [⟨item.zIndex, .ok h⟩]
        (p.serve (r.modifyPool fun pool => pool.forget TaskId.main) item asset h).1
        (.clips (p.serve (r.modifyPool fun pool => pool.forget TaskId.main) item asset h).2 rest)
  | refuse {p : Pass} {item : PassItem} {asset : MediaAsset} {rest : List PassItem} {e : MediaError}
      (result : r.pool.result? TaskId.main = some (.error e)) (other : e ≠ .disposed)
      (still : r.host.playhead = p.frame) :
      Turn r (.step (.waits p item asset rest)) [⟨item.zIndex, .error e⟩]
        (r.modifyPool fun pool => pool.forget TaskId.main) (.clips (p.fail item e) rest)
  | close {p : Pass} {item : PassItem} {asset : MediaAsset} {rest : List PassItem}
      (result : r.pool.result? TaskId.main = some (.error .disposed))
      (still : r.host.playhead = p.frame) :
      Turn r (.step (.waits p item asset rest)) [⟨item.zIndex, .error .disposed⟩]
        (r.modifyPool fun pool => pool.forget TaskId.main) (.step (.ended (.error .disposed)))
  | supersede {p : Pass} {item : PassItem} {asset : MediaAsset} {rest : List PassItem}
      {answer : Except MediaError Handle} (result : r.pool.result? TaskId.main = some answer)
      (moved : r.host.playhead ≠ p.frame) :
      Turn r (.step (.waits p item asset rest)) [⟨item.zIndex, answer⟩]
        (r.modifyPool fun pool => pool.forget TaskId.main)
        (.step (.ended (.ok (.superseded p.frame r.host.playhead))))

/-- Any number of turns, with all that has been answered. -/
inductive Trail (r : Rig) (x : Point) : List Answer → Rig → Point → Prop
  | refl : Trail r x [] r x
  | snoc {as bs : List Answer} {r₁ r₂ : Rig} {x₁ x₂ : Point} (trail : Trail r x as r₁ x₁)
      (turn : Turn r₁ x₁ bs r₂ x₂) : Trail r x (as ++ bs) r₂ x₂

namespace Trail

variable {r r₁ r₂ : Rig} {x x₁ x₂ : Point} {as bs : List Answer}

lemma single (t : Turn r x as r₁ x₁) : Trail r x as r₁ x₁ := .snoc .refl t

lemma trans (h : Trail r x as r₁ x₁) (k : Trail r₁ x₁ bs r₂ x₂) :
    Trail r x (as ++ bs) r₂ x₂ := by
  induction k with
  | refl => simpa using h
  | snoc _ turn ih => simpa using ih.snoc turn

end Trail

/-- A pass as the functions carry it on: while it waits, the pool and the playhead drift. -/
inductive Lasts (r : Rig) (s : Step) : Rig → Step → Prop
  | refl : Lasts r s r s
  | drift {r₁ r₂ : Rig} {p : Pass} {item : PassItem} {asset : MediaAsset} {rest : List PassItem}
      (h : Lasts r s r₁ (.waits p item asset rest)) (drifts : r₁.Drifts r₂) :
      Lasts r s r₂ (.waits p item asset rest)
  | resume {r₁ : Rig} {s₁ : Step} (h : Lasts r s r₁ s₁) :
      Lasts r s (Pass.resume r₁ s₁).1 (Pass.resume r₁ s₁).2

variable {r r' : Rig} {p : Pass} {item : PassItem} {asset : MediaAsset} {rest : List PassItem}

lemma Lasts.resume_of_drifts {s : Step} (hs : s.isWaiting = true) (h : r.Drifts r') :
    Lasts r s (Pass.resume r' s).1 (Pass.resume r' s).2 := by
  cases s with
  | waits p item asset rest => exact .resume (.drift .refl h)
  | ended result => cases hs

/-- There is a trail from a point to wherever a function takes it. -/
def Leads (r : Rig) (x : Point) (out : Rig × Step) : Prop :=
  ∃ as, Trail r x as out.1 (.step out.2)

lemma Leads.of_turn {x x₁ : Point} {as : List Answer} {r₁ : Rig} {out : Rig × Step}
    (t : Turn r x as r₁ x₁) (h : Leads r₁ x₁ out) : Leads r x out := by
  obtain ⟨bs, h⟩ := h
  exact ⟨_, (Trail.single t).trans h⟩

lemma receive_ok (h : r.host.playhead = p.frame) (hd : Handle) :
    p.receive r item asset (.ok hd) =
      ((p.serve r item asset hd).1, .inl (p.serve r item asset hd).2) := by
  simp only [Pass.receive, if_pos h]

lemma receive_disposed (h : r.host.playhead = p.frame) :
    p.receive r item asset (.error .disposed) = (r, .inr (.error .disposed)) := by
  simp only [Pass.receive, if_pos h]

lemma receive_error (h : r.host.playhead = p.frame) {e : MediaError} (he : e ≠ .disposed) :
    p.receive r item asset (.error e) = (r, .inl (p.fail item e)) := by
  simp only [Pass.receive, if_pos h]

lemma receive_moved (h : r.host.playhead ≠ p.frame) (result : Except MediaError Handle) :
    p.receive r item asset result = (r, .inr (.ok (.superseded p.frame r.host.playhead))) := by
  simp only [Pass.receive, if_neg h]

/-- After a wait, given that the clips that are left go well. -/
lemma leads_resume_waits (hrun : ∀ r p, Leads r (.clips p rest) (p.run r rest)) :
    Leads r (.step (.waits p item asset rest)) (Pass.resume r (.waits p item asset rest)) := by
  have hdrift : Turn r (.step (.waits p item asset rest)) []
      (r.modifyPool fun pool => pool.resume TaskId.main) (.step (.waits p item asset rest)) :=
    .drift ⟨rfl, rfl⟩
  dsimp only [Pass.resume]
  split
  · exact .of_turn hdrift ⟨_, .refl⟩
  · next result hresult =>
    refine .of_turn hdrift ?_
    generalize r.modifyPool (fun pool => pool.resume TaskId.main) = r₁ at hresult ⊢
    by_cases hstill : (r₁.modifyPool fun pool => pool.forget TaskId.main).host.playhead = p.frame
    · rcases result with e | hd
      · by_cases he : e = .disposed
        · subst he
          rw [receive_disposed hstill]
          exact ⟨_, .single (.close hresult hstill)⟩
        · rw [receive_error hstill he]
          exact .of_turn (.refuse hresult he hstill) (hrun _ _)
      · rw [receive_ok hstill]
        exact .of_turn (.serve hresult hstill) (hrun _ _)
    · rw [receive_moved hstill]
      exact ⟨_, .single (.supersede hresult hstill)⟩

lemma leads_run (r : Rig) (p : Pass) (items : List PassItem) :
    Leads r (.clips p items) (p.run r items) := by
  -- A wait that is over at once goes on with the other clips, so each clip needs the next ones.
  induction items generalizing r p with
  | nil => exact ⟨_, .single (.finish p)⟩
  | cons item rest ih =>
    unfold Pass.run
    split
    · next hnone => exact .of_turn (.unknown rest hnone) (ih _ _)
    · next asset hfound =>
      dsimp only
      split
      · next hneeded =>
        split
        · next htime => exact ⟨_, .single (.fault rest hfound hneeded htime)⟩
        · next htime => exact .of_turn (.ask rest hfound hneeded htime) (leads_resume_waits ih)
      · next hneedless =>
        exact .of_turn (.plain rest hfound (by simpa using hneedless)) (ih _ _)

/-- **A pass leaves a trail**, whatever goes on while it waits. -/
lemma Lasts.leads {s s' : Step} {x : Point} {r₀ : Rig} (h : Lasts r s r' s')
    (hx : Leads r₀ x (r, s)) : Leads r₀ x (r', s') := by
  induction h with
  | refl => exact hx
  | drift _ drifts ih =>
    obtain ⟨as, hx⟩ := ih
    exact ⟨_, hx.snoc (.drift drifts)⟩
  | @resume r₁ s₁ _ ih =>
    obtain ⟨as, hx⟩ := ih
    cases s₁ with
    | ended result => exact ⟨as, hx⟩
    | waits p item asset rest =>
      have hwait : Leads r₁ (.step (.waits p item asset rest))
          (Pass.resume r₁ (.waits p item asset rest)) :=
        leads_resume_waits fun r p => leads_run r p rest
      obtain ⟨bs, hr⟩ := hwait
      exact ⟨_, hx.trans hr⟩

/-- An evaluation that has begun is a trail from its first clip on; one that has not is over. -/
lemma leads_evaluate (r : Rig) (snapshot : Snapshot) (assets : AssetTable)
    (playback : PlaybackState) :
    (∃ e, r.evaluate snapshot assets playback = (r, .ended (.error e))) ∨
      Leads r (.clips (start r snapshot assets playback).1 (start r snapshot assets playback).2)
        (r.evaluate snapshot assets playback) := by
  unfold Rig.evaluate
  split
  · exact .inl ⟨_, rfl⟩
  · split
    · exact .inl ⟨_, rfl⟩
    · exact .inr (leads_run _ _ _)

end Pass

end Montage
