import Mathlib
import Montage.Media.Element
import Montage.Proofs.Floats

/-!
Clocks that are brought to a stand.

When an element is paused its clock is read, and what has passed since it started is added to where
it was. If it has just been moved nothing has passed; but the sum is one of floats, and nought has
two signs. So what is to be shown is that nought, of either sign, makes no difference to a time.
-/

namespace Montage

open Float.Model (UnpackedFloat)
open Float.Model.UnpackedFloat

/-! ### Nought -/

/-- Nought, of either sign. -/
def IsNought (x : Float) : Prop := ∃ s, x.toModel.unpack = .zero s

variable {x y z : Float}

lemma float_eq_of_toModel (h : x.toModel = y.toModel) : x = y := by
  cases x
  cases y
  exact congrArg _ h

lemma pack_unpack_float (x : Float) : Float.Model.pack x.toModel.unpack = x.toModel := by
  rcases x with ⟨⟨⟨bits⟩, valid⟩⟩
  have hpack := pack_unpack_of_valid valid
  unfold Float.Model.pack Float.Model.unpack
  congr 2

lemma float_eq_of_pack {u : UnpackedFloat} (h : x.toModel = Float.Model.pack u)
    (hu : y.toModel.unpack = u) : x = y := by
  subst hu
  rw [pack_unpack_float] at h
  exact float_eq_of_toModel h

namespace IsNought

lemma of_pack {s : UnpackedFloat.Sign} (h : x.toModel = Float.Model.pack (.zero s)) :
    IsNought x := by
  rw [IsNought, h]
  exact ⟨s, unpack_packedZero⟩

lemma zero : IsNought 0.0 := ⟨.positive, by with_unfolding_all rfl⟩

lemma secondsOfMs : IsNought (secondsOfMs 0) := ⟨.positive, by with_unfolding_all rfl⟩

lemma add (hz : IsNought z) (x : Float) : x + z = x ∨ IsNought (x + z) ∧ IsNought x := by
  obtain ⟨s, hz⟩ := hz
  have hadd : (x + z).toModel =
      Float.Model.pack (.add .binary64 x.toModel.unpack z.toModel.unpack) := rfl
  rw [hz] at hadd
  cases hx : x.toModel.unpack with
  | zero s' =>
    refine .inr ⟨?_, ⟨s', hx⟩⟩
    rw [hx] at hadd
    simp only [UnpackedFloat.add] at hadd
    split at hadd <;> exact of_pack hadd
  | _ =>
    rw [hx] at hadd
    exact .inl (float_eq_of_pack hadd hx)

lemma sub (hx : IsNought x) (hy : IsNought y) (z : Float) :
    x - z = y - z ∨ IsNought (x - z) ∧ IsNought (y - z) := by
  have hsub (x : Float) : (x - z).toModel =
      Float.Model.pack (.sub .binary64 x.toModel.unpack z.toModel.unpack) := rfl
  obtain ⟨s, hx⟩ := hx
  obtain ⟨s', hy⟩ := hy
  have hleft := hsub x
  have hright := hsub y
  rw [hx] at hleft
  rw [hy] at hright
  cases hz : z.toModel.unpack with
  | zero s'' =>
    rw [hz] at hleft hright
    simp only [UnpackedFloat.sub] at hleft hright
    refine .inr ⟨?_, ?_⟩
    · split at hleft <;> exact of_pack hleft
    · split at hright <;> exact of_pack hright
  | _ =>
    rw [hz] at hleft hright
    exact .inl (float_eq_of_toModel (hleft.trans hright.symm))

lemma mul (hx : IsNought x) (hy : y.isFinite = true) : IsNought (x * y) := by
  obtain ⟨s, hx⟩ := hx
  have hmul : (x * y).toModel =
      Float.Model.pack (.mul .binary64 x.toModel.unpack y.toModel.unpack) := rfl
  rw [hx] at hmul
  have hfinite : y.toModel.unpack.isFinite = true := hy
  cases hy : y.toModel.unpack with
  | infinity | notANumber =>
    rw [hy] at hfinite
    cases hfinite
  | zero | finite =>
    rw [hy] at hmul
    exact of_pack hmul

lemma le_iff (hx : IsNought x) (hy : IsNought y) (z : Float) : x ≤ z ↔ y ≤ z := by
  obtain ⟨s, hx⟩ := hx
  obtain ⟨s', hy⟩ := hy
  rw [float_le_iff, float_le_iff, hx, hy]
  cases z.toModel.unpack with
  | infinity s | finite s => cases s <;> rfl
  | zero | notANumber => rfl

lemma not_lt (hx : IsNought x) (hy : IsNought y) : ¬x < y := by
  obtain ⟨s, hx⟩ := hx
  obtain ⟨s', hy⟩ := hy
  rw [float_lt_iff, hx, hy]
  exact Bool.false_ne_true

lemma abs (hx : IsNought x) : Scalar.abs x = x := by
  rw [Scalar.abs, if_neg (hx.not_lt zero)]

end IsNought

/-- The times are the same, up to the sign of nought. -/
def SameTime (x y : Float) : Prop := x = y ∨ IsNought x ∧ IsNought y

namespace SameTime

lemma near_iff (h : SameTime x y) (seconds tolerance : Float) :
    Scalar.abs (x - seconds) ≤ tolerance ↔ Scalar.abs (y - seconds) ≤ tolerance := by
  rcases h with rfl | ⟨hx, hy⟩
  · rfl
  · rcases hx.sub hy seconds with heq | ⟨hx', hy'⟩
    · rw [heq]
    · rw [hx'.abs, hy'.abs]
      exact hx'.le_iff hy' tolerance

end SameTime

lemma positivePart_positivePart (x : Float) :
    Scalar.positivePart (Scalar.positivePart x) = Scalar.positivePart x := by
  by_cases hpos : 0.0 < x
  · simp only [Scalar.positivePart, if_pos hpos]
  · simp only [Scalar.positivePart, if_neg hpos, ite_self]

lemma positivePart_add (hz : IsNought z) (x : Float) :
    Scalar.positivePart x + z = Scalar.positivePart x := by
  unfold Scalar.positivePart
  split
  · next hpos => exact (hz.add x).resolve_right fun h => IsNought.zero.not_lt h.2 hpos
  · obtain ⟨s, hz⟩ := hz
    have hadd : (0.0 + z).toModel =
        Float.Model.pack (.add .binary64 (Float.toModel 0.0).unpack z.toModel.unpack) := rfl
    have hzero : (Float.toModel 0.0).unpack = .zero .positive := by with_unfolding_all rfl
    rw [hz, hzero] at hadd
    cases s <;> exact float_eq_of_pack hadd hzero

/-! ### Elements that are paused -/

namespace Element

variable {e : Element} {now : Nat} {rate tolerance seconds : Float}

lemma time_of_isPaused (h : e.isPaused = true) (now : Nat) : e.time now = e.position := by
  rw [isPaused, Option.isNone_iff_eq_none] at h
  simp only [time, h]

lemma isPaused_setRate (e : Element) (now : Nat) (rate : Float) :
    (e.setRate now rate).isPaused = e.isPaused := Option.isNone_map

/-- An element that is paused and follows a transport that stands stays where it is. -/
lemma position_follow_of_isPaused (h : e.isPaused = true) (now : Nat) (rate : Float) :
    (e.follow now false rate).1.isPaused = true ∧
      (e.follow now false rate).1.position = e.position := by
  obtain ⟨e', he', hpaused, hposition⟩ : ∃ e', (if rateSlack < Scalar.abs (e.rate - rate) then
      e.setRate now rate else e) = e' ∧ e'.isPaused = true ∧ e'.position = e.position := by
    refine ⟨_, rfl, ?_⟩
    split
    · exact ⟨(isPaused_setRate e now rate).trans h, time_of_isPaused h now⟩
    · exact ⟨h, rfl⟩
  have hfollow : (e.follow now false rate).1 = e' := by
    dsimp only [follow]
    rw [he', hpaused]
  rw [hfollow]
  exact ⟨hpaused, hposition⟩

/-- An element that follows a transport that stands is paused at the time that it has come to. -/
lemma position_follow (finite : rate.isFinite = true) (e : Element) (now : Nat) :
    (e.follow now false rate).1.isPaused = true ∧
      ((e.follow now false rate).1.position = e.time now ∨
        ∃ z, IsNought z ∧ (e.follow now false rate).1.position = e.time now + z) := by
  cases hp : e.isPaused with
  | true =>
    obtain ⟨hpaused, hposition⟩ := position_follow_of_isPaused hp now rate
    exact ⟨hpaused, .inl (hposition.trans (time_of_isPaused hp now).symm)⟩
  | false =>
    by_cases hslack : rateSlack < Scalar.abs (e.rate - rate)
    · have hruns : (e.setRate now rate).isPaused = false := (isPaused_setRate e now rate).trans hp
      have hfollow : (e.follow now false rate).1 = (e.setRate now rate).pause now := by
        dsimp only [follow]
        rw [if_pos hslack, hruns]
      have hsince : (e.setRate now rate).runningSince = some now := by
        rw [isPaused, Option.isNone_eq_false_iff] at hp
        obtain ⟨since, hsince⟩ := Option.isSome_iff_exists.mp hp
        rw [setRate, setPosition, hsince]
        rfl
      rw [hfollow]
      refine ⟨rfl, .inr ⟨secondsOfMs 0 * rate, IsNought.secondsOfMs.mul finite, ?_⟩⟩
      show (e.setRate now rate).time now = e.time now + secondsOfMs 0 * rate
      rw [time, hsince]
      dsimp only
      rw [Nat.sub_self]
      rfl
    · have hfollow : (e.follow now false rate).1 = e.pause now := by
        dsimp only [follow]
        rw [if_neg hslack, hp]
      rw [hfollow]
      exact ⟨rfl, .inl rfl⟩

lemma time_setPosition (finite : e.isPaused = false → e.rate.isFinite = true) (now : Nat)
    (x : Float) :
    (e.setPosition now (Scalar.positivePart x)).time now = Scalar.positivePart x := by
  cases hsince : e.runningSince with
  | none => simp [time, setPosition, hsince]
  | some since =>
    have htime : (e.setPosition now (Scalar.positivePart x)).time now =
        Scalar.positivePart x + secondsOfMs 0 * e.rate := by
      simp [time, setPosition, hsince]
    have hfinite := finite (by simp [isPaused, hsince])
    rw [htime, positivePart_add (IsNought.secondsOfMs.mul hfinite)]

/-- The element stands still at a time, or close enough to it. -/
structure StandsAt (e : Element) (tolerance seconds : Float) : Prop where
  paused : e.isPaused = true
  near : ∀ now, Scalar.abs (e.time now - seconds) ≤ tolerance ∨ e.time now = seconds

lemma StandsAt.of_position (paused : e.isPaused = true)
    (h : Scalar.abs (e.position - seconds) ≤ tolerance ∨ e.position = seconds) :
    e.StandsAt tolerance seconds :=
  ⟨paused, fun now => by rwa [time_of_isPaused paused now]⟩

lemma StandsAt.follow (h : e.StandsAt tolerance seconds) (now : Nat) (rate : Float) :
    (e.follow now false rate).1.StandsAt tolerance seconds := by
  obtain ⟨hpaused, hposition⟩ := position_follow_of_isPaused h.paused now rate
  refine .of_position hpaused ?_
  rw [hposition, ← time_of_isPaused h.paused now]
  exact h.near now

lemma standsAt_follow (finite : rate.isFinite = true)
    (near : Scalar.abs (e.time now - seconds) ≤ tolerance) :
    (e.follow now false rate).1.StandsAt tolerance seconds := by
  obtain ⟨hpaused, hposition⟩ := position_follow finite e now
  refine .of_position hpaused (.inl ?_)
  rcases hposition with hsame | ⟨z, hz, hsum⟩
  · rwa [hsame]
  · rw [hsum]
    have hsame : SameTime (e.time now + z) (e.time now) := hz.add _
    exact (hsame.near_iff seconds tolerance).mpr near

lemma standsAt_follow_finishSeek (finite : rate.isFinite = true)
    (speed : e.isPaused = false → e.rate.isFinite = true) (now : Nat) (tolerance x : Float) :
    ((e.finishSeek now x).follow now false rate).1.StandsAt tolerance (Scalar.positivePart x) := by
  have htime : (e.finishSeek now x).time now = Scalar.positivePart x := time_setPosition speed now x
  obtain ⟨hpaused, hposition⟩ := position_follow finite (e.finishSeek now x) now
  refine .of_position hpaused (.inr ?_)
  rw [htime] at hposition
  rcases hposition with hsame | ⟨z, hz, hsum⟩
  · exact hsame
  · rw [hsum, positivePart_add hz]

end Element

end Montage
