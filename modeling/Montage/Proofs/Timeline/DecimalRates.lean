import Montage.Proofs.Time.Microseconds
import Montage.Proofs.Timeline.Upgrades

/-!
Decimal rates.

In exact arithmetic a decimal rate becomes a rational one that is close to it. Each case of the
conversion but the last is taken only where it is close enough, and the last one always is, however
the cases overlap. All that is rounded fits into 32 bits, and so does the product that the range of
rates is made for. A rate close to nought may become nought, and then its file is refused.
-/

namespace Montage

namespace FrameRate

variable {x : Rat}

/-- The number is a whole one of 32 bits. -/
def IsWord (x : Rat) : Prop := ∃ n : UInt32, x = n.toNat

lemma isWord_intCast {n : Int} (hlo : 0 ≤ n) (hhi : n ≤ 4294967295) : IsWord n := by
  refine ⟨UInt32.ofNat n.toNat, ?_⟩
  rw [UInt32.toNat_ofNat_of_lt' (by simp; omega)]
  exact_mod_cast (Int.toNat_of_nonneg hlo).symm

lemma wholeIn_word (n : UInt32) :
    UInt32.ofNat (Scalar.wholeIn 0 4294967295 (n.toNat : Rat)).toNat = n := by
  have hn := n.toNat_lt
  have hcast : (max (0 : Int) (min 4294967295 n.toNat)).toNat = n.toNat := by omega
  show UInt32.ofNat (max 0 (min 4294967295 (Rounding.towardZero.apply _ _))).toNat = n
  rw [Rat.num_natCast, Rat.den_natCast, Rounding.apply_towardZero_one, hcast, UInt32.ofNat_toNat]

lemma round_eq_floor (h : 0 ≤ x) : Scalar.round x = ((round x : Int) : Rat) := by
  rw [← Rounding.apply_halfAway_of_nonneg h]
  rfl

lemma abs_eq (x : Rat) : Scalar.abs x = |x| := by
  have hzero : (0.0 : Rat) = 0 := by norm_num
  rw [Scalar.abs, hzero]
  split
  · next h => exact (abs_of_neg h).symm
  · next h => exact (abs_of_nonneg (not_lt.mp h)).symm

lemma isWord_round (hlo : 0 ≤ x) (hhi : x < 4294967295 + 1 / 2) : IsWord (Scalar.round x) := by
  rw [round_eq_floor hlo, round_eq]
  refine isWord_intCast (Int.floor_nonneg.mpr (by linarith)) ?_
  have hlt : ⌊x + 1 / 2⌋ < 4294967296 := Int.floor_lt.mpr (by push_cast; linarith)
  omega

lemma abs_round_sub_le (hlo : 0 ≤ x) : |Scalar.round x - x| ≤ 1 / 2 := by
  rw [round_eq_floor hlo, abs_sub_comm]
  exact abs_sub_round x

lemma isValid_iff {r : FrameRate} : r.isValid = true ↔ r.numerator ≠ 0 ∧ r.denominator ≠ 0 := by
  rw [isValid, Bool.and_eq_true, bne_iff_ne, bne_iff_ne]

/-! ### The conversion in exact arithmetic -/

/-- What a decimal rate can become. -/
inductive IsFrom (x : Rat) : FrameRate → Prop
  | whole {n : UInt32} (rounded : Scalar.round x = n.toNat) (near : |x - n.toNat| < 1 / 1000) :
      IsFrom x ⟨n, 1⟩
  | ntsc {n : UInt32} (rounded : Scalar.round (x * (1001 / 1000)) = n.toNat)
      (fits : n.toNat * 1000 ≤ 4294967295) (near : |n.toNat / (1001 / 1000) - x| < 1 / 200) :
      IsFrom x ⟨n * 1000, 1001⟩
  | thousandths {n : UInt32} (rounded : Scalar.round (x * 1000) = n.toNat) : IsFrom x ⟨n, 1000⟩

lemma ntsc_fits {n : UInt32} (hlo : 0 ≤ x) (hhi : x < 4294967295 / 1001)
    (h : Scalar.round (x * (1001 / 1000)) = n.toNat) : n.toNat * 1000 ≤ 4294967295 := by
  have hround := (abs_le.mp (abs_round_sub_le (x := x * (1001 / 1000)) (by linarith))).2
  rw [h] at hround
  have hlt : (n.toNat : Rat) < 4294968 := by linarith
  have hlt' : n.toNat < 4294968 := by exact_mod_cast hlt
  omega

lemma isWord_ntsc (hlo : 0 ≤ x) (hhi : x < 4294967295 / 1001) :
    IsWord (Scalar.round (x * (1001 / 1000)) * 1000) := by
  obtain ⟨n, hn⟩ := isWord_round (x := x * (1001 / 1000)) (by linarith) (by linarith)
  have hfits := ntsc_fits hlo hhi hn
  have hcast : (n.toNat : Rat) * 1000 = ((n.toNat * 1000 : Nat) : Int) := by push_cast; rfl
  rw [hn, hcast]
  exact isWord_intCast (by omega) (by omega)

/-- A rate in range is converted. -/
lemma exists_isFrom (hlo : 0 < x) (hhi : x < 4294967295 / 1001) (refused : Error) :
    ∃ r, ofDecimal x refused = .ok r ∧ IsFrom x r := by
  obtain ⟨whole, hwhole⟩ := isWord_round (x := x) hlo.le (by linarith)
  obtain ⟨ntsc, hntsc⟩ := isWord_round (x := x * (1001 / 1000)) (by linarith) (by linarith)
  obtain ⟨n, hn⟩ := isWord_round (x := x * 1000) (by linarith) (by linarith)
  have hfits := ntsc_fits hlo.le hhi hntsc
  have hzero : (0.0 : Rat) = 0 := by norm_num
  have hratio : (1.001 : Rat) = 1001 / 1000 := by norm_num
  have hthousand : (1000.0 : Rat) = 1000 := by norm_num
  have hrange : (Scalar.ofInt 4294967295 : Rat) / 1001.0 = 4294967295 / 1001 := by
    show ((4294967295 : Int) : Rat) / 1001.0 = _
    norm_num
  unfold ofDecimal
  simp only [hzero, hratio, hthousand, hrange, hlo, hhi, hwhole, hntsc, hn, abs_eq, wholeIn_word,
    decide_true, Bool.and_self, Bool.not_true, Bool.false_eq_true, if_false]
  split
  · next hnear => exact ⟨_, rfl, .whole hwhole (by norm_num at hnear ⊢; exact hnear)⟩
  · split
    · next hnear =>
      rw [if_neg (by omega)]
      exact ⟨_, rfl, .ntsc hntsc hfits (by norm_num at hnear ⊢; exact hnear)⟩
    · exact ⟨_, rfl, .thousandths hn⟩

lemma fps_eq (r : FrameRate) : (r.fps : Rat) = r.numerator.toNat / r.denominator.toNat := rfl

/-- Whichever case it is, the rate is close. -/
lemma IsFrom.abs_fps_sub_lt {r : FrameRate} (hlo : 0 ≤ x) (h : IsFrom x r) :
    |r.fps - x| < 1 / 200 := by
  rw [fps_eq]
  cases h with
  | @whole n rounded near =>
    have hone : (1 : UInt32).toNat = 1 := rfl
    rw [hone, Nat.cast_one, div_one, abs_sub_comm]
    linarith
  | @ntsc n rounded fits near =>
    have hproduct : (n * 1000).toNat = n.toNat * 1000 := by
      rw [UInt32.toNat_mul, Nat.mod_eq_of_lt (by simp; omega)]
      rfl
    have hterm : (1001 : UInt32).toNat = 1001 := rfl
    rw [hproduct, hterm]
    push_cast
    convert near using 2
    ring
  | @thousandths n rounded =>
    have hterm : (1000 : UInt32).toNat = 1000 := rfl
    have hround := abs_round_sub_le (x := x * 1000) (by linarith)
    rw [rounded, abs_le] at hround
    rw [hterm, abs_lt]
    push_cast
    constructor <;> linarith

/-- No rate out of range is converted. -/
lemma range_of_ofDecimal {r : FrameRate} {refused : Error} (h : ofDecimal x refused = .ok r) :
    0 < x ∧ x < 4294967295 / 1001 := by
  have hzero : (0.0 : Rat) = 0 := by norm_num
  have hrange : (Scalar.ofInt 4294967295 : Rat) / 1001.0 = 4294967295 / 1001 := by
    show ((4294967295 : Int) : Rat) / 1001.0 = _
    norm_num
  unfold ofDecimal at h
  simp only [hzero, hrange] at h
  by_contra hout
  rw [not_and_or] at hout
  have hrefused : (!(decide (0 < x) && decide (x < 4294967295 / 1001))) = true := by
    rcases hout with hout | hout <;> simp [hout]
  rw [if_pos hrefused] at h
  cases h

end FrameRate

/-! ### Files -/

/-- The exact number that the bits of a float stand for. -/
def Reading.exact? : Reading → Option Rat
  | .finite b => some (b.toQuotient.1 / b.toQuotient.2)
  | _ => none

/-- Any number, as it is. -/
def Json.exact? : Json → Option Rat
  | .int n => some n
  | .double x => x.reading.exact?
  | .single x => x.reading.exact?
  | _ => none

namespace TimelineFile

section
variable {α : Type} [Scalar α] (number? : Json → Option α)

/-- The rate that a decimal one becomes in some arithmetic. -/
def rateIn? (v : Json) : Option (Except Error FrameRate) :=
  (number? v).map fun x => FrameRate.ofDecimal x (.rateOutOfRange (v.double?.getD 0.0))

def fillRateIn (members : List (String × Json)) : Except Error (List (String × Json)) :=
  match ((Json.obj members).member? "fps").bind (rateIn? number?) with
  | none => .ok members
  | some rate => return Json.put members "fps" (← rate).toJson

/-- The file of a tree of the oldest layout, with its rate in some arithmetic. -/
def loadOldIn (v : Json) : Except Error TimelineFile :=
  match documentOf v with
  | .obj members => do
    let members ← fillRateIn number? members
    load (present (.obj (fillClips members)))
  | _ => .error .notAnObject

end

variable {v : Json} {members : List (String × Json)}

lemma fillRateIn_double? (members : List (String × Json)) :
    fillRateIn Json.double? members = fillRate members := by
  unfold fillRateIn fillRate rateIn?
  cases (Json.obj members).member? "fps" with
  | none => rfl
  | some n =>
    rw [Option.bind_some, Option.bind_some]
    cases hx : n.double? <;> rfl

lemma ofValue_eq_loadOldIn (hold : versionOf v = 0) : ofValue v = loadOldIn Json.double? v := by
  rw [ofValue_of_old hold]
  unfold upgrade loadOldIn documentOf
  cases (v.member? "timeline").getD v with
  | obj members =>
    simp only [fillRateIn_double?]
    cases fillRate members <;> rfl
  | _ => rfl

lemma member?_fillClips {name : String} (h : name ≠ "clips") :
    (Json.obj (fillClips members)).member? name = (Json.obj members).member? name := by
  unfold fillClips
  split
  · exact Json.member?_put_of_ne _ _ h
  · rfl

lemma rate_of_loadOldIn {α : Type} [Scalar α] {number? : Json → Option α} {n : Json} {x : α}
    {file : TimelineFile} (hdocument : documentOf v = .obj members)
    (hfps : (Json.obj members).member? "fps" = some n) (hx : number? n = some x)
    (h : loadOldIn number? v = .ok file) :
    FrameRate.ofDecimal x (.rateOutOfRange (n.double?.getD 0.0)) = .ok file.document.rate ∧
      file.document.rate.isValid = true := by
  simp only [loadOldIn, hdocument] at h
  obtain ⟨filled, hfilled, hload⟩ := bind_eq_ok.mp h
  obtain ⟨hread, hvalid⟩ := load_eq_ok.mp hload
  simp only [fillRateIn, hfps, Option.bind_some, rateIn?, hx, Option.map_some] at hfilled
  obtain ⟨rate, hrate, hfilled⟩ := bind_eq_ok.mp hfilled
  cases hfilled
  rw [present, ofJson?_one] at hread
  obtain ⟨d, hd, rfl⟩ := Option.map_eq_some_iff.mp hread
  have hdocumentRate := (Document.ofJson?_eq_some.mp hd).rate
  rw [member?_fillClips (by decide), Json.member?_put, Option.elim_some,
    FrameRate.ofJson?_toJson] at hdocumentRate
  cases hdocumentRate
  exact ⟨hrate, hvalid⟩

/-- **What becomes of a decimal rate.** In exact arithmetic each rate in range is converted without
an overflow, and the quotient it becomes is close to it. An old file is read in the arithmetic of
doubles; its rate is the one that its decimal rate becomes there, and its terms are not nought. Read
in exact arithmetic, it has the rate that its decimal one becomes there, which is close to it. -/
theorem rate_of_decimal :
    (∀ (x : Rat) (refused : Error), 0 < x → x < 4294967295 / 1001 →
      (∀ y ∈ [Scalar.round x, Scalar.round (x * 1.001), Scalar.round (x * 1.001) * 1000,
        Scalar.round (x * 1000)], FrameRate.IsWord y) ∧
      ∃ r, FrameRate.ofDecimal x refused = .ok r ∧ |r.fps - x| < 5e-3) ∧
    ∀ (bytes : ByteArray) (v n : Json) (members : List (String × Json)), tree? bytes = some v →
      versionOf v = 0 → documentOf v = .obj members → (Json.obj members).member? "fps" = some n →
      parseBytes bytes = loadOldIn Json.double? v ∧
      (∀ (x : Float) (file : TimelineFile), n.double? = some x → parseBytes bytes = .ok file →
        FrameRate.ofDecimal x (.rateOutOfRange x) = .ok file.document.rate ∧
        file.document.rate.numerator ≠ 0 ∧ file.document.rate.denominator ≠ 0) ∧
      ∀ (x : Rat) (file : TimelineFile), n.exact? = some x →
        loadOldIn Json.exact? v = .ok file →
        (∃ refused, FrameRate.ofDecimal x refused = .ok file.document.rate) ∧
        (file.document.rate.numerator ≠ 0 ∧ file.document.rate.denominator ≠ 0) ∧
        |file.document.rate.fps - x| < 5e-3 := by
  have hratio : (1.001 : Rat) = 1001 / 1000 := by norm_num
  have hnear : (5e-3 : Rat) = 1 / 200 := by norm_num
  rw [hratio, hnear]
  refine ⟨fun x refused hlo hhi => ⟨?_, ?_⟩, fun bytes v n members htree hold hdocument hfps => ?_⟩
  · have hntsc := FrameRate.isWord_round (x := x * (1001 / 1000)) (by linarith) (by linarith)
    simp only [List.forall_mem_cons]
    exact ⟨FrameRate.isWord_round hlo.le (by linarith), hntsc,
      FrameRate.isWord_ntsc hlo.le hhi, FrameRate.isWord_round (by linarith) (by linarith), by simp⟩
  · obtain ⟨r, hr, hfrom⟩ := FrameRate.exists_isFrom hlo hhi refused
    exact ⟨r, hr, hfrom.abs_fps_sub_lt hlo.le⟩
  · have hdoubles : parseBytes bytes = loadOldIn Json.double? v := by
      rw [parseBytes_of_tree? htree, ofValue_eq_loadOldIn hold]
    refine ⟨hdoubles, fun x file hx hread => ?_, fun x file hx hread => ?_⟩
    · obtain ⟨hrate, hvalid⟩ := rate_of_loadOldIn hdocument hfps hx (hdoubles ▸ hread)
      rw [hx, Option.getD_some] at hrate
      exact ⟨hrate, FrameRate.isValid_iff.mp hvalid⟩
    · obtain ⟨hrate, hvalid⟩ := rate_of_loadOldIn hdocument hfps hx hread
      obtain ⟨hlo, hhi⟩ := FrameRate.range_of_ofDecimal hrate
      obtain ⟨r, hr, hfrom⟩ := FrameRate.exists_isFrom hlo hhi
        (.rateOutOfRange (n.double?.getD 0.0))
      cases hrate.symm.trans hr
      exact ⟨⟨_, hrate⟩, FrameRate.isValid_iff.mp hvalid, hfrom.abs_fps_sub_lt hlo.le⟩

end TimelineFile

/-- A document of the oldest layout, with nothing in it but its rate. -/
def Json.outline (fps : Json) : Json :=
  .obj [("fps", fps), ("tracks", .arr []), ("clips", .arr [])]

/-- The file of a rate of 29.97. -/
def TimelineFile.outline2997 : ByteArray := ((Json.outline (.double 29.97)).pretty 0).toUTF8

namespace TimelineFile

lemma tree?_outline2997 : ∃ (members : List (String × Json)) (n : Json),
    tree? outline2997 = some (.obj members) ∧ versionOf (.obj members) = 0 ∧
      documentOf (.obj members) = .obj members ∧ (Json.obj members).member? "fps" = some n ∧
      (∃ x, n.double? = some x) ∧ (∃ x, n.exact? = some x) ∧
      (∃ file, ofValue (.obj members) = .ok file) ∧
      ∃ file, loadOldIn Json.exact? (.obj members) = .ok file ∧
        file.document.rate = .fps2997 := by
  have htree : (tree? outline2997).any (fun v => versionOf v == 0 &&
      (v.member? "timeline").isNone && (v.member? "fps").any (fun n => n.double?.isSome &&
      n.exact?.isSome) && (ofValue v).isOk &&
      (loadOldIn Json.exact? v).toOption.any (·.document.rate == .fps2997)) = true := by
    decide +kernel
  obtain ⟨v, htree, hall⟩ := (Option.any_eq_true _ _).mp htree
  simp only [Bool.and_eq_true, beq_iff_eq, Option.isNone_iff_eq_none] at hall
  obtain ⟨⟨⟨⟨hold, hwhole⟩, hnumber⟩, hread⟩, hexactly⟩ := hall
  obtain ⟨n, hfps, hn⟩ := (Option.any_eq_true _ _).mp hnumber
  rw [Bool.and_eq_true, Option.isSome_iff_exists, Option.isSome_iff_exists] at hn
  obtain ⟨file, hfile, hrate⟩ := exists_of_any hexactly
  cases v with
  | obj members =>
    refine ⟨members, n, htree, hold, ?_, hfps, hn.1, hn.2, exists_of_isOk hread, file, hfile,
      beq_iff_eq.mp hrate⟩
    rw [documentOf, hwhole, Option.getD_none]
  | _ => cases hfps

/-- A rate of 29.97 is read as 30000/1001. -/
theorem rate_of_decimal_fps2997 :
    (∃ r, FrameRate.ofDecimal (2997 / 100 : Rat) .notJson = .ok r ∧
      |r.fps - (2997 / 100 : Rat)| < 5e-3) ∧
    (∃ file, parseBytes outline2997 = .ok file ∧
      file.document.rate.numerator ≠ 0 ∧ file.document.rate.denominator ≠ 0) ∧
    ∃ v n file, ∃ x : Rat, tree? outline2997 = some v ∧
      (documentOf v).member? "fps" = some n ∧ n.exact? = some x ∧
      loadOldIn Json.exact? v = .ok file ∧ file.document.rate = .fps2997 ∧
      |file.document.rate.fps - x| < 5e-3 := by
  obtain ⟨members, n, htree, hold, hdocument, hfps, ⟨x, hx⟩, ⟨y, hy⟩, ⟨file, hfile⟩, exactly,
    hexactly, hrate⟩ := tree?_outline2997
  have hread := (parseBytes_of_tree? htree).trans hfile
  obtain ⟨hclose, hfiles⟩ := rate_of_decimal
  obtain ⟨-, hdoubles, hexact⟩ := hfiles _ _ _ _ htree hold hdocument hfps
  refine ⟨(hclose (2997 / 100) .notJson (by norm_num) (by norm_num)).2,
    ⟨file, hread, (hdoubles x file hx hread).2⟩, _, n, exactly, y, htree, ?_, hy, hexactly, hrate,
    (hexact y exactly hy hexactly).2.2⟩
  rw [hdocument, hfps]

end TimelineFile

end Montage
