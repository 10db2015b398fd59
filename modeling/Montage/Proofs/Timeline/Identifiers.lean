import Mathlib.Data.Nat.Digits.Lemmas
import Mathlib.Tactic.IntervalCases
import Montage.Timeline.Id

/-!
Identifiers and their texts. The number of an identifier is written in hexadecimal digits, and
these digits read as the number again; the hyphens between the groups take nothing away.
-/

namespace Montage

namespace Hex

lemma value?_digitChar {d : Nat} (h : d < 16) : value? d.digitChar = some d := by
  interval_cases d <;> decide

/-- The number that the digits go on from `n`. -/
def numberFrom? (n : Nat) (cs : List Char) : Option Nat :=
  (cs.mapM value?).map fun ds => ds.foldl (fun n d => n * 16 + d) n

lemma numberFrom?_cons {n d : Nat} {c : Char} (h : value? c = some d) (cs : List Char) :
    numberFrom? n (c :: cs) = numberFrom? (n * 16 + d) cs := by
  rw [numberFrom?, numberFrom?, List.mapM_cons, h]
  cases cs.mapM value? <;> rfl

lemma numberFrom?_append {n m : Nat} {cs : List Char} (h : numberFrom? n cs = some m)
    (more : List Char) :
    numberFrom? n (cs ++ more) = numberFrom? m more := by
  induction cs generalizing n with
  | nil =>
    obtain rfl : n = m := Option.some.inj h
    rfl
  | cons c cs ih =>
    cases hc : value? c with
    | none => simp [numberFrom?, hc] at h
    | some d =>
      rw [numberFrom?_cons hc] at h
      rw [List.cons_append, numberFrom?_cons hc, ih h]

lemma numberFrom?_toDigits (n : Nat) : numberFrom? 0 (Nat.toDigits 16 n) = some n := by
  induction n using Nat.strong_induction_on with
  | _ n ih =>
    rw [Nat.toDigits_eq_if (by decide)]
    split
    · next h => rw [numberFrom?_cons (value?_digitChar h), Nat.zero_mul, Nat.zero_add]; rfl
    · next h =>
      have hdigit := value?_digitChar (Nat.mod_lt n (by decide : 0 < 16))
      rw [numberFrom?_append (ih (n / 16) (by omega)), numberFrom?_cons hdigit, Nat.div_add_mod']
      rfl

lemma numberFrom?_replicate (count : Nat) : numberFrom? 0 (List.replicate count '0') = some 0 := by
  induction count with
  | zero => rfl
  | succ count ih => rwa [List.replicate_succ, numberFrom?_cons (d := 0) (by decide)]

lemma number?_digits (width n : Nat) : number? (digits width n) = some n :=
  (numberFrom?_append (numberFrom?_replicate _) _).trans (numberFrom?_toDigits n)

lemma length_digits {width n : Nat} (hpos : 0 < width) (h : n < 16 ^ width) :
    (digits width n).length = width := by
  have hlen := (Nat.length_toDigits_le_iff (by decide : 1 < 16) hpos).mpr h
  simp only [digits, List.length_append, List.length_replicate]
  omega

end Hex

namespace Uuid

lemma ofGroups?_join {a b c d e : List Char} (ha : a.length = 8) (hb : b.length = 4)
    (hc : c.length = 4) (hd : d.length = 4) (he : e.length = 12) :
    ofGroups? (a ++ '-' :: (b ++ '-' :: (c ++ '-' :: (d ++ '-' :: e)))) =
      ofDigits? (a ++ (b ++ (c ++ (d ++ e)))) := by
  simp [ofGroups?, List.drop_append, List.getElem?_append, List.drop_eq_nil_of_le, ha, hb, hc, hd,
    he]

lemma join_groups (ds : List Char) :
    ds.take 8 ++ ((ds.drop 8).take 4 ++ ((ds.drop 12).take 4 ++ ((ds.drop 16).take 4 ++
      ds.drop 20))) = ds := by
  rw [← List.drop_drop (i := 4) (j := 16), List.take_append_drop,
    ← List.drop_drop (i := 4) (j := 12), List.take_append_drop,
    ← List.drop_drop (i := 4) (j := 8), List.take_append_drop, List.take_append_drop]

theorem ofText?_text (u : Uuid) : ofText? u.text = some u := by
  obtain ⟨ds, hds⟩ : ∃ ds, Hex.digits 32 u.value.toNat = ds := ⟨_, rfl⟩
  have hlen : ds.length = 32 :=
    hds ▸ Hex.length_digits (by decide) (u.value.isLt.trans_eq (by norm_num))
  have hread : ofDigits? ds = some u := by
    rw [ofDigits?, if_pos hlen, ← hds, Hex.number?_digits, Option.map_some, BitVec.ofNat_toNat,
      BitVec.setWidth_eq]
  have hlast : (ds.drop 20).take 12 = ds.drop 20 := List.take_of_length_le (by simp [hlen])
  have htext : u.text.toList = ds.take 8 ++ '-' :: ((ds.drop 8).take 4 ++ '-' ::
      ((ds.drop 12).take 4 ++ '-' :: ((ds.drop 16).take 4 ++ '-' :: ds.drop 20))) := by
    simp [text, hds, hlast]
  have hgroups : ofGroups? u.text.toList = some u := by
    rw [htext, ofGroups?_join (by simp [hlen]) (by simp [hlen]) (by simp [hlen]) (by simp [hlen])
      (by simp [hlen]), join_groups, hread]
  have hlong : u.text.toList.length = 36 := by
    rw [htext]
    simp [hlen]
  rw [ofText?]
  simp only [hlong, hgroups]
  rfl

end Uuid

end Montage
