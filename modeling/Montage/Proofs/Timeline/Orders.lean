import Mathlib.Data.List.Forall2
import Mathlib.Data.List.Induction
import Mathlib.Data.List.Sort

/-!
Lists sorted by a comparison, and lists without repetition.

Elements that compare equal stay in the order in which they came. So a list is sorted in one way
only, it makes no difference whether some elements are left out before or after, and two comparisons
of which one refines the other sort a list alike just when what the coarser one makes of it is in
the finer order. Where repetitions are left out, each value stays at the place at which it comes
first.
-/

namespace Montage

section

variable {α β : Type} (cmp : α → α → Ordering) [Std.TransCmp cmp]

lemma isLE_total (a b : α) : ((cmp a b).isLE || (cmp b a).isLE) = true := by
  have hswap : cmp b a = (cmp a b).swap := Std.OrientedCmp.eq_swap
  rw [hswap]
  cases cmp a b <;> rfl

lemma pairwise_mergeSort_isLE (l : List α) :
    (l.mergeSort fun a b => (cmp a b).isLE).Pairwise fun a b => (cmp a b).isLE = true :=
  List.pairwise_mergeSort (fun _ _ _ => Std.TransCmp.isLE_trans) (isLE_total cmp) l

lemma filter_eq_mergeSort (l : List α) (x : α) :
    (l.mergeSort fun a b => (cmp a b).isLE).filter (cmp x · == .eq) =
      l.filter (cmp x · == .eq) := by
  have hsorted : (l.filter (cmp x · == .eq)).Pairwise fun a b => (cmp a b).isLE = true := by
    refine List.pairwise_of_forall_mem_list fun a ha b hb => ?_
    have hxa : cmp x a = .eq := by simpa using (List.mem_filter.mp ha).2
    have hxb : cmp x b = .eq := by simpa using (List.mem_filter.mp hb).2
    have hab : cmp a b = .eq := (Std.TransCmp.congr_left hxa).symm.trans hxb
    rw [hab]
    rfl
  have hsublist := (List.sublist_mergeSort (fun _ _ _ => Std.TransCmp.isLE_trans) (isLE_total cmp)
    hsorted List.filter_sublist).filter (cmp x · == .eq)
  simp only [List.filter_filter, Bool.and_self] at hsublist
  exact (hsublist.eq_of_length ((List.mergeSort_perm _ _).filter _).length_eq.symm).symm

variable {cmp}

/-- A sorted list is made up of its parts of elements that compare equal. -/
lemma eq_of_filter_eq {l l' : List α} (hl : l.Pairwise fun a b => (cmp a b).isLE = true)
    (hl' : l'.Pairwise fun a b => (cmp a b).isLE = true)
    (h : ∀ x, l.filter (cmp x · == .eq) = l'.filter (cmp x · == .eq)) : l = l' := by
  have hmem : ∀ {k k' : List α}, (∀ x, k.filter (cmp x · == .eq) = k'.filter (cmp x · == .eq)) →
      ∀ a ∈ k, a ∈ k' := by
    intro k k' hk a ha
    have hself : a ∈ k.filter (cmp a · == .eq) :=
      List.mem_filter.mpr ⟨ha, by simp [Std.ReflCmp.compare_self]⟩
    rw [hk a] at hself
    exact List.mem_of_mem_filter hself
  induction l generalizing l' with
  | nil =>
    cases l' with
    | nil => rfl
    | cons b l' => exact absurd (hmem (fun x => (h x).symm) b List.mem_cons_self) List.not_mem_nil
  | cons a l ih =>
    cases l' with
    | nil => exact absurd (hmem h a List.mem_cons_self) List.not_mem_nil
    | cons b l' =>
      rw [List.pairwise_cons] at hl hl'
      -- Each of the heads is at most as great as the other.
      have hab : cmp a b = .eq := by
        have hle : (cmp a b).isLE = true := by
          rcases List.mem_cons.mp (hmem (fun x => (h x).symm) b List.mem_cons_self) with rfl | hb
          · simp [Std.ReflCmp.compare_self]
          · exact hl.1 b hb
        have hge : (cmp b a).isLE = true := by
          rcases List.mem_cons.mp (hmem h a List.mem_cons_self) with rfl | ha
          · simp [Std.ReflCmp.compare_self]
          · exact hl'.1 a ha
        exact Std.OrientedCmp.isLE_antisymm hle hge
      have hheads := h a
      simp only [List.filter_cons, hab, Std.ReflCmp.compare_self, beq_self_eq_true, if_true,
        List.cons.injEq] at hheads
      obtain ⟨rfl, -⟩ := hheads
      congr 1
      refine ih hl.2 hl'.2 fun x => ?_
      have hx := h x
      simp only [List.filter_cons] at hx
      split at hx
      · exact (List.cons.inj hx).2
      · exact hx

lemma filter_mergeSort (p : α → Bool) (l : List α) :
    (l.mergeSort fun a b => (cmp a b).isLE).filter p =
      (l.filter p).mergeSort fun a b => (cmp a b).isLE := by
  refine eq_of_filter_eq ((pairwise_mergeSort_isLE cmp l).filter p)
    (pairwise_mergeSort_isLE cmp _) fun x => ?_
  rw [filter_eq_mergeSort, List.filter_comm, filter_eq_mergeSort, List.filter_comm]

/-- Where the finer comparison says equal, so does the coarser one. -/
lemma mergeSort_eq_mergeSort_iff {fine : α → α → Ordering} [Std.TransCmp fine]
    (refines : ∀ a b, fine a b = .eq → cmp a b = .eq) (l : List α) :
    (l.mergeSort fun a b => (fine a b).isLE) = (l.mergeSort fun a b => (cmp a b).isLE) ↔
      (l.mergeSort fun a b => (cmp a b).isLE).Pairwise fun a b => (fine a b).isLE = true := by
  refine ⟨fun h => h ▸ pairwise_mergeSort_isLE fine l, fun h => ?_⟩
  refine eq_of_filter_eq (pairwise_mergeSort_isLE fine l) h fun x => ?_
  have hfine : ∀ k : List α, k.filter (fine x · == .eq) =
      (k.filter (cmp x · == .eq)).filter (fine x · == .eq) := by
    intro k
    rw [List.filter_filter]
    refine List.filter_congr fun a _ => ?_
    rw [Bool.eq_iff_iff, Bool.and_eq_true]
    simp only [beq_iff_eq]
    exact ⟨fun ha => ⟨ha, refines x a ha⟩, And.left⟩
  rw [filter_eq_mergeSort, hfine l, hfine (l.mergeSort _), filter_eq_mergeSort]

section

variable (cmp) {κ : Type} {key : α → κ} {l l' : List α}

/-- Elements that only compare equal if they have one key are in strict order, once each has a key
of its own. -/
lemma pairwise_lt_mergeSort (hkey : ∀ a b, cmp a b = .eq → key a = key b)
    (distinct : (l.map key).Nodup) :
    (l.mergeSort fun a b => (cmp a b).isLE).Pairwise fun a b => cmp a b = .lt := by
  have hdistinct : (l.mergeSort fun a b => (cmp a b).isLE).Pairwise fun a b => key a ≠ key b :=
    List.pairwise_map.mp (((List.mergeSort_perm _ _).map key).nodup_iff.mpr distinct)
  refine (hdistinct.and (pairwise_mergeSort_isLE cmp l)).imp fun {a b} hab => ?_
  cases hcmp : cmp a b with
  | lt => rfl
  | eq => exact absurd (hkey a b hcmp) hab.1
  | gt =>
    have hle := hab.2
    rw [hcmp] at hle
    cases hle

lemma mergeSort_eq_of_perm (hkey : ∀ a b, cmp a b = .eq → key a = key b)
    (distinct : (l.map key).Nodup) (h : l'.Perm l) :
    (l'.mergeSort fun a b => (cmp a b).isLE) = l.mergeSort fun a b => (cmp a b).isLE := by
  have hperm := (List.mergeSort_perm l' fun a b => (cmp a b).isLE).trans
    (h.trans (List.mergeSort_perm l fun a b => (cmp a b).isLE).symm)
  have distinct' : (l'.map key).Nodup := (h.map key).nodup_iff.mpr distinct
  refine hperm.eq_of_pairwise (fun a b _ _ hab hba => ?_)
    (pairwise_lt_mergeSort cmp hkey distinct') (pairwise_lt_mergeSort cmp hkey distinct)
  have hswap : cmp b a = (cmp a b).swap := Std.OrientedCmp.eq_swap
  rw [hab, hba] at hswap
  cases hswap

end

end

lemma mergeSort_pair {α : Type} (le : α → α → Bool) (a b : α) :
    [a, b].mergeSort le = if le a b then [a, b] else [b, a] := by
  cases h : le a b <;> simp [List.mergeSort, List.MergeSort.Internal.splitInTwo, h]

/-- Lists of related elements that compare alike are related once they are sorted. -/
lemma forall₂_mergeSort {α β : Type} {R : α → β → Prop} {r : α → α → Bool} {s : β → β → Bool}
    {l : List α} {l' : List β} (h : List.Forall₂ R l l')
    (alike : ∀ a b a' b', R a a' → R b b' → r a b = s a' b') :
    List.Forall₂ R (l.mergeSort r) (l'.mergeSort s) := by
  obtain ⟨ps, hps, rfl, rfl⟩ : ∃ ps : List (α × β), (∀ p ∈ ps, R p.1 p.2) ∧
      ps.map (·.1) = l ∧ ps.map (·.2) = l' := by
    refine ⟨l.zip l', fun p hp => List.forall₂_zip h hp, ?_, ?_⟩
    · exact List.map_fst_zip h.length_eq.le
    · exact List.map_snd_zip h.length_eq.ge
  have hfst := List.map_mergeSort (r := fun p q : α × β => r p.1 q.1) (s := r) (f := (·.1))
    (l := ps) fun _ _ _ _ => rfl
  have hsnd := List.map_mergeSort (r := fun p q : α × β => r p.1 q.1) (s := s) (f := (·.2))
    (l := ps) fun p hp q hq => alike _ _ _ _ (hps p hp) (hps q hq)
  rw [← hfst, ← hsnd, List.forall₂_map_left_iff, List.forall₂_map_right_iff, List.forall₂_same]
  exact fun p hp => hps p (List.mem_mergeSort.mp hp)

section

variable {α β : Type} [DecidableEq α]

lemma eraseDups_concat (l : List α) (a : α) :
    (l ++ [a]).eraseDups = if a ∈ l then l.eraseDups else l.eraseDups ++ [a] := by
  rw [List.eraseDups_append]
  split
  · next h => simp [List.removeAll, h]
  · next h => simp [List.removeAll, h, List.eraseDups_cons]

lemma nodup_eraseDups (l : List α) : l.eraseDups.Nodup := by
  induction l using List.reverseRecOn with
  | nil => simp
  | append_singleton l a ih =>
    rw [eraseDups_concat]
    split
    · exact ih
    · next h =>
      refine List.nodup_append.mpr ⟨ih, List.nodup_singleton a, fun c hc d hd => ?_⟩
      rw [List.mem_singleton.mp hd]
      rintro rfl
      exact h (List.mem_eraseDups.mp hc)

/-- Of two values that the elements of a sorted list have, the one told first is that of an element
before all elements of the other. -/
lemma pairwise_eraseDups_map {f : β → α} {R : β → β → Prop} {l : List β} (h : l.Pairwise R) :
    (l.map f).eraseDups.Pairwise fun x y => ∃ a ∈ l, f a = x ∧ ∀ b ∈ l, f b = y → R a b := by
  induction l using List.reverseRecOn with
  | nil => simp
  | append_singleton l c ih =>
    obtain ⟨hl, -, hc⟩ := List.pairwise_append.mp h
    have hlast : ∀ a ∈ l, R a c := fun a ha => hc a ha c (List.mem_singleton_self c)
    have hbefore : (l.map f).eraseDups.Pairwise fun x y =>
        ∃ a ∈ l ++ [c], f a = x ∧ ∀ b ∈ l ++ [c], f b = y → R a b := by
      refine (ih hl).imp fun {x y} ⟨a, ha, hx, hall⟩ => ⟨a, List.mem_append_left _ ha, hx, ?_⟩
      intro b hb hy
      rcases List.mem_append.mp hb with hb | hb
      · exact hall b hb hy
      · exact List.mem_singleton.mp hb ▸ hlast a ha
    rw [List.map_append, List.map_singleton, eraseDups_concat]
    split
    · exact hbefore
    · next hnew =>
      refine List.pairwise_append.mpr ⟨hbefore, List.pairwise_singleton _ _, fun x hx y hy => ?_⟩
      obtain ⟨a, ha, rfl⟩ := List.mem_map.mp (List.mem_eraseDups.mp hx)
      refine ⟨a, List.mem_append_left _ ha, rfl, fun b hb hby => ?_⟩
      -- The value is new, so that only the last element has it.
      rcases List.mem_append.mp hb with hb | hb
      · rw [List.mem_singleton.mp hy] at hby
        exact absurd (hby ▸ List.mem_map_of_mem hb) hnew
      · exact List.mem_singleton.mp hb ▸ hlast a ha

/-- Of elements with keys of their own there is one of a key at most. -/
lemma find?_reverse_eq_some_iff {key : β → α} {l : List β} (distinct : (l.map key).Nodup) {k : α}
    {b : β} : (l.reverse.find? fun c => key c = k) = some b ↔ b ∈ l ∧ key b = k := by
  constructor
  · intro h
    exact ⟨List.mem_reverse.mp (List.mem_of_find?_eq_some h), by simpa using List.find?_some h⟩
  · rintro ⟨hb, rfl⟩
    have hsome : (l.reverse.find? fun c => key c = key b).isSome = true :=
      List.find?_isSome.mpr ⟨b, List.mem_reverse.mpr hb, by simp⟩
    obtain ⟨c, hc⟩ := Option.isSome_iff_exists.mp hsome
    have hkey : key c = key b := by simpa using List.find?_some hc
    have hmem : c ∈ l := List.mem_reverse.mp (List.mem_of_find?_eq_some hc)
    rw [hc, List.inj_on_of_nodup_map distinct hmem hb hkey]

lemma find?_reverse_eq_find? {key : β → α} {l : List β} (distinct : (l.map key).Nodup) (k : α) :
    (l.reverse.find? fun b => key b = k) = l.find? fun b => key b = k := by
  have distinct' : (l.reverse.map key).Nodup := by
    rwa [List.map_reverse, List.nodup_reverse]
  have hfirst {b : β} := find?_reverse_eq_some_iff distinct' (k := k) (b := b)
  rw [List.reverse_reverse] at hfirst
  ext b
  rw [find?_reverse_eq_some_iff distinct, hfirst, List.mem_reverse]

end

end Montage
