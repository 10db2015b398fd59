import Mathlib.Data.List.Nodup
import Montage.Timeline.ClipMap

/-!
Looking things up by clip, after entries were put in or taken out.
-/

namespace Montage

namespace ClipMap

variable {α : Type} {m : ClipMap α} {es : List (ClipId × α)} {id k : ClipId} {a b : α}

@[simp] lemma find?_empty (k : ClipId) : (empty : ClipMap α).find? k = none := rfl

lemma find?_cons (e : ClipId × α) (es : List (ClipId × α)) (k : ClipId) :
    ((e :: es).find? (·.1 = k)).map (·.2) =
      if e.1 = k then some e.2 else (es.find? (·.1 = k)).map (·.2) := by
  by_cases he : e.1 = k <;> simp [he]

lemma find?_insertEntry (id k : ClipId) (a : α) (es : List (ClipId × α)) :
    ((insertEntry id a es).find? (·.1 = k)).map (·.2) =
      if id = k then some a else (es.find? (·.1 = k)).map (·.2) := by
  induction es with
  | nil => rw [insertEntry, find?_cons]
  | cons e es ih =>
    unfold insertEntry
    split
    · rw [find?_cons]
    · split
      · next heq =>
        have hid : id = e.1 := ClipId.rank_injective heq
        rw [find?_cons, find?_cons, hid]
        split <;> rfl
      · next hne =>
        rw [find?_cons, find?_cons, ih]
        by_cases he : e.1 = k
        · have hid : id ≠ k := fun h => hne (by rw [h, he])
          rw [if_pos he, if_neg hid, if_pos he]
        · rw [if_neg he, if_neg he]

@[simp] lemma find?_insert (m : ClipMap α) (id k : ClipId) (a : α) :
    (m.insert id a).find? k = if id = k then some a else m.find? k :=
  find?_insertEntry id k a m.entries

@[simp] lemma find?_erase (m : ClipMap α) (id k : ClipId) :
    (m.erase id).find? k = if id = k then none else m.find? k := by
  simp only [find?, erase]
  induction m.entries with
  | nil => simp
  | cons e es ih =>
    by_cases he : e.1 = id
    · rw [List.filter_cons_of_neg (by simpa using he), ih, find?_cons, he]
      split <;> rfl
    · rw [List.filter_cons_of_pos (by simpa using he), find?_cons, find?_cons, ih]
      by_cases hk : e.1 = k
      · have hid : id ≠ k := fun h => he (hk.trans h.symm)
        rw [if_pos hk, if_neg hid, if_pos hk]
      · rw [if_neg hk, if_neg hk]

lemma find?_ofList (es : List (ClipId × α)) (k : ClipId) :
    (ofList es).find? k = (es.reverse.find? (·.1 = k)).map (·.2) := by
  have hgen : ∀ m : ClipMap α, (es.foldl (fun m e => m.insert e.1 e.2) m).find? k =
      ((es.reverse.find? (·.1 = k)).map (·.2)).or (m.find? k) := by
    induction es with
    | nil => simp
    | cons e es ih =>
      intro m
      rw [List.foldl_cons, ih, find?_insert, List.reverse_cons, List.find?_append, Option.map_or,
        Option.or_assoc]
      congr 1
      by_cases he : e.1 = k <;> simp [he]
  rw [ofList, hgen, find?_empty, Option.or_none]

lemma find?_of_nodup (hn : (es.map (·.1)).Nodup) (h : (k, a) ∈ es) :
    (es.find? (·.1 = k)).map (·.2) = some a := by
  induction es with
  | nil => simp at h
  | cons e es ih =>
    rw [List.map_cons, List.nodup_cons] at hn
    rw [find?_cons]
    rcases List.mem_cons.mp h with rfl | h
    · rw [if_pos rfl]
    · have hne : e.1 ≠ k := fun hk => hn.1 (hk ▸ List.mem_map_of_mem h)
      rw [if_neg hne, ih hn.2 h]

lemma find?_ofList_of_mem (hn : (es.map (·.1)).Nodup) (h : (k, a) ∈ es) :
    (ofList es).find? k = some a := by
  rw [find?_ofList]
  refine find?_of_nodup ?_ (List.mem_reverse.mpr h)
  rw [List.map_reverse]
  exact List.nodup_reverse.mpr hn

lemma find?_ofList_eq_none (h : k ∉ es.map (·.1)) : (ofList es).find? k = none := by
  rw [find?_ofList, Option.map_eq_none_iff, List.find?_eq_none]
  intro e he hk
  rw [decide_eq_true_eq] at hk
  exact h (hk ▸ List.mem_map_of_mem (List.mem_reverse.mp he))

lemma nodup_keys (m : ClipMap α) : m.keys.Nodup := by
  rw [keys, List.Nodup, List.pairwise_map]
  refine m.sorted.imp fun {a b} hlt heq => ?_
  rw [heq] at hlt
  exact Nat.lt_irrefl _ hlt

lemma find?_of_mem_entries {e : ClipId × α} (h : e ∈ m.entries) : m.find? e.1 = some e.2 :=
  find?_of_nodup m.nodup_keys h

lemma map_values {f : α → ClipId} (h : ∀ k a, m.find? k = some a → f a = k) :
    m.values.map f = m.keys := by
  rw [values, keys, List.map_map]
  exact List.map_congr_left fun e he => h e.1 e.2 (find?_of_mem_entries he)

lemma mem_values : a ∈ m.values ↔ ∃ k, m.find? k = some a := by
  constructor
  · intro h
    obtain ⟨⟨k, a'⟩, he, rfl⟩ := List.mem_map.mp h
    exact ⟨k, find?_of_nodup m.nodup_keys he⟩
  · rintro ⟨k, h⟩
    obtain ⟨e, he, rfl⟩ := Option.map_eq_some_iff.mp h
    exact List.mem_map_of_mem (List.mem_of_find?_eq_some he)

lemma mem_keys : k ∈ m.keys ↔ ∃ a, m.find? k = some a := by
  constructor
  · intro h
    obtain ⟨⟨k', a⟩, he, rfl⟩ := List.mem_map.mp h
    exact ⟨a, find?_of_nodup m.nodup_keys he⟩
  · rintro ⟨a, h⟩
    obtain ⟨e, he, rfl⟩ := Option.map_eq_some_iff.mp h
    have hk := List.find?_some he
    rw [decide_eq_true_eq] at hk
    exact hk ▸ List.mem_map_of_mem (List.mem_of_find?_eq_some he)

end ClipMap

end Montage
