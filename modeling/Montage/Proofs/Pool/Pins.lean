import Mathlib.Data.List.Perm.Subperm
import Montage.Proofs.Pool.Background

/-!
Pinned slots and what they show.

Slots that are given out are pinned. As each asset has one slot, and each slot one asset, there are
as many pinned slots as there are assets that they show.
-/

namespace Montage

namespace Pool

/-- The pinned slots are those that show one of the assets, and all of these are shown. -/
structure Pins (p : Pool) (pinned : List Nat) (assets : List AssetId) : Prop where
  shows : ∀ a ∈ assets, ∃ i, p.Shows i a
  mem : ∀ i, i ∈ pinned ↔ ∃ a ∈ assets, p.Shows i a

variable {p q : Pool} {pinned : List Nat} {assets : List AssetId} {a : AssetId} {i : Nat}

lemma Shows.lt_size (h : p.Shows i a) : i < p.size := p.lt_size_of_asset h.2

/-- All slots are pinned when as many assets are shown, and not before. -/
lemma Pins.full_iff (h : p.Pins pinned assets) (hp : p.Tidy) (hn : assets.Nodup) :
    (∀ j, j < p.size → j ∈ pinned) ↔ p.size ≤ assets.length := by
  constructor
  · intro hall
    have hnodup : ((List.range p.size).map fun j => (p.slot j).asset).Nodup := by
      refine List.Nodup.map_on (fun i hi j hj hij => ?_) List.nodup_range
      obtain ⟨a, -, hs⟩ := (h.mem i).mp (hall i (List.mem_range.mp hi))
      exact hp.distinct hs.2 (hij.symm.trans hs.2)
    have hsub : ((List.range p.size).map fun j => (p.slot j).asset) ⊆ assets.map some := by
      intro o ho
      obtain ⟨j, hj, rfl⟩ := List.mem_map.mp ho
      obtain ⟨a, ha, hs⟩ := (h.mem j).mp (hall j (List.mem_range.mp hj))
      exact List.mem_map.mpr ⟨a, ha, hs.2.symm⟩
    simpa using (List.subperm_of_subset hnodup hsub).length_le
  · intro hle j hj
    by_contra hpin
    have hslot : ∀ a ∈ assets, ∃ i, p.slotOf? a = some i ∧ p.Shows i a := by
      intro a ha
      obtain ⟨i, hs⟩ := h.shows a ha
      rcases hof : p.slotOf? a with _ | k
      · exact absurd hs.2 (slotOf?_eq_none hof i)
      · obtain rfl : k = i := hp.distinct (slotOf?_eq_some hof) hs.2
        exact ⟨k, rfl, hs⟩
    have hnodup : (assets.map p.slotOf?).Nodup := by
      refine List.Nodup.map_on (fun a ha a' ha' heq => ?_) hn
      obtain ⟨i, hi, hs⟩ := hslot a ha
      obtain ⟨i', hi', hs'⟩ := hslot a' ha'
      obtain rfl : i = i' := Option.some.inj (hi.symm.trans (heq.trans hi'))
      exact Option.some.inj (hs.2.symm.trans hs'.2)
    have hsub : assets.map p.slotOf? ⊆ ((List.range p.size).erase j).map some := by
      intro o ho
      obtain ⟨a, ha, rfl⟩ := List.mem_map.mp ho
      obtain ⟨i, hi, hs⟩ := hslot a ha
      have hij : i ≠ j := fun hij => hpin (hij ▸ (h.mem i).mpr ⟨a, ha, hs⟩)
      rw [hi]
      exact List.mem_map_of_mem ((List.mem_erase_of_ne hij).mpr (List.mem_range.mpr hs.lt_size))
    have hlen := (List.subperm_of_subset hnodup hsub).length_le
    rw [List.length_map, List.length_map, List.length_erase_of_mem (List.mem_range.mpr hj),
      List.length_range] at hlen
    omega

lemma Pins.keep (h : p.Pins pinned assets) (hq : q.Tidy)
    (hkeep : ∀ i a, i ∈ pinned → p.Shows i a → q.Shows i a) : q.Pins pinned assets := by
  have hkept : ∀ c ∈ assets, ∃ j ∈ pinned, q.Shows j c := by
    intro c hc
    obtain ⟨j, hj⟩ := h.shows c hc
    have hpin := (h.mem j).mpr ⟨c, hc, hj⟩
    exact ⟨j, hpin, hkeep j c hpin hj⟩
  refine ⟨fun c hc => ?_, fun j => ⟨fun hj => ?_, ?_⟩⟩
  · obtain ⟨j, -, hj⟩ := hkept c hc
    exact ⟨j, hj⟩
  · obtain ⟨c, hc, hs⟩ := (h.mem j).mp hj
    exact ⟨c, hc, hkeep j c hj hs⟩
  · rintro ⟨c, hc, hs⟩
    obtain ⟨k, hk, hks⟩ := hkept c hc
    exact hq.distinct hs.2 hks.2 ▸ hk

lemma Pins.cons (h : p.Pins pinned assets) (hp : p.Tidy) (hs : p.Shows i a)
    {assets' : List AssetId} (hmem : ∀ c, c ∈ assets' ↔ c ∈ assets ∨ c = a) :
    p.Pins (i :: pinned) assets' := by
  refine ⟨fun c hc => ?_, fun j => ⟨fun hj => ?_, ?_⟩⟩
  · rcases (hmem c).mp hc with hc | rfl
    · exact h.shows c hc
    · exact ⟨i, hs⟩
  · rcases List.mem_cons.mp hj with rfl | hj
    · exact ⟨a, (hmem a).mpr (.inr rfl), hs⟩
    · obtain ⟨c, hc, hjs⟩ := (h.mem j).mp hj
      exact ⟨c, (hmem c).mpr (.inl hc), hjs⟩
  · rintro ⟨c, hc, hjs⟩
    rcases (hmem c).mp hc with hc | rfl
    · exact List.mem_cons_of_mem _ ((h.mem j).mpr ⟨c, hc, hjs⟩)
    · obtain rfl : j = i := hp.distinct hjs.2 hs.2
      exact List.mem_cons_self

end Pool

end Montage
