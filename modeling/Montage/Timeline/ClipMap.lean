import Montage.Timeline.Id

/-!
Maps from clips to values, kept in the order of the clip ids. Each clip has at most one entry.
-/

namespace Montage

structure ClipMap (α : Type) where
  entries : List (ClipId × α)
  sorted : entries.Pairwise fun a b => a.1.rank < b.1.rank

namespace ClipMap

variable {α : Type}

def empty : ClipMap α := ⟨[], .nil⟩

instance : Inhabited (ClipMap α) := ⟨empty⟩

def find? (m : ClipMap α) (id : ClipId) : Option α := (m.entries.find? (·.1 = id)).map (·.2)

def contains (m : ClipMap α) (id : ClipId) : Bool := (m.find? id).isSome

def size (m : ClipMap α) : Nat := m.entries.length

def keys (m : ClipMap α) : List ClipId := m.entries.map (·.1)

def values (m : ClipMap α) : List α := m.entries.map (·.2)

def insertEntry (id : ClipId) (a : α) : List (ClipId × α) → List (ClipId × α)
  | [] => [(id, a)]
  | e :: rest =>
    if id.rank < e.1.rank then (id, a) :: e :: rest
    else if id.rank = e.1.rank then (id, a) :: rest
    else e :: insertEntry id a rest

theorem mem_insertEntry {id : ClipId} {a : α} {e : ClipId × α} :
    ∀ {es : List (ClipId × α)}, e ∈ insertEntry id a es → e = (id, a) ∨ e ∈ es
  | [], h => by simpa [insertEntry] using h
  | f :: rest, h => by
    rw [insertEntry] at h
    split at h
    · simpa using h
    · split at h
      · rcases List.mem_cons.1 h with h | h
        · exact .inl h
        · exact .inr (List.mem_cons_of_mem _ h)
      · rcases List.mem_cons.1 h with h | h
        · exact .inr (h ▸ List.mem_cons_self)
        · exact (mem_insertEntry h).imp_right (List.mem_cons_of_mem _)

theorem sorted_insertEntry (id : ClipId) (a : α) :
    ∀ {es : List (ClipId × α)}, es.Pairwise (fun x y => x.1.rank < y.1.rank) →
      (insertEntry id a es).Pairwise fun x y => x.1.rank < y.1.rank
  | [], _ => by simp [insertEntry]
  | e :: rest, h => by
    rw [List.pairwise_cons] at h
    rw [insertEntry]
    split
    · next hlt =>
      refine List.pairwise_cons.2 ⟨fun x hx => ?_, List.pairwise_cons.2 h⟩
      rcases List.mem_cons.1 hx with rfl | hx
      · exact hlt
      · exact Nat.lt_trans hlt (h.1 x hx)
    · split
      · next heq => exact List.pairwise_cons.2 ⟨fun x hx => by simpa [heq] using h.1 x hx, h.2⟩
      · next hge hne =>
        refine List.pairwise_cons.2 ⟨fun x hx => ?_, sorted_insertEntry id a h.2⟩
        rcases mem_insertEntry hx with rfl | hx
        · exact Nat.lt_of_le_of_ne (Nat.le_of_not_lt hge) fun h => hne h.symm
        · exact h.1 x hx

def insert (m : ClipMap α) (id : ClipId) (a : α) : ClipMap α :=
  ⟨insertEntry id a m.entries, sorted_insertEntry id a m.sorted⟩

def erase (m : ClipMap α) (id : ClipId) : ClipMap α :=
  ⟨m.entries.filter fun e => e.1 ≠ id, m.sorted.filter _⟩

/-- Entries of a list one after the other; a later one takes the place of an earlier one. -/
def ofList (es : List (ClipId × α)) : ClipMap α := es.foldl (fun m e => m.insert e.1 e.2) empty

end ClipMap

end Montage
