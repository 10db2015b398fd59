import Montage.Json.Record
import Montage.Proofs.Timeline.Orders

/-!
The members of an object, and what a record has of them.

A member that is put is found under its key, and all others are found as before. A record has no
name twice, and goes by what is found under its names; so it makes no difference to it in which
order the members are, nor what those of other names are.
-/

namespace Montage

namespace Json

variable {α : Type} {read : Json → Option α} {names : List String} {key name : String} {v : Json}
  {members members' : List (String × Json)}

/-! ### Words and lists -/

lemma intIn?_eq_some {lo hi n : Int} {v : Json} (h : v.intIn? lo hi = some n) :
    v = .int n ∧ lo ≤ n ∧ n ≤ hi := by
  cases v with
  | int i =>
    rw [intIn?, Option.ite_none_right_eq_some] at h
    obtain ⟨hin, hi⟩ := h
    cases hi
    exact ⟨rfl, hin⟩
  | _ => cases h

lemma word64?_eq_some {n : UInt64} (h : v.word64? = some n) : v = .ofFrame n := by
  obtain ⟨i, hi, rfl⟩ := Option.map_eq_some_iff.mp h
  obtain ⟨rfl, hlo, hhi⟩ := intIn?_eq_some hi
  rw [ofFrame, UInt64.toNat_ofNat_of_lt' (by simp; omega), Int.toNat_of_nonneg hlo]

lemma forall₂_of_list? {items : List Json} {as : List α} (h : list? read (.arr items) = some as) :
    List.Forall₂ (fun v a => read v = some a) items as := by
  replace h : items.mapM read = some as := h
  induction items generalizing as with
  | nil =>
    cases h
    exact .nil
  | cons v items ih =>
    rw [List.mapM_cons] at h
    obtain ⟨a, ha, h⟩ := Option.bind_eq_some_iff.mp h
    obtain ⟨as', has', h⟩ := Option.bind_eq_some_iff.mp h
    cases h
    exact .cons ha (ih has')

/-! ### Members alike but for one -/

/-- The members are the same, but for the values of a key. -/
def AlikeBut (key : String) : List (String × Json) → List (String × Json) → Prop :=
  List.Forall₂ fun m m' => m.1 = m'.1 ∧ (m.1 ≠ key → m = m')

namespace AlikeBut

lemma refl (key : String) (members : List (String × Json)) : AlikeBut key members members :=
  List.forall₂_same.mpr fun _ _ => ⟨rfl, fun _ => rfl⟩

lemma any_eq (h : AlikeBut key members members') (name : String) :
    members.any (·.1 == name) = members'.any (·.1 == name) := by
  induction h with
  | nil => rfl
  | cons hm _ ih => rw [List.any_cons, List.any_cons, hm.1, ih]

lemma put (h : AlikeBut key members members') (name : String) (v : Json) :
    AlikeBut key (Json.put members name v) (Json.put members' name v) := by
  unfold Json.put
  rw [h.any_eq name]
  split
  · refine List.forall₂_map_left_iff.mpr (List.forall₂_map_right_iff.mpr (h.imp fun m m' hm => ?_))
    rw [hm.1]
    split
    · exact ⟨rfl, fun _ => rfl⟩
    · exact hm
  · exact List.rel_append h (refl key [(name, v)])

lemma filter_eq (h : AlikeBut key members members') {p : String → Bool} (hp : p key = false) :
    (members.filter fun m => p m.1) = members'.filter fun m => p m.1 := by
  induction h with
  | nil => rfl
  | @cons m m' _ _ hm _ ih =>
    cases hpm : p m.1 with
    | true =>
      have hne : m.1 ≠ key := by
        rintro rfl
        exact Bool.false_ne_true (hp.symm.trans hpm)
      obtain rfl := hm.2 hne
      simp only [List.filter_cons, hpm, ih]
    | false =>
      simp only [List.filter_cons, ← hm.1, hpm, ih]
      rfl

lemma member?_eq (h : AlikeBut key members members') (hname : name ≠ key) :
    (obj members).member? name = (obj members').member? name := by
  have hfilter := h.filter_eq (p := (· == name)) (by simpa using hname.symm)
  rw [member?, member?, ← List.head?_filter, ← List.head?_filter, List.filter_reverse,
    List.filter_reverse, hfilter]

lemma ofMembers?_eq (h : AlikeBut key members members') {names : List String}
    (hkey : key ∉ names) : Record.ofMembers? names members = Record.ofMembers? names members' := by
  unfold Record.ofMembers?
  rw [h.filter_eq (p := names.contains) (by simpa using hkey)]

end AlikeBut

lemma mem_of_member? (h : (obj members).member? key = some v) : (key, v) ∈ members := by
  obtain ⟨m, hm, rfl⟩ := Option.map_eq_some_iff.mp h
  have hkey : m.1 = key := by simpa using List.find?_some hm
  rw [← hkey]
  exact List.mem_reverse.mp (List.mem_of_find?_eq_some hm)

lemma any_of_member? (h : (obj members).member? key = some v) :
    members.any (·.1 == key) = true :=
  List.any_eq_true.mpr ⟨_, mem_of_member? h, beq_self_eq_true key⟩

/-- To put a value in place of one makes no other difference. -/
lemma alikeBut_put (hmem : (obj members).member? key = some v) (v' : Json) :
    AlikeBut key members (put members key v') := by
  rw [put, if_pos (any_of_member? hmem)]
  refine List.forall₂_map_right_iff.mpr (List.forall₂_same.mpr fun m _ => ?_)
  by_cases hm : m.1 = key
  · rw [if_pos (beq_iff_eq.mpr hm)]
    exact ⟨hm, fun hne => absurd hm hne⟩
  · rw [if_neg (by simpa using hm)]
    exact ⟨rfl, fun _ => rfl⟩

lemma member?_put (members : List (String × Json)) (key : String) (v : Json) :
    (obj (put members key v)).member? key = some v := by
  unfold put
  split
  · next hany =>
    obtain ⟨m, hm, hkey⟩ := List.any_eq_true.mp hany
    have hsame : (fun m : String × Json => m.1 == key) ∘
        (fun m => if m.1 == key then (key, v) else m) = fun m => m.1 == key := by
      funext m
      by_cases hm : m.1 = key <;> simp [hm]
    have hsome : (members.reverse.find? (·.1 == key)).isSome = true :=
      List.find?_isSome.mpr ⟨m, List.mem_reverse.mpr hm, hkey⟩
    obtain ⟨m', hm'⟩ := Option.isSome_iff_exists.mp hsome
    rw [member?, ← List.map_reverse, List.find?_map, hsame, hm', Option.map_some, Option.map_some,
      if_pos (by simpa using List.find?_some hm')]
  · simp [member?]

lemma put_of_absent (h : (obj members).member? key = none) (v : Json) :
    put members key v = members ++ [(key, v)] := by
  have hany : members.any (·.1 == key) = false := by
    rw [member?, Option.map_eq_none_iff, List.find?_eq_none] at h
    exact List.any_eq_false.mpr fun m hm => h m (List.mem_reverse.mpr hm)
  rw [put, hany, if_neg Bool.false_ne_true]

lemma member?_put_of_ne (members : List (String × Json)) (v : Json) (h : name ≠ key) :
    (obj (put members key v)).member? name = (obj members).member? name := by
  cases hmem : (obj members).member? key with
  | some old => exact ((alikeBut_put hmem v).member?_eq h).symm
  | none => simp [put_of_absent hmem, member?, h.symm]

/-- None of the names occurs twice. -/
def Distinct (names : List String) (members : List (String × Json)) : Prop :=
  ((members.map (·.1)).filter names.contains).Nodup

lemma distinct_put (members : List (String × Json)) (v : Json) :
    Distinct names (put members key v) ↔ Distinct names members := by
  cases hmem : (obj members).member? key with
  | some old =>
    have hkeys : (put members key v).map (·.1) = members.map (·.1) := by
      rw [← List.forall₂_eq_eq_eq, List.forall₂_map_left_iff, List.forall₂_map_right_iff]
      exact (alikeBut_put hmem v).flip.imp fun _ _ hm => hm.1.symm
    rw [Distinct, hkeys, Distinct]
  | none =>
    have habsent : key ∉ (members.map (·.1)).filter names.contains := by
      intro hkey
      obtain ⟨m, hm, rfl⟩ := List.mem_map.mp (List.mem_of_mem_filter hkey)
      rw [member?, Option.map_eq_none_iff, List.find?_eq_none] at hmem
      exact hmem m (List.mem_reverse.mpr hm) (beq_self_eq_true _)
    rw [put_of_absent hmem, Distinct, List.map_append, List.filter_append, Distinct]
    cases hname : names.contains key with
    | true =>
      have hnew : [key].filter names.contains = [key] := List.filter_cons_of_pos hname
      rw [List.map_singleton, hnew, List.nodup_append_comm, List.singleton_append, List.nodup_cons]
      exact and_iff_right habsent
    | false =>
      have hnew : [key].filter names.contains = [] := List.filter_cons_of_neg
        (by rw [hname]; exact Bool.false_ne_true)
      rw [List.map_singleton, hnew, List.append_nil]

lemma put_self (distinct : Distinct names members) (hkey : key ∈ names)
    (h : (obj members).member? key = some v) : put members key v = members := by
  rw [Distinct, List.filter_map] at distinct
  have hknown : ∀ m ∈ members, m.1 = key → m ∈ members.filter (names.contains ∘ (·.1)) :=
    fun m hm hfirst => List.mem_filter.mpr ⟨hm, by simp [hfirst, hkey]⟩
  rw [put, if_pos (any_of_member? h)]
  refine (List.map_congr_left fun m hm => ?_).trans (List.map_id members)
  split
  · next hfirst =>
    exact List.inj_on_of_nodup_map distinct (hknown _ (mem_of_member? h) rfl)
      (hknown m hm (beq_iff_eq.mp hfirst)) (beq_iff_eq.mp hfirst).symm
  · rfl

/-! ### Fields of a record -/

/-- A field of a record, as it was written: an object has it under its name, and an array in its
place. -/
def field? (names : List String) (name : String) : Json → Option Json
  | .obj members => (obj members).member? name
  | .arr items => ((names.zip items).find? (·.1 == name)).map (·.2)
  | _ => none

namespace Record

variable {r : Record}

/-- A field of a record that was written as an object is its member of that name. -/
lemma find?_eq_member? (h : ofMembers? names members = some r) (hname : name ∈ names) :
    r.find? name = (obj members).member? name := by
  unfold ofMembers? at h
  dsimp only at h
  split at h
  · next distinct =>
    cases h
    have hknown : ((members.filter fun m => names.contains m.1).reverse.find? (·.1 == name)) =
        members.reverse.find? (·.1 == name) := by
      rw [← List.filter_reverse, List.find?_filter]
      congr 1
      funext m
      by_cases hm : m.1 = name <;> simp [hm, hname]
    rw [find?, member?, ← hknown]
    exact congrArg (Option.map (·.2)) (find?_reverse_eq_find? distinct name).symm
  · cases h

lemma exists_ofMembers?_iff :
    (∃ r, ofMembers? names members = some r) ↔ Distinct names members := by
  rw [Distinct, List.filter_map]
  unfold ofMembers?
  dsimp only
  split
  · next h => exact iff_of_true ⟨_, rfl⟩ h
  · next h => exact iff_of_false nofun h

lemma find?_eq_field? (h : ofJson? names v = some r) (hname : name ∈ names) :
    r.find? name = v.field? names name := by
  cases v with
  | obj members => exact find?_eq_member? h hname
  | arr items =>
    obtain ⟨-, h⟩ := Option.ite_none_right_eq_some.mp h
    cases h
    rfl
  | _ => cases h

lemma isSome_of_required {a : α} (h : r.required name read = some a) (hv : r.find? name = some v) :
    (read v).isSome = true := by
  rw [required, hv] at h
  exact Option.isSome_of_eq_some h

lemma isSome_of_withDefault {default a : α} (h : r.withDefault name default read = some a)
    (hv : r.find? name = some v) : (read v).isSome = true := by
  rw [withDefault, hv] at h
  exact Option.isSome_of_eq_some h

lemma required_eq (h : ofMembers? names members = some r) (hname : name ∈ names)
    (read : Json → Option α) :
    r.required name read = ((obj members).member? name).bind read := by
  rw [required, find?_eq_member? h hname]
  rfl

lemma withDefault_eq (h : ofMembers? names members = some r) (hname : name ∈ names) (default : α)
    (read : Json → Option α) :
    r.withDefault name default read = ((obj members).member? name).elim (some default) read := by
  rw [withDefault, find?_eq_member? h hname]
  cases (obj members).member? name <;> rfl

end Record

end Json

end Montage
