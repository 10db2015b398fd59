import Mathlib.Data.List.Forall2
import Montage.Json.Record

/-!
What a tree is read back as after it was written to text.

A text layer that loses nothing brings every finite float back at its width, and the rest as it
was; what is no finite number it writes as `null`. A reader restores a value if it gets it back
from whatever such a layer gives for the tree of the value, once repeated keys are settled. The
lemmas below put readers together from those of their parts.
-/

namespace Montage

namespace Json

/-- The second tree is what a text layer that loses nothing reads for the first. Text does not tell
of what width a float was: a single comes back as a double that is nearest to no other single. -/
inductive ReadsAs : Json → Json → Prop
  | null : ReadsAs .null .null
  | bool (b : Bool) : ReadsAs (.bool b) (.bool b)
  | int (n : Int) : ReadsAs (.int n) (.int n)
  | str (s : String) : ReadsAs (.str s) (.str s)
  | double {x : Float} (finite : x.isFinite = true) : ReadsAs (.double x) (.double x)
  | single {x : Float32} {y : Float} (finite : x.isFinite = true) (same : Float32.ofDouble y = x) :
      ReadsAs (.single x) (.double y)
  | noDouble {x : Float} (notFinite : x.isFinite = false) : ReadsAs (.double x) .null
  | noSingle {x : Float32} (notFinite : x.isFinite = false) : ReadsAs (.single x) .null
  | arr {items items' : List Json} (each : List.Forall₂ ReadsAs items items') :
      ReadsAs (.arr items) (.arr items')
  | obj {members members' : List (String × Json)} (keys : members'.map (·.1) = members.map (·.1))
      (each : List.Forall₂ ReadsAs (members.map (·.2)) (members'.map (·.2))) :
      ReadsAs (.obj members) (.obj members')

/-! ### Repeated keys -/

lemma lastWinsItems_eq_map (items : List Json) : lastWinsItems items = items.map lastWins := by
  induction items with
  | nil => rw [lastWinsItems, List.map_nil]
  | cons v rest ih => rw [lastWinsItems, ih, List.map_cons]

lemma lastWinsMembers_eq_map (members : List (String × Json)) :
    lastWinsMembers members = members.map fun m => (m.1, m.2.lastWins) := by
  induction members with
  | nil => rw [lastWinsMembers, List.map_nil]
  | cons m rest ih => rw [lastWinsMembers, ih, List.map_cons]

lemma dropEarlier_of_nodup {members : List (String × Json)} (h : (members.map (·.1)).Nodup) :
    dropEarlier members = members := by
  induction members with
  | nil => rfl
  | cons m rest ih =>
    rw [List.map_cons, List.nodup_cons] at h
    have hnone : rest.any (·.1 == m.1) = false := by
      rw [List.any_eq_false]
      intro k hk heq
      exact h.1 (beq_iff_eq.mp heq ▸ List.mem_map_of_mem hk)
    rw [dropEarlier, hnone, if_neg Bool.false_ne_true, ih h.2]

lemma lastWins_arr (items : List Json) : (arr items).lastWins = .arr (items.map lastWins) := by
  rw [lastWins, lastWinsItems_eq_map]

lemma lastWins_obj {members : List (String × Json)} (h : (members.map (·.1)).Nodup) :
    (obj members).lastWins = .obj (members.map fun m => (m.1, m.2.lastWins)) := by
  rw [lastWins, lastWinsMembers_eq_map, dropEarlier_of_nodup]
  rwa [List.map_map]

/-! ### Members -/

lemma exists_of_readsAs_member {key : String} {v w : Json} (h : (obj [(key, v)]).ReadsAs w) :
    ∃ v', v.ReadsAs v' ∧ w.lastWins = .obj [(key, v'.lastWins)] := by
  cases h with
  | @obj _ members' keys each =>
    obtain ⟨m, rfl, rfl⟩ := List.map_eq_singleton_iff.mp keys
    exact ⟨m.2, (List.forall₂_cons.mp each).1, lastWins_obj (by simp)⟩

lemma find?_map_lastWins (members : List (String × Json)) (key : String) :
    ((members.map fun m => (m.1, m.2.lastWins)).find? (·.1 == key)).map (·.2) =
      ((members.find? (·.1 == key)).map (·.2)).map lastWins := by
  rw [List.find?_map, Option.map_map, Option.map_map]
  rfl

/-- The members of an object are found under their keys. -/
lemma find?_of_readsAs {members members' : List (String × Json)} {key : String} {v : Json}
    (keys : members'.map (·.1) = members.map (·.1)) (nodup : (members.map (·.1)).Nodup)
    (each : List.Forall₂ ReadsAs (members.map (·.2)) (members'.map (·.2)))
    (hmem : (key, v) ∈ members) :
    ∃ w, (members'.find? (·.1 == key)).map (·.2) = some w ∧ v.ReadsAs w := by
  induction members generalizing members' with
  | nil => exact absurd hmem List.not_mem_nil
  | cons m rest ih =>
    rcases members' with _ | ⟨m', rest'⟩
    · cases each
    · simp only [List.map_cons, List.cons.injEq, List.forall₂_cons, List.nodup_cons]
        at keys nodup each
      rw [List.find?_cons]
      rcases List.mem_cons.mp hmem with rfl | hrest
      · rw [beq_iff_eq.mpr keys.1]
        exact ⟨m'.2, rfl, each.1⟩
      · have hne : (m'.1 == key) = false := by
          rw [keys.1, beq_eq_false_iff_ne]
          rintro rfl
          exact nodup.1 (List.mem_map_of_mem (f := (·.1)) hrest)
        rw [hne]
        exact ih keys.2 nodup.2 each.2 hrest

/-! ### Readers -/

/-- The reader gets the value back from whatever the tree is read back as. -/
def Restores {α : Type} (read : Json → Option α) (v : Json) (a : α) : Prop :=
  ∀ w, v.ReadsAs w → read w.lastWins = some a

variable {α : Type} {read : Json → Option α}

lemma restores_bool (b : Bool) : Restores bool? (.bool b) b := by
  rintro _ ⟨⟩
  rfl

lemma Restores.text {s : String} {a : α} (h : read (.str s) = some a) :
    Restores read (.str s) a := by
  rintro _ ⟨⟩
  exact h

lemma restores_string (s : String) : Restores string? (.str s) s := Restores.text rfl

lemma restores_intIn {lo hi n : Int} (h : lo ≤ n ∧ n ≤ hi) :
    Restores (intIn? lo hi) (.int n) n := by
  rintro _ ⟨⟩
  exact if_pos h

lemma restores_frame (n : UInt64) : Restores word64? (ofFrame n) n := by
  rintro _ ⟨⟩
  have hlt := n.toNat_lt
  have hin : intIn? 0 18446744073709551615 (.int n.toNat) = some (n.toNat : Int) :=
    if_pos ⟨by omega, by omega⟩
  show word64? (.int n.toNat) = some n
  rw [word64?, hin]
  simp

lemma word64?_ofFrame (n : UInt64) : (ofFrame n).word64? = some n := restores_frame n _ (.int _)

lemma restores_word (n : UInt32) : Restores word32? (ofWord n) n := by
  rintro _ ⟨⟩
  have hlt := n.toNat_lt
  have hin : intIn? 0 4294967295 (.int n.toNat) = some (n.toNat : Int) :=
    if_pos ⟨by omega, by omega⟩
  show word32? (.int n.toNat) = some n
  rw [word32?, hin]
  simp

lemma restores_double {x : Float} (h : x.isFinite = true) : Restores double? (.double x) x := by
  intro w hw
  cases hw with
  | double => rfl
  | noDouble hn => simp [h] at hn

lemma restores_single {x : Float32} (h : x.isFinite = true) : Restores single? (.single x) x := by
  intro w hw
  cases hw with
  | single _ same => exact congrArg some same
  | noSingle hn => simp [h] at hn

lemma restores_ofOption {write : α → Json} {oa : Option α} (hnull : read .null = none)
    (h : ∀ a, oa = some a → Restores read (write a) a) :
    Restores (orNull? read) (ofOption write oa) oa := by
  cases oa with
  | none =>
    rintro _ ⟨⟩
    rfl
  | some a =>
    intro w hw
    have hread := h a rfl w hw
    rcases hv : w.lastWins with _ | _ | _ | _ | _ | _ | _ | _
    · rw [hv, hnull] at hread
      cases hread
    all_goals
      rw [hv] at hread
      rw [orNull?, hread]
      · rfl
      · exact nofun

lemma mapM_lastWins {write : α → Json} {as : List α} (h : ∀ a ∈ as, Restores read (write a) a)
    {items : List Json} (each : List.Forall₂ ReadsAs (as.map write) items) :
    (items.map lastWins).mapM read = some as := by
  induction as generalizing items with
  | nil =>
    cases each
    rfl
  | cons a as ih =>
    rw [List.map_cons, List.forall₂_cons_left_iff] at each
    obtain ⟨v, rest, hv, hrest, rfl⟩ := each
    have hfirst := h a List.mem_cons_self v hv
    have hothers := ih (fun b hb => h b (List.mem_cons_of_mem _ hb)) hrest
    rw [List.map_cons, List.mapM_cons, hfirst, hothers]
    rfl

lemma restores_list {write : α → Json} {as : List α} (h : ∀ a ∈ as, Restores read (write a) a) :
    Restores (list? read) (.arr (as.map write)) as := by
  rintro _ ⟨each⟩
  rw [lastWins_arr]
  exact mapM_lastWins h ‹_›

namespace Record

/-- The record has what the members of an object were read back as. -/
structure Holds (r : Record) (members : List (String × Json)) : Prop where
  named : r.positional = false
  member : ∀ key v, (key, v) ∈ members → ∃ w, r.find? key = some w.lastWins ∧ v.ReadsAs w

variable {r : Record} {members : List (String × Json)} {key : String} {v : Json} {a : α}

lemma Holds.required (h : r.Holds members) (i : Nat) (hget : members[i]? = some (key, v))
    (hv : Restores read v a) : r.required key read = some a := by
  obtain ⟨w, hfind, hw⟩ := h.member key v (List.mem_of_getElem? hget)
  rw [Record.required, hfind]
  exact hv w hw

lemma Holds.withDefault {default : α} (h : r.Holds members) (i : Nat)
    (hget : members[i]? = some (key, v)) (hv : Restores read v a) :
    r.withDefault key default read = some a := by
  obtain ⟨w, hfind, hw⟩ := h.member key v (List.mem_of_getElem? hget)
  rw [Record.withDefault, hfind]
  exact hv w hw

/-- What an object is read back as is a record with all its members. -/
lemma exists_of_readsAs (names : List String) {w : Json} (keys : members.map (·.1) = names)
    (nodup : names.Nodup) (hw : (obj members).ReadsAs w) :
    ∃ r : Record, w.lastWins = .obj r.fields ∧ r.fields.map (·.1) = names ∧
      Record.ofJson? names w.lastWins = some r ∧ r.Holds members := by
  subst keys
  cases hw with
  | @obj _ members' keys each =>
    have hw := lastWins_obj (keys ▸ nodup)
    have hkeys : (members'.map fun m => (m.1, m.2.lastWins)).map (·.1) = members.map (·.1) := by
      rw [List.map_map, ← keys]
      rfl
    refine ⟨⟨_, false⟩, hw, hkeys, ?_, rfl, fun key v hmem => ?_⟩
    · rw [hw, Record.ofJson?, Record.ofMembers?, List.filter_eq_self.mpr]
      · rw [if_pos (hkeys ▸ nodup)]
      · intro m hm
        rw [List.contains_iff_mem, ← hkeys]
        exact List.mem_map_of_mem hm
    · obtain ⟨w, hfind, hv⟩ := find?_of_readsAs keys nodup each hmem
      refine ⟨w, ?_, hv⟩
      rw [Record.find?, find?_map_lastWins, hfind]
      rfl

end Record

lemma Restores.record {names : List String} {members : List (String × Json)}
    {build : Record → Option α} {a : α} (keys : members.map (·.1) = names) (nodup : names.Nodup)
    (h : ∀ r : Record, r.Holds members → build r = some a) :
    Restores (fun v => Record.ofJson? names v >>= build) (.obj members) a := by
  intro w hw
  obtain ⟨r, -, -, hrecord, hholds⟩ := Record.exists_of_readsAs names keys nodup hw
  dsimp only
  rw [hrecord]
  exact h r hholds

end Json

end Montage
