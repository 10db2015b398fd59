import Montage.Json.Parser
import Montage.Json.Printer
import Montage.Proofs.Json.ReadBack

/-!
Texts that a tree is read back from. That a text is one can be computed: for the text that a tree
is printed as it is enough to run the reader on the printed characters.
-/

namespace Montage.Json

/-- The text is read as the tree, and nothing is lost on the way. -/
def IsTextOf (text : String) (v : Json) : Prop := ∃ w, parse? text = some w ∧ v.ReadsAs w

/-! ### What is read -/

mutual

/-- Whether the second tree is what the first one may be read as. -/
def isReadAs : Json → Json → Bool
  | .null, .null => true
  | .bool b, .bool b' => b == b'
  | .int n, .int n' => n == n'
  | .str s, .str s' => s == s'
  | .double x, .double y => x.isFinite && decide (x = y)
  | .single x, .double y => x.isFinite && decide (Float32.ofDouble y = x)
  | .double x, .null => !x.isFinite
  | .single x, .null => !x.isFinite
  | .arr items, .arr items' => areReadAs items items'
  | .obj members, .obj members' => membersAreReadAs members members'
  | _, _ => false

def areReadAs : List Json → List Json → Bool
  | [], [] => true
  | v :: rest, w :: rest' => isReadAs v w && areReadAs rest rest'
  | _, _ => false

def membersAreReadAs : List (String × Json) → List (String × Json) → Bool
  | [], [] => true
  | (k, v) :: rest, (k', w) :: rest' => k == k' && isReadAs v w && membersAreReadAs rest rest'
  | _, _ => false

end

mutual

lemma readsAs_of_isReadAs : ∀ v w : Json, isReadAs v w = true → v.ReadsAs w
  | .null, .null, _ => .null
  | .bool b, .bool b', h => by
    obtain rfl : b = b' := by simpa [isReadAs] using h
    exact .bool b
  | .int n, .int n', h => by
    obtain rfl : n = n' := by simpa [isReadAs] using h
    exact .int n
  | .str s, .str s', h => by
    obtain rfl : s = s' := by simpa [isReadAs] using h
    exact .str s
  | .double x, .double y, h => by
    obtain ⟨hx, rfl⟩ : x.isFinite = true ∧ x = y := by simpa [isReadAs] using h
    exact .double hx
  | .single x, .double y, h => by
    obtain ⟨hx, hy⟩ : x.isFinite = true ∧ Float32.ofDouble y = x := by simpa [isReadAs] using h
    exact .single hx hy
  | .double x, .null, h => .noDouble (by simpa [isReadAs] using h)
  | .single x, .null, h => .noSingle (by simpa [isReadAs] using h)
  | .arr items, .arr items', h => .arr (forall₂_of_areReadAs items items' h)
  | .obj members, .obj members', h =>
    have h := forall₂_of_membersAreReadAs members members' h
    .obj h.1 h.2

lemma forall₂_of_areReadAs : ∀ items items' : List Json, areReadAs items items' = true →
    List.Forall₂ ReadsAs items items'
  | [], [], _ => .nil
  | v :: rest, w :: rest', h => by
    rw [areReadAs, Bool.and_eq_true] at h
    exact .cons (readsAs_of_isReadAs v w h.1) (forall₂_of_areReadAs rest rest' h.2)

lemma forall₂_of_membersAreReadAs : ∀ members members' : List (String × Json),
    membersAreReadAs members members' = true → members'.map (·.1) = members.map (·.1) ∧
      List.Forall₂ ReadsAs (members.map (·.2)) (members'.map (·.2))
  | [], [], _ => ⟨rfl, .nil⟩
  | (k, v) :: rest, (k', w) :: rest', h => by
    rw [membersAreReadAs, Bool.and_eq_true, Bool.and_eq_true, beq_iff_eq] at h
    obtain ⟨⟨rfl, hv⟩, hrest⟩ := h
    obtain ⟨hkeys, heach⟩ := forall₂_of_membersAreReadAs rest rest' hrest
    exact ⟨congrArg (k :: ·) hkeys, .cons (readsAs_of_isReadAs v w hv) heach⟩

end

mutual

/-- Whether the tree has no floats. -/
def isPlain : Json → Bool
  | .double _ | .single _ => false
  | .arr items => arePlain items
  | .obj members => membersArePlain members
  | _ => true

def arePlain : List Json → Bool
  | [] => true
  | v :: rest => isPlain v && arePlain rest

def membersArePlain : List (String × Json) → Bool
  | [] => true
  | (_, v) :: rest => isPlain v && membersArePlain rest

end

mutual

lemma eq_of_isPlain : ∀ v w : Json, isPlain v = true → v.ReadsAs w → w = v
  | .null, _, _, .null => rfl
  | .bool _, _, _, .bool _ => rfl
  | .int _, _, _, .int _ => rfl
  | .str _, _, _, .str _ => rfl
  | .arr items, _, h, .arr each => congrArg arr (eq_of_arePlain items _ h each)
  | .obj members, _, h, .obj keys each => congrArg obj (eq_of_membersArePlain members _ h keys each)

lemma eq_of_arePlain : ∀ items items' : List Json, arePlain items = true →
    List.Forall₂ ReadsAs items items' → items' = items
  | [], _, _, .nil => rfl
  | v :: rest, _, h, .cons hv hrest => by
    rw [arePlain, Bool.and_eq_true] at h
    rw [eq_of_isPlain v _ h.1 hv, eq_of_arePlain rest _ h.2 hrest]

lemma eq_of_membersArePlain : ∀ members members' : List (String × Json),
    membersArePlain members = true → members'.map (·.1) = members.map (·.1) →
      List.Forall₂ ReadsAs (members.map (·.2)) (members'.map (·.2)) → members' = members
  | [], [], _, _, _ => rfl
  | (k, v) :: rest, (k', w) :: rest', h, keys, each => by
    rw [membersArePlain, Bool.and_eq_true] at h
    obtain ⟨hv, hrest⟩ := List.forall₂_cons.mp each
    obtain ⟨rfl, hkeys⟩ := List.cons.inj keys
    rw [eq_of_isPlain v w h.1 hv, eq_of_membersArePlain rest rest' h.2 hkeys hrest]

end

/-! ### What is printed -/

def brokenLine (level : Nat) : List Char := '\n' :: List.replicate (2 * level) ' '

def quoted (s : String) : List Char := '"' :: (s.toList.flatMap escape ++ ['"'])

@[simp]
lemma toList_lineBreak (level : Nat) : (lineBreak level).toList = brokenLine level := by
  simp [lineBreak, brokenLine]

@[simp]
lemma toList_quote (s : String) : (quote s).toList = quoted s := by simp [quote, quoted]

mutual

/-- The characters of the indented text. -/
def printed (level : Nat) : Json → List Char
  | .arr [] => ['[', ']']
  | .obj [] => ['\x7b', '\x7d']
  | .arr (v :: rest) =>
    '[' :: (printedItems (level + 1) (v :: rest) ++ (brokenLine level ++ [']']))
  | .obj (m :: rest) =>
    '\x7b' :: (printedMembers (level + 1) (m :: rest) ++ (brokenLine level ++ ['\x7d']))
  | .str s => quoted s
  | v => (leaf v).toList

def printedItems (level : Nat) : List Json → List Char
  | [] => []
  | [v] => brokenLine level ++ printed level v
  | v :: rest => brokenLine level ++ (printed level v ++ ',' :: printedItems level rest)

def printedMembers (level : Nat) : List (String × Json) → List Char
  | [] => []
  | [(k, v)] => brokenLine level ++ (quoted k ++ ':' :: ' ' :: printed level v)
  | (k, v) :: rest =>
    brokenLine level ++ (quoted k ++ ':' :: ' ' :: (printed level v ++
      ',' :: printedMembers level rest))

end

mutual

lemma toList_pretty (level : Nat) : ∀ v : Json, (v.pretty level).toList = printed level v
  | .arr [] => by simp [pretty, printed]
  | .obj [] => by simp [pretty, printed]
  | .arr (v :: rest) => by simp [pretty, printed, toList_prettyItems (level + 1) (v :: rest)]
  | .obj (m :: rest) => by simp [pretty, printed, toList_prettyMembers (level + 1) (m :: rest)]
  | .null | .bool _ | .int _ | .double _ | .single _ => by simp [pretty, printed]
  | .str s => by simp [pretty, printed, leaf]

lemma toList_prettyItems (level : Nat) : ∀ items : List Json,
    (prettyItems level items).toList = printedItems level items
  | [] => by simp [prettyItems, printedItems]
  | [v] => by simp [prettyItems, printedItems, toList_pretty level v]
  | v :: w :: rest => by
    simp [prettyItems, printedItems, toList_pretty level v, toList_prettyItems level (w :: rest)]

lemma toList_prettyMembers (level : Nat) : ∀ members : List (String × Json),
    (prettyMembers level members).toList = printedMembers level members
  | [] => by simp [prettyMembers, printedMembers]
  | [(k, v)] => by simp [prettyMembers, printedMembers, toList_pretty level v]
  | (k, v) :: m :: rest => by
    simp [prettyMembers, printedMembers, toList_pretty level v,
      toList_prettyMembers level (m :: rest)]

end

/-- Whether the tree is read back from its indented text. -/
def isReadBack (v : Json) : Bool :=
  let cs := printed 0 v
  match Parser.value (2 * cs.length + 2) maxDepth cs with
  | some (w, rest) => (Parser.skipBlanks rest).isEmpty && isReadAs v w
  | none => false

lemma isTextOf_pretty {v : Json} (h : v.isReadBack = true) : IsTextOf (v.pretty 0) v := by
  rw [isReadBack] at h
  split at h
  · next w rest hvalue =>
    rw [Bool.and_eq_true] at h
    refine ⟨w, ?_, readsAs_of_isReadAs v w h.2⟩
    rw [parse?, toList_pretty]
    simp only [hvalue, h.1, if_true]
  · cases h

end Montage.Json
