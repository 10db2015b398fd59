import Montage.Proofs.Computations
import Montage.Proofs.Json.Members
import Montage.Proofs.Timeline.Files

/-!
The versions of files.

A file that is read is of the present version, and its rate is of use for timing. A file that names
a later version is refused, unless the lowest 32 bits of the version are nought: such a file is
taken for one of the layout before version 1, and is read as if it named version 0.
-/

namespace Montage

namespace Json

lemma word32?_eq {v : Json} {k : UInt32} {m : UInt64} (h : v.word32? = some k)
    (h' : v.word64? = some m) : k.toNat = m.toNat := by
  obtain ⟨i, hi, rfl⟩ := Option.map_eq_some_iff.mp h
  obtain ⟨i', hi', rfl⟩ := Option.map_eq_some_iff.mp h'
  obtain ⟨rfl, hlo, hhi⟩ := intIn?_eq_some hi
  obtain rfl := Option.some.inj (hi'.symm.trans (if_pos ⟨hlo, by omega⟩))
  rw [UInt32.toNat_ofNat_of_lt' (by simp; omega), UInt64.toNat_ofNat_of_lt' (by simp; omega)]

end Json

namespace TimelineFile

variable {v v' : Json} {members members' : List (String × Json)} {file : TimelineFile}

/-- Reads a tree of the present layout. -/
def load (v : Json) : Except Error TimelineFile :=
  match ofJson? .tree v with
  | none => .error .notTimeline
  | some file => do
    file.document.validate
    return file

lemma ofValue_of_newer (h : currentVersion < versionOf v) :
    ofValue v = .error (.newerVersion (versionOf v) currentVersion) := by
  rw [ofValue, if_pos h]
  rfl

lemma ofValue_of_old (h : versionOf v = 0) : ofValue v = upgrade v >>= load := by
  rw [ofValue, h]
  rfl

lemma ofValue_of_present (h : versionOf v = 1) : ofValue v = load v := by
  rw [ofValue, h]
  rfl

lemma versionOf_cases (v : Json) :
    versionOf v = 0 ∨ versionOf v = 1 ∨ currentVersion < versionOf v := by
  have hone : currentVersion.toNat = 1 := rfl
  rw [UInt32.lt_iff_toNat_lt, ← UInt32.toNat_inj, ← UInt32.toNat_inj, hone]
  show (versionOf v).toNat = 0 ∨ (versionOf v).toNat = 1 ∨ _
  omega

lemma load_eq_ok : load v = .ok file ↔
    ofJson? .tree v = some file ∧ file.document.rate.isValid = true := by
  unfold load
  split
  · next hread =>
    rw [hread]
    exact ⟨nofun, fun h => nomatch h.1⟩
  · next file' hread =>
    rw [hread, Option.some.injEq, Document.validate]
    split
    · next hvalid =>
      constructor
      · intro h
        cases h
        exact ⟨rfl, hvalid⟩
      · rintro ⟨rfl, -⟩
        rfl
    · next hvalid =>
      constructor
      · intro h
        cases h
      · rintro ⟨rfl, h⟩
        exact absurd h hvalid

lemma version_of_ofJson? {o : Json.Origin} (h : ofJson? o (.obj members) = some file) :
    ((Json.obj members).member? "version").bind Json.word32? = some file.version := by
  obtain ⟨r, hr, h⟩ := Option.bind_eq_some_iff.mp h
  obtain ⟨version, hversion, h⟩ := Option.bind_eq_some_iff.mp h
  obtain ⟨document, -, h⟩ := Option.bind_eq_some_iff.mp h
  cases h
  rw [← Json.Record.find?_eq_member? hr (by simp)]
  exact hversion

lemma member?_of_upgrade (h : upgrade v = .ok v') :
    ∃ members, v' = .obj members ∧ v'.member? "version" = some (.int 1) := by
  unfold upgrade at h
  split at h
  · obtain ⟨members, -, h⟩ := bind_eq_ok.mp h
    cases h
    exact ⟨_, rfl, rfl⟩
  · cases h

lemma exists_of_versionOf (h : versionOf v = 1) :
    ∃ m, (v.member? "version").bind Json.word64? = some m ∧ UInt32.ofNat m.toNat = 1 := by
  unfold versionOf at h
  split at h
  · next m hm => exact ⟨m, hm, h⟩
  · cases h

/-- **A file that is read** is of the present version, and its rate is of use for timing. -/
lemma version_of_ofValue (h : ofValue v = .ok file) :
    file.version = currentVersion ∧ file.document.rate.isValid = true := by
  rcases versionOf_cases v with hold | hpresent | hnewer
  · rw [ofValue_of_old hold] at h
    obtain ⟨v', hupgrade, hload⟩ := bind_eq_ok.mp h
    obtain ⟨hread, hvalid⟩ := load_eq_ok.mp hload
    obtain ⟨members, rfl, hversion⟩ := member?_of_upgrade hupgrade
    have hfile := version_of_ofJson? hread
    rw [hversion] at hfile
    exact ⟨(Option.some.inj hfile).symm, hvalid⟩
  · rw [ofValue_of_present hpresent] at h
    obtain ⟨hread, hvalid⟩ := load_eq_ok.mp h
    refine ⟨?_, hvalid⟩
    obtain ⟨m, hm, hone⟩ := exists_of_versionOf hpresent
    cases v with
    | obj members =>
      obtain ⟨x, hx, hm⟩ := Option.bind_eq_some_iff.mp hm
      have hfile := version_of_ofJson? hread
      rw [hx] at hfile
      rwa [← Json.word32?_eq hfile hm, UInt32.ofNat_toNat] at hone
    | _ => cases hm
  · rw [ofValue_of_newer hnewer] at h
    cases h

/-- A file whose version does not fit in 32 bits is none of the present layout. -/
lemma load_of_wide {n : UInt64}
    (hversion : (Json.obj members).member? "version" = some (.ofFrame n))
    (hn : 4294967296 ≤ n.toNat) : load (.obj members) = .error .notTimeline := by
  have hnone : ofJson? .tree (.obj members) = none := by
    cases hread : ofJson? .tree (.obj members) with
    | none => rfl
    | some file =>
      have hfile := version_of_ofJson? hread
      rw [hversion] at hfile
      obtain ⟨i, hi, -⟩ := Option.map_eq_some_iff.mp hfile
      obtain ⟨heq, -, hhi⟩ := Json.intIn?_eq_some hi
      obtain rfl : (n.toNat : Int) = i := Json.int.inj heq
      omega
  rw [load, hnone]

lemma versionOf_of_member? {n : UInt64} (hversion : v.member? "version" = some (.ofFrame n)) :
    versionOf v = UInt32.ofNat n.toNat := by
  rw [versionOf, hversion, Option.bind_some, Json.word64?_ofFrame]

lemma ofJson?_one (o : Json.Origin) (v : Json) :
    ofJson? o (.obj [("version", .int 1), ("timeline", v)]) =
      (Document.ofJson? o v).map fun d => ⟨1, d⟩ := by
  have hone : Json.word32? (.int 1) = some 1 := rfl
  simp [ofJson?, Json.Record.ofJson?, Json.Record.ofMembers?, Json.Record.required,
    Json.Record.find?, hone, Option.map_eq_bind]

/-! ### The oldest layout -/

lemma fillRate_alike (h : Json.AlikeBut "version" members members') :
    (∃ e, fillRate members = .error e ∧ fillRate members' = .error e) ∨
      ∃ filled filled', fillRate members = .ok filled ∧ fillRate members' = .ok filled' ∧
        Json.AlikeBut "version" filled filled' := by
  unfold fillRate
  rw [h.member?_eq (by decide)]
  cases ((Json.obj members').member? "fps").bind Json.double? with
  | none => exact .inr ⟨members, members', rfl, rfl, h⟩
  | some fps =>
    cases hrate : FrameRate.ofDecimal fps (.rateOutOfRange fps) with
    | error e =>
      simp only [hrate]
      exact .inl ⟨e, rfl, rfl⟩
    | ok rate =>
      simp only [hrate]
      exact .inr ⟨_, _, rfl, rfl, h.put _ _⟩

lemma fillClips_alike (h : Json.AlikeBut "version" members members') :
    Json.AlikeBut "version" (fillClips members) (fillClips members') := by
  unfold fillClips
  rw [h.member?_eq (by decide)]
  split
  · exact h.put _ _
  · exact h

lemma load_alike (h : Json.AlikeBut "version" members members') :
    load (.obj [("version", .int 1), ("timeline", .obj members)]) =
      load (.obj [("version", .int 1), ("timeline", .obj members')]) := by
  have hdocument :
      Document.ofJson? .tree (.obj members) = Document.ofJson? .tree (.obj members') := by
    unfold Document.ofJson? Json.Record.ofJson?
    dsimp only
    rw [h.ofMembers?_eq (by decide)]
  rw [load, load, ofJson?_one, ofJson?_one, hdocument]

/-- Which of the versions that are taken for the oldest one a file names makes no difference. -/
lemma ofValue_alike (h : Json.AlikeBut "version" members members')
    (hold : versionOf (.obj members) = 0) (hold' : versionOf (.obj members') = 0) :
    ofValue (.obj members) = ofValue (.obj members') := by
  rw [ofValue_of_old hold, ofValue_of_old hold', upgrade, upgrade, h.member?_eq (by decide)]
  cases (Json.obj members').member? "timeline" with
  | some document => rfl
  | none =>
    rcases fillRate_alike h with ⟨e, he, he'⟩ | ⟨filled, filled', hfilled, hfilled', halike⟩
    · simp only [Option.getD_none, he, he']
    · simp only [Option.getD_none, hfilled, hfilled']
      exact load_alike (fillClips_alike halike)

/-! ### Files -/

/-- The tree that a file holds, without repeated keys. -/
def tree? (bytes : ByteArray) : Option Json := do
  let text ← String.fromUTF8? bytes
  let v ← Json.parse? text
  return v.lastWins

variable {bytes : ByteArray}

lemma tree?_toUTF8 {text : String} (hparse : Json.parse? text = some v) :
    tree? text.toUTF8 = some v.lastWins := by
  have hbytes : String.fromUTF8? text.toUTF8 = some text := dif_pos text.isValidUTF8
  rw [tree?, hbytes, Option.bind_eq_bind, Option.bind_some, hparse]
  rfl

lemma parseBytes_eq (bytes : ByteArray) :
    parseBytes bytes = (tree? bytes).elim (.error .notJson) ofValue := by
  unfold parseBytes tree?
  cases String.fromUTF8? bytes with
  | none => rfl
  | some text =>
    show parse text = ((Json.parse? text).bind fun v => some v.lastWins).elim _ ofValue
    unfold parse
    cases Json.parse? text <;> rfl

lemma parseBytes_of_tree? (h : tree? bytes = some v) : parseBytes bytes = ofValue v := by
  rw [parseBytes_eq, h]
  rfl

lemma version_of_parseBytes (h : parseBytes bytes = .ok file) :
    file.version = currentVersion ∧ file.document.rate.isValid = true := by
  rw [parseBytes_eq] at h
  cases htree : tree? bytes with
  | none =>
    rw [htree] at h
    cases h
  | some v =>
    rw [htree] at h
    exact version_of_ofValue h

lemma isValid_of_parseBytes (h : parseBytes bytes = .ok file) :
    file.document.rate.isValid = true := (version_of_parseBytes h).2

end TimelineFile

namespace Document

open TimelineFile (tree? parseBytes ofValue upgrade currentVersion)

variable {d : Document} {n : UInt64}

/-- The file of a document, under any version. -/
def fileAs (d : Document) (version : UInt64) : Json :=
  .obj [("version", .int version.toNat), ("timeline", d.toJson)]

def bytesAs (d : Document) (version : UInt64) : ByteArray :=
  ((d.fileAs version).pretty 0).toUTF8

lemma exists_tree?_bytesAs (h : (d.fileAs n).isReadBack = true) :
    ∃ members w, tree? (d.bytesAs n) = some (.obj members) ∧
      (Json.obj members).member? "version" = some (.int n.toNat) ∧
      (Json.obj members).member? "timeline" = some w.lastWins ∧ d.toJson.ReadsAs w := by
  obtain ⟨w, hparse, hw⟩ := Json.isTextOf_pretty h
  obtain ⟨r, hlast, hkeys, hrecord, hholds⟩ :=
    Json.Record.exists_of_readsAs ["version", "timeline"] rfl (by decide) hw
  rw [hlast] at hrecord
  obtain ⟨version, hversion, hreads⟩ := hholds.member _ _ (List.mem_of_getElem? (i := 0) rfl)
  obtain ⟨document, hdocument, hreads'⟩ := hholds.member _ _ (List.mem_of_getElem? (i := 1) rfl)
  rw [Json.Record.find?_eq_member? hrecord (by simp)] at hversion hdocument
  cases hreads
  refine ⟨r.fields, document, ?_, hversion, hdocument, hreads'⟩
  rw [← hlast]
  exact TimelineFile.tree?_toUTF8 hparse

lemma member?_timeline {w : Json} (h : d.toJson.ReadsAs w) :
    w.lastWins.member? "timeline" = none := by
  obtain ⟨r, hlast, hkeys, -, -⟩ := Json.Record.exists_of_readsAs
    ["fps", "tracks", "clips", "assets", "duration"] rfl (by decide) h
  rw [hlast, Json.member?, Option.map_eq_none_iff, List.find?_eq_none]
  intro m hm hkey
  have hmem : "timeline" ∈ r.fields.map (·.1) :=
    beq_iff_eq.mp hkey ▸ List.mem_map_of_mem (List.mem_reverse.mp hm)
  rw [hkeys] at hmem
  exact absurd hmem (by decide)

/-- A document of finite floats, and of a rate that is of use for timing, is read from its file
under each version whose lowest 32 bits are nought. -/
lemma parseBytes_bytesAs (hrate : d.rate.isValid = true) (hd : d.isStorable = true)
    (hback : (d.fileAs n).isReadBack = true) (hn : n.toNat % 4294967296 = 0) :
    parseBytes (d.bytesAs n) = .ok ⟨1, d⟩ := by
  obtain ⟨members, w, htree, hversion, hdocument, hw⟩ := exists_tree?_bytesAs hback
  have hold : TimelineFile.versionOf (.obj members) = 0 := by
    rw [TimelineFile.versionOf_of_member? hversion, ← UInt32.toNat_inj, UInt32.toNat_ofNat', hn]
    rfl
  have hupgrade : upgrade (.obj members) = upgrade w.lastWins := by
    rw [upgrade, upgrade, hdocument, member?_timeline hw]
    rfl
  have hread : TimelineFile.ofJson? .tree
      (.obj [("version", .int 1), ("timeline", w.lastWins)]) = some ⟨1, d⟩ := by
    rw [TimelineFile.ofJson?_one, restores_toJson .tree hd w hw]
    rfl
  rw [TimelineFile.parseBytes_of_tree? htree, TimelineFile.ofValue_of_old hold, hupgrade,
    (TimelineFile.upgrade_of_readsAs hw).2]
  exact TimelineFile.load_eq_ok.mpr ⟨hread, hrate⟩

end Document

namespace TimelineFile

/-- **A file that is read is of the present version,** and the terms of its rate are not nought. A
file of a later version is refused, unless the lowest 32 bits of the version are nought; then it is
read as if it named version 0. -/
theorem parseBytes_of_version (bytes : ByteArray) :
    (∀ file, parseBytes bytes = .ok file → file.version = currentVersion ∧
      file.document.rate.numerator ≠ 0 ∧ file.document.rate.denominator ≠ 0) ∧
    ∀ (members : List (String × Json)) (n : UInt64), tree? bytes = some (.obj members) →
      (Json.obj members).member? "version" = some (.int n.toNat) →
      currentVersion.toNat < n.toNat →
      (n.toNat % 4294967296 ≠ 0 →
        ∃ e ∈ [Error.newerVersion (UInt32.ofNat n.toNat) currentVersion, .notTimeline],
          parseBytes bytes = .error e ∧ e.kind = .serialization) ∧
      (n.toNat % 4294967296 = 0 →
        parseBytes bytes = ofValue (.obj (Json.put members "version" (.int 0)))) := by
  constructor
  · intro file h
    obtain ⟨hversion, hvalid⟩ := version_of_parseBytes h
    rw [FrameRate.isValid, Bool.and_eq_true, bne_iff_ne, bne_iff_ne] at hvalid
    exact ⟨hversion, hvalid⟩
  · intro members n htree hversion hn
    have hone : currentVersion.toNat = 1 := rfl
    have hlow := versionOf_of_member? hversion
    have hbits : (versionOf (.obj members)).toNat = n.toNat % 4294967296 := by
      rw [hlow, UInt32.toNat_ofNat']
    rw [parseBytes_of_tree? htree]
    constructor
    · intro hne
      rcases versionOf_cases (.obj members) with hold | hpresent | hnewer
      · rw [hold] at hbits
        exact absurd hbits.symm hne
      · -- The version itself is none that the present layout can name.
        rw [hpresent] at hbits
        have hwide : 4294967296 ≤ n.toNat := by
          by_contra hlt
          rw [Nat.mod_eq_of_lt (Nat.not_le.mp hlt)] at hbits
          exact Nat.ne_of_gt hn hbits.symm
        rw [ofValue_of_present hpresent, load_of_wide hversion hwide]
        exact ⟨.notTimeline, by simp, rfl, rfl⟩
      · rw [ofValue_of_newer hnewer, hlow]
        exact ⟨_, List.mem_cons_self, rfl, rfl⟩
    · intro hzero
      have hold : versionOf (.obj members) = 0 := by
        rw [← UInt32.toNat_inj, hbits, hzero]
        rfl
      have hold' : versionOf (.obj (Json.put members "version" (.int 0))) = 0 :=
        versionOf_of_member? (n := 0) (Json.member?_put members "version" (.int 0))
      exact ofValue_alike (Json.alikeBut_put hversion (.int 0)) hold hold'

lemma isReadBack_wide : (Document.oneClip.fileAs 4294967296).isReadBack = true := by decide +kernel

/-- Under version 7 the file of an empty document is refused. Under 4294967296 that of a keyed clip
is read, as it is under 0, and is of version 1 then. -/
theorem parseBytes_of_version_oneClip :
    (∃ e, parseBytes (Document.bytesAs {} 7) = .error e ∧ e.kind = .serialization) ∧
    (∃ members, tree? (Document.oneClip.bytesAs 4294967296) = some (.obj members) ∧
      parseBytes (Document.oneClip.bytesAs 4294967296) =
        ofValue (.obj (Json.put members "version" (.int 0)))) ∧
    ∃ file, parseBytes (Document.oneClip.bytesAs 4294967296) = .ok file ∧
      file.version = currentVersion := by
  obtain ⟨later, -, hlater, hseven, -⟩ :=
    Document.exists_tree?_bytesAs (d := {}) (n := 7) (by decide +kernel)
  obtain ⟨wide, -, hwide, hversion, -⟩ := Document.exists_tree?_bytesAs isReadBack_wide
  have hok := Document.parseBytes_bytesAs (by decide) (by decide) isReadBack_wide (by decide)
  obtain ⟨e, -, he⟩ := ((parseBytes_of_version _).2 later 7 hlater hseven (by decide)).1 (by decide)
  exact ⟨⟨e, he⟩, ⟨wide, hwide,
    ((parseBytes_of_version _).2 wide 4294967296 hwide hversion (by decide)).2 (by decide)⟩,
    _, hok, ((parseBytes_of_version _).1 _ hok).1⟩

/-- Not every file of a later version is refused. -/
theorem parseBytes_of_wide_version :
    ¬∀ (bytes : ByteArray) (members : List (String × Json)) (n : UInt64),
      tree? bytes = some (.obj members) →
      (Json.obj members).member? "version" = some (.int n.toNat) →
      currentVersion.toNat < n.toNat →
      ∃ e, parseBytes bytes = .error e ∧ e.kind = .serialization := by
  intro h
  obtain ⟨members, -, htree, hversion, -⟩ := Document.exists_tree?_bytesAs isReadBack_wide
  obtain ⟨e, he, -⟩ := h _ members 4294967296 htree hversion (by decide)
  rw [Document.parseBytes_bytesAs (by decide) (by decide) isReadBack_wide (by decide)] at he
  cases he

end TimelineFile

end Montage
