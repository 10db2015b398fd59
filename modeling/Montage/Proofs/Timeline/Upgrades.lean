import Montage.Proofs.Timeline.Versions

/-!
What becomes of a file of the oldest layout.

It is brought up to date before anything is read of it: a decimal rate becomes a rational one, and
a clip without an out-point is given a trim. What is put in is found in place of what was there, and
everything else is found as before; so all that is read but the rate and these trims is what version
1 reads of the same document. A field that cannot be read refuses the file, as it does in version 1,
unless it was put over: that is so of the in-point of a clip without an out-point, which is taken
for nought if it is no frame.
-/

namespace Montage

open Json (Distinct ofFrame put)

namespace Clip

/-- The fields of a clip, each with what can be read for it. -/
def fields : List (String × (Json → Bool)) :=
  [("id", fun v => (ClipId.ofJson? v).isSome), ("track_id", fun v => (TrackId.ofJson? v).isSome),
    ("asset_id", fun v => (AssetId.ofJson? v).isSome), ("start_frame", fun v => v.word64?.isSome),
    ("duration", fun v => v.word64?.isSome), ("in_point", fun v => v.word64?.isSome),
    ("out_point", fun v => v.word64?.isSome),
    ("transform", fun v => (Transform.ofJson? v).isSome),
    ("keyframes", fun v => (Json.list? Keyframe.ofJson? v).isSome),
    ("transition_in", fun v => (Json.orNull? (Transition.ofJson? .tree) v).isSome),
    ("transition_out", fun v => (Json.orNull? (Transition.ofJson? .tree) v).isSome),
    ("layer", fun v => (Json.orNull? Json.int32? v).isSome)]

/-- What is given for a field of a clip. -/
def given? (name : String) (item : Json) : Option Json := item.field? (fields.map (·.1)) name

/-- What is read of a clip: each field that is given is one that can be read, and the duration and
the trim are given. -/
structure ReadFrom (c : Clip) (item : Json) : Prop where
  duration : (given? "duration" item).bind Json.word64? = some c.duration
  inPoint : (given? "in_point" item).bind Json.word64? = some c.inPoint
  outPoint : (given? "out_point" item).bind Json.word64? = some c.outPoint
  fields : ∀ f ∈ fields, ∀ v, given? f.1 item = some v → f.2 v = true
  distinct : ∀ members, item = .obj members → Distinct (Clip.fields.map (·.1)) members

variable {c : Clip} {item : Json}

lemma readFrom_of_ofJson? (h : ofJson? .tree item = some c) : c.ReadFrom item := by
  obtain ⟨r, hr, h⟩ := Option.bind_eq_some_iff.mp h
  have hgiven : ∀ name ∈ fields.map (·.1), r.find? name = given? name item := fun name hname =>
    Json.Record.find?_eq_field? hr hname
  obtain ⟨id, hid, h⟩ := Option.bind_eq_some_iff.mp h
  obtain ⟨track, htrack, h⟩ := Option.bind_eq_some_iff.mp h
  obtain ⟨asset, hasset, h⟩ := Option.bind_eq_some_iff.mp h
  obtain ⟨start, hstart, h⟩ := Option.bind_eq_some_iff.mp h
  obtain ⟨duration, hduration, h⟩ := Option.bind_eq_some_iff.mp h
  obtain ⟨inPoint, hinPoint, h⟩ := Option.bind_eq_some_iff.mp h
  obtain ⟨outPoint, houtPoint, h⟩ := Option.bind_eq_some_iff.mp h
  obtain ⟨transform, htransform, h⟩ := Option.bind_eq_some_iff.mp h
  obtain ⟨keyframes, hkeyframes, h⟩ := Option.bind_eq_some_iff.mp h
  obtain ⟨transitionIn, htransitionIn, h⟩ := Option.bind_eq_some_iff.mp h
  obtain ⟨transitionOut, htransitionOut, h⟩ := Option.bind_eq_some_iff.mp h
  obtain ⟨layer, hlayer, h⟩ := Option.bind_eq_some_iff.mp h
  cases h
  refine ⟨hgiven "duration" (by decide) ▸ hduration, hgiven "in_point" (by decide) ▸ hinPoint,
    hgiven "out_point" (by decide) ▸ houtPoint, fun f hf v hv => ?_, ?_⟩
  · rw [← hgiven f.1 (List.mem_map_of_mem hf)] at hv
    simp only [fields, List.mem_cons, List.not_mem_nil, or_false] at hf
    rcases hf with rfl | rfl | rfl | rfl | rfl | rfl | rfl | rfl | rfl | rfl | rfl | rfl
    · exact Json.Record.isSome_of_required hid hv
    · exact Json.Record.isSome_of_required htrack hv
    · exact Json.Record.isSome_of_required hasset hv
    · exact Json.Record.isSome_of_required hstart hv
    · exact Json.Record.isSome_of_required hduration hv
    · exact Json.Record.isSome_of_required hinPoint hv
    · exact Json.Record.isSome_of_required houtPoint hv
    · exact Json.Record.isSome_of_withDefault htransform hv
    · exact Json.Record.isSome_of_withDefault hkeyframes hv
    · exact Json.Record.isSome_of_withDefault htransitionIn hv
    · exact Json.Record.isSome_of_withDefault htransitionOut hv
    · exact Json.Record.isSome_of_withDefault hlayer hv
  · rintro members rfl
    exact Json.Record.exists_ofMembers?_iff.mp ⟨r, hr⟩

/-- The clip was written as an object, and without an out-point. -/
def IsOpen (item : Json) : Prop :=
  ∃ members, item = .obj members ∧ item.member? "out_point" = none

/-- The clip has the trim that it was given, and what is missing is filled in. An in-point that is no
frame counts as nought, if there is no out-point either. -/
structure LoadedFrom (c : Clip) (item : Json) : Prop where
  inPoint : ∀ v, given? "in_point" item = some v →
    v.word64? = some c.inPoint ∨ IsOpen item ∧ v.word64? = none ∧ c.inPoint = 0
  noInPoint : given? "in_point" item = none → c.inPoint = 0
  outPoint : ∀ v, given? "out_point" item = some v → v.word64? = some c.outPoint
  noOutPoint : given? "out_point" item = none →
    c.outPoint.toNat = min (c.inPoint.toNat + c.duration.toNat) 18446744073709551615

/-- The clip as it was written, but with the trim that was loaded. -/
def withTrim (c : Clip) : Json → Json
  | .obj members => .obj (put (put members "in_point" (ofFrame c.inPoint)) "out_point"
      (ofFrame c.outPoint))
  | v => v

lemma fillTrim_of_not_isOpen (h : ¬IsOpen item) : TimelineFile.fillTrim item = item := by
  cases item with
  | obj members =>
    rw [TimelineFile.fillTrim]
    refine if_pos (Option.isSome_iff_ne_none.mpr fun hout => h ⟨members, rfl, hout⟩)
  | _ => rfl

/-- The word under a key, or nought. -/
def wordAt (key : String) (members : List (String × Json)) : Frame :=
  (((Json.obj members).member? key).bind Json.word64?).getD 0

lemma fillTrim_of_isOpen {members : List (String × Json)}
    (h : (Json.obj members).member? "out_point" = none) :
    TimelineFile.fillTrim (.obj members) =
      .obj (put (put members "in_point" (ofFrame (wordAt "in_point" members))) "out_point"
        (ofFrame ((wordAt "in_point" members).addSat (wordAt "duration" members)))) := by
  rw [TimelineFile.fillTrim, if_neg (by rw [h]; exact Bool.false_ne_true)]
  rfl

/-- **An open clip** is loaded with the trim that is filled in. -/
lemma loadedFrom_of_isOpen {members : List (String × Json)}
    (hopen : (Json.obj members).member? "out_point" = none)
    (h : c.ReadFrom (TimelineFile.fillTrim (.obj members))) :
    c.LoadedFrom (.obj members) ∧
      c.withTrim (.obj members) = TimelineFile.fillTrim (.obj members) := by
  rw [fillTrim_of_isOpen hopen] at h ⊢
  have hduration : wordAt "duration" members = c.duration := by
    have hread := h.duration
    rw [given?, Json.field?, Json.member?_put_of_ne _ _ (by decide),
      Json.member?_put_of_ne _ _ (by decide)] at hread
    rw [wordAt, hread, Option.getD_some]
  have hin : wordAt "in_point" members = c.inPoint := by
    have hread := h.inPoint
    rw [given?, Json.field?, Json.member?_put_of_ne _ _ (by decide), Json.member?_put,
      Option.bind_some, Json.word64?_ofFrame] at hread
    exact Option.some.inj hread
  have hout : (wordAt "in_point" members).addSat (wordAt "duration" members) = c.outPoint := by
    have hread := h.outPoint
    rw [given?, Json.field?, Json.member?_put, Option.bind_some, Json.word64?_ofFrame] at hread
    exact Option.some.inj hread
  refine ⟨⟨fun v hv => ?_, fun hv => ?_, fun v hv => ?_, fun _ => ?_⟩, ?_⟩
  · rw [← hin, wordAt]
    replace hv : (Json.obj members).member? "in_point" = some v := hv
    rw [hv, Option.bind_some]
    cases hword : v.word64? with
    | some n => exact .inl rfl
    | none => exact .inr ⟨⟨members, rfl, hopen⟩, rfl, rfl⟩
  · replace hv : (Json.obj members).member? "in_point" = none := hv
    rw [← hin, wordAt, hv]
    rfl
  · cases hopen.symm.trans hv
  · rw [← hout, hin, hduration, Frame.toNat_addSat]
  · rw [withTrim, hout, hin]

/-- **A clip that is not open** is loaded with the trim that it has. -/
lemma loadedFrom_of_not_isOpen (hopen : ¬IsOpen item) (h : c.ReadFrom item) :
    c.LoadedFrom item ∧ c.withTrim item = item := by
  obtain ⟨vin, hin, hinPoint⟩ := Option.bind_eq_some_iff.mp h.inPoint
  obtain ⟨vout, hout, houtPoint⟩ := Option.bind_eq_some_iff.mp h.outPoint
  refine ⟨⟨fun v hv => ?_, fun hv => ?_, fun v hv => ?_, fun hv => ?_⟩, ?_⟩
  · cases hin.symm.trans hv
    exact .inl hinPoint
  · cases hin.symm.trans hv
  · cases hout.symm.trans hv
    exact houtPoint
  · cases hout.symm.trans hv
  · cases item with
    | obj members =>
      rw [Json.word64?_eq_some hinPoint] at hin
      rw [Json.word64?_eq_some houtPoint] at hout
      have hdistinct := h.distinct members rfl
      rw [withTrim, Json.put_self hdistinct (by decide) hin,
        Json.put_self hdistinct (by decide) hout]
    | _ => rfl

lemma loadedFrom_of_fillTrim (h : c.ReadFrom (TimelineFile.fillTrim item)) :
    c.LoadedFrom item ∧ c.withTrim item = TimelineFile.fillTrim item := by
  by_cases hopen : IsOpen item
  · obtain ⟨members, rfl, hout⟩ := hopen
    exact loadedFrom_of_isOpen hout h
  · rw [fillTrim_of_not_isOpen hopen] at h ⊢
    exact loadedFrom_of_not_isOpen hopen h

lemma given?_fillTrim {name : String} {v : Json} (h : given? name item = some v)
    (hmasked : ¬(name = "in_point" ∧ IsOpen item)) :
    given? name (TimelineFile.fillTrim item) = some v := by
  by_cases hopen : IsOpen item
  · have hin : name ≠ "in_point" := fun hname => hmasked ⟨hname, hopen⟩
    obtain ⟨members, rfl, hout⟩ := hopen
    have hout' : name ≠ "out_point" := by
      rintro rfl
      cases hout.symm.trans h
    rw [fillTrim_of_isOpen hout, given?, Json.field?, Json.member?_put_of_ne _ _ hout',
      Json.member?_put_of_ne _ _ hin]
    exact h
  · rwa [fillTrim_of_not_isOpen hopen]

end Clip

namespace Document

variable {d : Document} {members : List (String × Json)}

/-- What is read of a document. -/
structure ReadFrom (d : Document) (members : List (String × Json)) : Prop where
  distinct : Distinct ["fps", "tracks", "clips", "assets", "duration"] members
  rate : ((Json.obj members).member? "fps").elim (some .fps30) FrameRate.ofJson? = some d.rate
  tracks : ((Json.obj members).member? "tracks").bind (Json.list? Track.ofJson?) = some d.tracks
  clips : ((Json.obj members).member? "clips").bind (Json.list? (Clip.ofJson? .tree)) =
    some d.clips
  assets : ((Json.obj members).member? "assets").elim (some []) (Json.list? MediaAsset.ofJson?) =
    some d.assets
  duration : ((Json.obj members).member? "duration").elim (some none)
    (Json.orNull? Json.word64?) = some d.duration

lemma ofJson?_eq_some : ofJson? .tree (.obj members) = some d ↔ d.ReadFrom members := by
  constructor
  · intro h
    obtain ⟨r, hr, h⟩ := Option.bind_eq_some_iff.mp h
    obtain ⟨rate, hrate, h⟩ := Option.bind_eq_some_iff.mp h
    obtain ⟨tracks, htracks, h⟩ := Option.bind_eq_some_iff.mp h
    obtain ⟨clips, hclips, h⟩ := Option.bind_eq_some_iff.mp h
    obtain ⟨assets, hassets, h⟩ := Option.bind_eq_some_iff.mp h
    obtain ⟨duration, hduration, h⟩ := Option.bind_eq_some_iff.mp h
    cases h
    exact ⟨Json.Record.exists_ofMembers?_iff.mp ⟨r, hr⟩,
      (Json.Record.withDefault_eq hr (by decide) _ _).symm.trans hrate,
      (Json.Record.required_eq hr (by decide) _).symm.trans htracks,
      (Json.Record.required_eq hr (by decide) _).symm.trans hclips,
      (Json.Record.withDefault_eq hr (by decide) _ _).symm.trans hassets,
      (Json.Record.withDefault_eq hr (by decide) _ _).symm.trans hduration⟩
  · intro h
    obtain ⟨r, hr⟩ := Json.Record.exists_ofMembers?_iff.mpr h.distinct
    have hrate := (Json.Record.withDefault_eq hr (by decide) _ _).trans h.rate
    have htracks := (Json.Record.required_eq hr (by decide) _).trans h.tracks
    have hclips := (Json.Record.required_eq hr (by decide) _).trans h.clips
    have hassets := (Json.Record.withDefault_eq hr (by decide) _ _).trans h.assets
    have hduration := (Json.Record.withDefault_eq hr (by decide) _ _).trans h.duration
    rw [ofJson?, Json.Record.ofJson?, hr]
    simp only [Option.bind_eq_bind, Option.bind_some, hrate, htracks, hclips, hassets, hduration]
    rfl

/-- The clips of a document, as they were written. -/
def itemsOf (document : Json) : List Json := ((document.member? "clips").bind Json.items?).getD []

/-- The document as it was written, but with the rate and the trims that were loaded. -/
def writtenInto (d : Document) : Json → Json
  | .obj members => .obj (put (put members "fps" d.rate.toJson) "clips"
      (.arr (List.zipWith Clip.withTrim d.clips (itemsOf (.obj members)))))
  | v => v

/-- A document that is read with another rate and other clips put in is read as it was, but for
these. -/
lemma ReadFrom.put {filled : List (String × Json)} {v : Json} (h : d.ReadFrom (put filled "clips" v))
    (hdistinct : Distinct ["fps", "tracks", "clips", "assets", "duration"] members)
    (halike : ∀ name, name ≠ "fps" → (Json.obj filled).member? name =
      (Json.obj members).member? name) :
    d.ReadFrom (Json.put (Json.put members "fps" d.rate.toJson) "clips" v) := by
  have hmember : ∀ name, name ≠ "fps" →
      (Json.obj (Json.put (Json.put members "fps" d.rate.toJson) "clips" v)).member? name =
        (Json.obj (Json.put filled "clips" v)).member? name := by
    intro name hname
    by_cases hclips : name = "clips"
    · rw [hclips, Json.member?_put, Json.member?_put]
    · rw [Json.member?_put_of_ne _ _ hclips, Json.member?_put_of_ne _ _ hclips,
        Json.member?_put_of_ne _ _ hname, halike name hname]
  refine ⟨?_, ?_, ?_, ?_, ?_, ?_⟩
  · rwa [Json.distinct_put, Json.distinct_put]
  · rw [Json.member?_put_of_ne _ _ (by decide), Json.member?_put, Option.elim_some,
      FrameRate.ofJson?_toJson]
  · rw [hmember _ (by decide), h.tracks]
  · rw [hmember _ (by decide), h.clips]
  · rw [hmember _ (by decide), h.assets]
  · rw [hmember _ (by decide), h.duration]

end Document

namespace TimelineFile

open Document (itemsOf)

variable {v : Json} {file : TimelineFile} {members filled : List (String × Json)}

/-- The document of a file, which may or may not be wrapped. -/
def documentOf (v : Json) : Json := (v.member? "timeline").getD v

/-- The file of a document under version 1. -/
def present (document : Json) : Json := .obj [("version", .int 1), ("timeline", document)]

lemma ofValue_present (document : Json) : ofValue (present document) = load (present document) :=
  ofValue_of_present rfl

lemma fillRate_eq_ok (h : fillRate members = .ok filled) :
    (∀ name, name ≠ "fps" → (Json.obj filled).member? name = (Json.obj members).member? name) ∧
      ∀ names, Distinct names filled ↔ Distinct names members := by
  unfold fillRate at h
  split at h
  · cases h
    exact ⟨fun _ _ => rfl, fun _ => Iff.rfl⟩
  · obtain ⟨rate, -, h⟩ := bind_eq_ok.mp h
    cases h
    exact ⟨fun name hname => Json.member?_put_of_ne _ _ hname, fun _ => Json.distinct_put _ _⟩

/-- **How an old file is read.** -/
lemma readFrom_of_old (hold : versionOf v = 0) (h : ofValue v = .ok file) :
    ∃ members items filled, documentOf v = .obj members ∧
      (Json.obj members).member? "clips" = some (.arr items) ∧ fillRate members = .ok filled ∧
      file.version = 1 ∧ file.document.rate.isValid = true ∧
      file.document.ReadFrom (put filled "clips" (.arr (items.map fillTrim))) := by
  rw [ofValue_of_old hold] at h
  obtain ⟨up, hup, hload⟩ := bind_eq_ok.mp h
  obtain ⟨hread, hvalid⟩ := load_eq_ok.mp hload
  unfold upgrade at hup
  split at hup
  · next members hdocument =>
    obtain ⟨filled, hfilled, hup⟩ := bind_eq_ok.mp hup
    cases hup
    rw [ofJson?_one] at hread
    obtain ⟨d, hd, rfl⟩ := Option.map_eq_some_iff.mp hread
    replace hd := Document.ofJson?_eq_some.mp hd
    have hclips := (fillRate_eq_ok hfilled).1 "clips" (by decide)
    unfold fillClips at hd
    split at hd
    · next items hitems =>
      exact ⟨members, items, filled, hdocument, hclips ▸ hitems, hfilled, rfl, hvalid, hd⟩
    · next hitems =>
      -- Clips that are no array are none at all.
      obtain ⟨w, hw, hlist⟩ := Option.bind_eq_some_iff.mp hd.clips
      obtain ⟨items, hw', -⟩ := Option.bind_eq_some_iff.mp hlist
      cases w with
      | arr items => exact absurd hw (hitems items)
      | _ => cases hw'
  · cases hup

lemma forall₂_loadedFrom {items : List Json} {clips : List Clip}
    (h : Json.list? (Clip.ofJson? .tree) (.arr (items.map fillTrim)) = some clips) :
    List.Forall₂ Clip.LoadedFrom clips items ∧
      List.zipWith Clip.withTrim clips items = items.map fillTrim := by
  have hread := Json.forall₂_of_list? h
  rw [List.forall₂_map_left_iff] at hread
  clear h
  induction hread with
  | nil => exact ⟨.nil, rfl⟩
  | cons hc _ ih =>
    obtain ⟨hloaded, htrim⟩ := Clip.loadedFrom_of_fillTrim (Clip.readFrom_of_ofJson? hc)
    exact ⟨.cons hloaded ih.1, by rw [List.zipWith_cons_cons, htrim, ih.2, List.map_cons]⟩

lemma mem_itemsOf {document item : Json} (h : item ∈ itemsOf document) :
    ∃ members items, document = .obj members ∧
      (Json.obj members).member? "clips" = some (.arr items) ∧ itemsOf document = items := by
  unfold itemsOf at h ⊢
  cases hclips : (document.member? "clips").bind Json.items? with
  | none => simp [hclips] at h
  | some items =>
    obtain ⟨w, hw, hitems⟩ := Option.bind_eq_some_iff.mp hclips
    cases w with
    | arr items =>
      cases hitems
      cases document with
      | obj members => exact ⟨members, items, rfl, hw, rfl⟩
      | _ => cases hw
    | _ => cases hitems

lemma exists_readFrom {items : List Json} {clips : List Clip} {item : Json}
    (h : Json.list? (Clip.ofJson? .tree) (.arr items) = some clips) (hitem : item ∈ items) :
    ∃ c : Clip, c.ReadFrom item := by
  obtain ⟨c, hc⟩ := exists_of_forall₂ (Json.forall₂_of_list? h) item hitem
  exact ⟨c, Clip.readFrom_of_ofJson? hc⟩

/-- **An old file that is read** has the clips that version 1 reads once their trims are filled
in. -/
lemma loaded_of_old (hold : versionOf v = 0) (h : ofValue v = .ok file) :
    List.Forall₂ Clip.LoadedFrom file.document.clips (itemsOf (documentOf v)) ∧
      ofValue (present (file.document.writtenInto (documentOf v))) = .ok file := by
  obtain ⟨members, items, filled, hdocument, hitems, hfilled, hversion, hvalid, hread⟩ :=
    readFrom_of_old hold h
  obtain ⟨halike, hdistinct⟩ := fillRate_eq_ok hfilled
  have hclips := hread.clips
  rw [Json.member?_put, Option.bind_some] at hclips
  obtain ⟨hloaded, htrims⟩ := forall₂_loadedFrom hclips
  have hitemsOf : itemsOf (documentOf v) = items := by
    rw [hdocument, itemsOf, hitems]
    rfl
  rw [hitemsOf]
  refine ⟨hloaded, ?_⟩
  have hwritten := hread.put ((hdistinct _).mp ((Json.distinct_put _ _).mp hread.distinct)) halike
  rw [ofValue_present, load_eq_ok, present, ofJson?_one, hdocument, Document.writtenInto,
    ← hdocument, hitemsOf, htrims, Document.ofJson?_eq_some.mpr hwritten]
  obtain ⟨version, document⟩ := file
  cases hversion
  exact ⟨rfl, hvalid⟩

lemma refused_of_item {document item : Json} (hitem : item ∈ itemsOf document)
    (hread : ∀ c : Clip, ¬c.ReadFrom item) : ∃ e, ofValue (present document) = .error e := by
  obtain ⟨members, items, rfl, hclips, hitems⟩ := mem_itemsOf hitem
  rw [hitems] at hitem
  refine exists_error_of_ne fun file h => ?_
  rw [ofValue_present, load_eq_ok, present, ofJson?_one] at h
  obtain ⟨d, hd, -⟩ := Option.map_eq_some_iff.mp h.1
  have hlist := (Document.ofJson?_eq_some.mp hd).clips
  rw [hclips, Option.bind_some] at hlist
  obtain ⟨c, hc⟩ := exists_readFrom hlist hitem
  exact hread c hc

lemma refused_of_old {item : Json} (hold : versionOf v = 0) (hitem : item ∈ itemsOf (documentOf v))
    (hread : ∀ c : Clip, ¬c.ReadFrom (fillTrim item)) : ∃ e, ofValue v = .error e := by
  refine exists_error_of_ne fun file h => ?_
  obtain ⟨members, items, filled, hdocument, hclips, -, -, -, hdoc⟩ := readFrom_of_old hold h
  rw [hdocument, itemsOf, hclips] at hitem
  have hlist := hdoc.clips
  rw [Json.member?_put, Option.bind_some] at hlist
  obtain ⟨c, hc⟩ := exists_readFrom hlist (List.mem_map_of_mem hitem)
  exact hread c hc

/-- **What becomes of an old file.** If it is read, each clip has the trim that it was given, with
what is missing filled in, and all else is as version 1 reads it from the same document once the
loaded rate and trims are written out there. A clip with a field that cannot be read refuses the
document under version 1, and it refuses the old file as well, but for an in-point without an
out-point. -/
theorem parseBytes_of_old {bytes : ByteArray} (htree : tree? bytes = some v)
    (hold : versionOf v = 0) :
    (∀ file, parseBytes bytes = .ok file →
      List.Forall₂ Clip.LoadedFrom file.document.clips (itemsOf (documentOf v)) ∧
      ofValue (present (file.document.writtenInto (documentOf v))) = .ok file) ∧
    ∀ item ∈ itemsOf (documentOf v), ∀ f ∈ Clip.fields, ∀ w, Clip.given? f.1 item = some w →
      f.2 w = false →
      (∃ e, ofValue (present (documentOf v)) = .error e) ∧
      (¬(f.1 = "in_point" ∧ Clip.IsOpen item) → ∃ e, parseBytes bytes = .error e) := by
  rw [parseBytes_of_tree? htree]
  refine ⟨fun file h => loaded_of_old hold h, fun item hitem f hf w hw hrefused => ?_⟩
  -- No clip is read from anything that gives this for the field.
  have hread : ∀ item', Clip.given? f.1 item' = some w → ∀ c : Clip, ¬c.ReadFrom item' :=
    fun item' hw' c hc => Bool.false_ne_true (hrefused.symm.trans (hc.fields f hf w hw'))
  exact ⟨refused_of_item hitem (hread item hw), fun hmasked =>
    refused_of_old hold hitem (hread _ (Clip.given?_fillTrim hw hmasked))⟩

end TimelineFile

/-- A document of the oldest layout, with a whole number for its rate and one open clip. -/
def Json.sketch (inPoint : Json) : Json :=
  .obj [("fps", .int 25), ("tracks", .arr []), ("clips", .arr [.obj
    [("id", ClipId.toJson ⟨⟨1⟩⟩), ("track_id", TrackId.toJson ⟨⟨1⟩⟩), ("asset_id", .str "first"),
      ("start_frame", .int 0), ("duration", .int 30), ("in_point", inPoint)]])]

namespace TimelineFile

lemma tree?_pretty {v : Json} (hplain : v.isPlain = true) (hback : v.isReadBack = true) :
    tree? (v.pretty 0).toUTF8 = some v.lastWins := by
  obtain ⟨w, hparse, hw⟩ := Json.isTextOf_pretty hback
  rw [Json.eq_of_isPlain v w hplain hw] at hparse
  exact tree?_toUTF8 hparse

/-- The in-point that the open clip has is kept, and it plays up to where it ends. -/
theorem parseBytes_of_old_sketch :
    tree? ((Json.sketch (.int 5)).pretty 0).toUTF8 = some (Json.sketch (.int 5)).lastWins ∧
    versionOf (Json.sketch (.int 5)).lastWins = 0 ∧
    ∃ file, parseBytes ((Json.sketch (.int 5)).pretty 0).toUTF8 = .ok file ∧
      file.document.clips.map (fun c => (c.inPoint, c.outPoint)) = [(5, 35)] ∧
      ofValue (present (file.document.writtenInto
        (documentOf (Json.sketch (.int 5)).lastWins))) = .ok file := by
  have htree := tree?_pretty (v := Json.sketch (.int 5)) (by decide) (by decide +kernel)
  have hold : versionOf (Json.sketch (.int 5)).lastWins = 0 := by decide +kernel
  obtain ⟨file, hfile, hclips⟩ : ∃ file, ofValue (Json.sketch (.int 5)).lastWins = .ok file ∧
      (file.document.clips.map (fun c => (c.inPoint, c.outPoint)) == [(5, 35)]) = true :=
    exists_of_any (by decide +kernel)
  have hread := (parseBytes_of_tree? htree).trans hfile
  exact ⟨htree, hold, file, hread, beq_iff_eq.mp hclips,
    ((parseBytes_of_old htree hold).1 file hread).2⟩

/-- An in-point that is text is taken for nought. -/
theorem parseBytes_of_text_inPoint :
    tree? ((Json.sketch (.str "5")).pretty 0).toUTF8 = some (Json.sketch (.str "5")).lastWins ∧
    versionOf (Json.sketch (.str "5")).lastWins = 0 ∧
    (∃ item ∈ Document.itemsOf (documentOf (Json.sketch (.str "5")).lastWins),
      Clip.given? "in_point" item = some (.str "5")) ∧
    ∃ file, parseBytes ((Json.sketch (.str "5")).pretty 0).toUTF8 = .ok file ∧
      file.document.clips.map (·.inPoint) = [0] := by
  have htree := tree?_pretty (v := Json.sketch (.str "5")) (by decide) (by decide +kernel)
  obtain ⟨file, hfile, hclips⟩ : ∃ file, ofValue (Json.sketch (.str "5")).lastWins = .ok file ∧
      (file.document.clips.map (·.inPoint) == [0]) = true := exists_of_any (by decide +kernel)
  exact ⟨htree, by decide +kernel, ⟨_, List.mem_cons_self, rfl⟩, file,
    (parseBytes_of_tree? htree).trans hfile, beq_iff_eq.mp hclips⟩

end TimelineFile

end Montage
