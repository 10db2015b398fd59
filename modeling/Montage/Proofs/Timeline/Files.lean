import Montage.Proofs.Json.Texts
import Montage.Proofs.Timeline.Identifiers
import Montage.Time.Codec
import Montage.Timeline.Document

/-!
Timelines read back from their files.

Each part of a document is restored from what is read for its tree, provided its floats are finite
and its places in a stack fit in 32 bits; so the whole document is, from the file that wraps it and
from the document alone. The older layouts name no version, as the document alone does; but bringing
them up to date fills in only what is missing, and a whole document misses nothing.
-/

namespace Montage

open Json (Restores restores_string restores_word restores_frame restores_single restores_bool
  restores_double restores_ofOption restores_list)

/-! ### Names and numbers -/

lemma ClipId.restores_toJson (id : ClipId) : Restores ofJson? id.toJson id :=
  Restores.text (by simp [ofJson?, Json.string?, ofText?, text, Uuid.ofText?_text])

lemma TrackId.restores_toJson (id : TrackId) : Restores ofJson? id.toJson id :=
  Restores.text (by simp [ofJson?, Json.string?, text, Uuid.ofText?_text])

lemma AssetId.restores_toJson (id : AssetId) : Restores ofJson? id.toJson id := Restores.text rfl

lemma AssetKind.restores_toJson (k : AssetKind) : Restores ofJson? k.toJson k :=
  Restores.text (by cases k <;> rfl)

lemma FrameRate.restores_toJson (f : FrameRate) : Restores ofJson? f.toJson f := by
  refine Restores.record rfl (by decide) fun r hr => ?_
  simp [hr.required 0 rfl (restores_word f.numerator),
    hr.required 1 rfl (restores_word f.denominator)]

lemma FrameRate.ofJson?_toJson (f : FrameRate) : ofJson? f.toJson = some f :=
  f.restores_toJson _ (.obj rfl (.cons (.int _) (.cons (.int _) .nil)))

/-! ### Looks -/

def Vec2.isFinite (v : Vec2 Float32) : Bool := v.x.isFinite && v.y.isFinite

def Transform.isFinite (t : Transform Float32) : Bool :=
  t.position.isFinite && t.scale.isFinite && t.rotation.isFinite && t.opacity.isFinite

def TransformOverride.isFinite (o : TransformOverride Float32) : Bool :=
  o.positionX.all Float32.isFinite && o.positionY.all Float32.isFinite &&
    o.scaleX.all Float32.isFinite && o.scaleY.all Float32.isFinite &&
      o.rotation.all Float32.isFinite && o.opacity.all Float32.isFinite

lemma Vec2.restores_toJson {v : Vec2 Float32} (h : v.isFinite = true) :
    Restores ofJson? v.toJson v := by
  rw [isFinite, Bool.and_eq_true] at h
  intro w hw
  cases hw with
  | arr each =>
    simp only [List.forall₂_cons_left_iff, List.forall₂_nil_left_iff] at each
    obtain ⟨x, _, hx, ⟨y, _, hy, rfl, rfl⟩, rfl⟩ := each
    simp [Json.lastWins_arr, ofJson?, restores_single h.1 x hx, restores_single h.2 y hy]

lemma Transform.restores_toJson {t : Transform Float32} (h : t.isFinite = true) :
    Restores ofJson? t.toJson t := by
  simp only [isFinite, Bool.and_eq_true] at h
  obtain ⟨⟨⟨hposition, hscale⟩, hrotation⟩, hopacity⟩ := h
  refine Restores.record rfl (by decide) fun r hr => ?_
  simp [hr.required 0 rfl (Vec2.restores_toJson hposition),
    hr.required 1 rfl (Vec2.restores_toJson hscale),
    hr.required 2 rfl (restores_single hrotation),
    hr.required 3 rfl (restores_single hopacity)]

lemma restores_part {part : Option Float32} (h : part.all Float32.isFinite = true) :
    Restores (Json.orNull? Json.single?) (Json.ofOption .single part) part :=
  restores_ofOption rfl fun _ hx => restores_single (by rw [hx] at h; exact h)

lemma TransformOverride.restores_toJson {o : TransformOverride Float32} (h : o.isFinite = true) :
    Restores ofJson? o.toJson o := by
  simp only [isFinite, Bool.and_eq_true] at h
  obtain ⟨⟨⟨⟨⟨hx, hy⟩, hwidth⟩, hheight⟩, hrotation⟩, hopacity⟩ := h
  refine Restores.record rfl (by decide) fun r hr => ?_
  simp [hr.withDefault 0 rfl (restores_part hx),
    hr.withDefault 1 rfl (restores_part hy),
    hr.withDefault 2 rfl (restores_part hwidth),
    hr.withDefault 3 rfl (restores_part hheight),
    hr.withDefault 4 rfl (restores_part hrotation),
    hr.withDefault 5 rfl (restores_part hopacity)]

def Keyframe.isFinite (k : Keyframe Float32) : Bool := k.override.isFinite

lemma Keyframe.restores_toJson {k : Keyframe Float32} (h : k.isFinite = true) :
    Restores ofJson? k.toJson k := by
  have heasing : Restores Easing.ofJson? k.easing.toJson k.easing :=
    Restores.text (congrArg some k.easing.ofName_name)
  refine Restores.record rfl (by decide) fun r hr => ?_
  simp [hr.required 0 rfl (restores_frame k.frame),
    hr.required 1 rfl (TransformOverride.restores_toJson h), hr.withDefault 2 rfl heasing]

/-! ### Transitions -/

lemma Direction.restores_toJson (d : Direction) : Restores ofJson? d.toJson d :=
  Restores.text (by cases d <;> rfl)

namespace TransitionKind

lemma restores_direction (o : Json.Origin) (d : Direction) :
    Restores (direction? o) (.obj [("direction", d.toJson)]) d := by
  refine Restores.record rfl (by decide) fun r hr => ?_
  simp [hr.named, hr.required 0 rfl d.restores_toJson]

lemma restores_toJson (o : Json.Origin) (k : TransitionKind) : Restores (ofJson? o) k.toJson k := by
  cases k with
  | fade => exact Restores.text rfl
  | dissolve => exact Restores.text rfl
  | dipToBlack => exact Restores.text rfl
  | wipe d =>
    intro w hw
    obtain ⟨data, hdata, hw⟩ := Json.exists_of_readsAs_member hw
    rw [hw]
    exact congrArg (Option.map wipe) (restores_direction o d data hdata)
  | push d =>
    intro w hw
    obtain ⟨data, hdata, hw⟩ := Json.exists_of_readsAs_member hw
    rw [hw]
    exact congrArg (Option.map push) (restores_direction o d data hdata)

end TransitionKind

lemma Transition.restores_toJson (o : Json.Origin) (t : Transition) :
    Restores (ofJson? o) t.toJson t := by
  refine Restores.record rfl (by decide) fun r hr => ?_
  simp [hr.required 0 rfl (t.kind.restores_toJson o), hr.required 1 rfl (restores_frame t.duration)]

/-! ### Clips, tracks and assets -/

/-- Places in a stack are 32-bit words. -/
def isPlace (n : Int) : Bool := -2147483648 ≤ n && n ≤ 2147483647

def Clip.isStorable (c : Clip) : Bool :=
  c.transform.isFinite && c.keyframes.all Keyframe.isFinite && c.layer.all isPlace

def Track.isStorable (t : Track) : Bool := isPlace t.order && t.height.isFinite

def MediaAsset.isStorable (a : MediaAsset) : Bool := a.duration.all Float.isFinite

lemma restores_place {n : Int} (h : isPlace n = true) : Restores Json.int32? (.int n) n := by
  rw [isPlace, Bool.and_eq_true, decide_eq_true_iff, decide_eq_true_iff] at h
  exact Json.restores_intIn h

lemma Track.restores_toJson {t : Track} (h : t.isStorable = true) :
    Restores ofJson? t.toJson t := by
  rw [isStorable, Bool.and_eq_true] at h
  refine Restores.record rfl (by decide) fun r hr => ?_
  simp [hr.required 0 rfl t.id.restores_toJson,
    hr.required 1 rfl (restores_string t.name),
    hr.required 2 rfl (restores_place h.1), hr.withDefault 3 rfl (restores_bool t.muted),
    hr.withDefault 4 rfl (restores_bool t.hidden), hr.withDefault 5 rfl (restores_bool t.locked),
    hr.withDefault 6 rfl (restores_single h.2)]

lemma MediaAsset.restores_toJson {a : MediaAsset} (h : a.isStorable = true) :
    Restores ofJson? a.toJson a := by
  refine Restores.record rfl (by decide) fun r hr => ?_
  have hduration : Restores (Json.orNull? Json.double?) (Json.ofOption .double a.duration)
      a.duration := by
    refine restores_ofOption rfl fun _ hx => restores_double ?_
    rw [isStorable, hx] at h
    exact h
  simp [hr.required 0 rfl a.id.restores_toJson, hr.required 1 rfl a.kind.restores_toJson,
    hr.required 2 rfl (restores_string a.url),
    hr.withDefault 3 rfl hduration,
    hr.withDefault 4 rfl (restores_ofOption rfl fun n _ => restores_word n),
    hr.withDefault 5 rfl (restores_ofOption rfl fun n _ => restores_word n),
    hr.withDefault 6 rfl (restores_bool a.hasAudio)]

lemma Clip.restores_toJson (o : Json.Origin) {c : Clip} (h : c.isStorable = true) :
    Restores (ofJson? o) c.toJson c := by
  simp only [isStorable, Bool.and_eq_true, List.all_eq_true] at h
  obtain ⟨⟨htransform, hkeyframes⟩, hlayer⟩ := h
  have hplace : Restores (Json.orNull? Json.int32?) (Json.ofOption .int c.layer) c.layer :=
    restores_ofOption rfl fun _ hn => restores_place (by rw [hn] at hlayer; exact hlayer)
  have htransition : ∀ ot : Option Transition, Restores (Json.orNull? (Transition.ofJson? o))
      (Json.ofOption Transition.toJson ot) ot := fun ot =>
    restores_ofOption rfl fun t _ => t.restores_toJson o
  refine Restores.record rfl (by decide) fun r hr => ?_
  simp [hr.required 0 rfl c.id.restores_toJson, hr.required 1 rfl c.track.restores_toJson,
    hr.required 2 rfl c.asset.restores_toJson, hr.required 3 rfl (restores_frame c.start),
    hr.required 4 rfl (restores_frame c.duration), hr.required 5 rfl (restores_frame c.inPoint),
    hr.required 6 rfl (restores_frame c.outPoint),
    hr.withDefault 7 rfl (Transform.restores_toJson htransform),
    hr.withDefault 8 rfl (restores_list fun k hk => Keyframe.restores_toJson (hkeyframes k hk)),
    hr.withDefault 9 rfl (htransition c.transitionIn),
    hr.withDefault 10 rfl (htransition c.transitionOut), hr.withDefault 11 rfl hplace]

/-! ### Documents -/

def Document.isStorable (d : Document) : Bool :=
  d.tracks.all Track.isStorable && d.clips.all Clip.isStorable &&
    d.assets.all MediaAsset.isStorable

lemma Document.restores_toJson (o : Json.Origin) {d : Document} (h : d.isStorable = true) :
    Restores (ofJson? o) d.toJson d := by
  simp only [isStorable, Bool.and_eq_true, List.all_eq_true] at h
  obtain ⟨⟨htracks, hclips⟩, hassets⟩ := h
  refine Restores.record rfl (by decide) fun r hr => ?_
  simp [hr.withDefault 0 rfl d.rate.restores_toJson,
    hr.required 1 rfl (restores_list fun t ht => Track.restores_toJson (htracks t ht)),
    hr.required 2 rfl (restores_list fun c hc => Clip.restores_toJson o (hclips c hc)),
    hr.withDefault 3 rfl (restores_list fun a ha => MediaAsset.restores_toJson (hassets a ha)),
    hr.withDefault 4 rfl (restores_ofOption rfl fun n _ => restores_frame n)]

/-! ### Files -/

namespace TimelineFile

lemma restores_toJson (o : Json.Origin) {f : TimelineFile} (h : f.document.isStorable = true) :
    Restores (ofJson? o) f.toJson f := by
  refine Restores.record rfl (by decide) fun r hr => ?_
  simp [hr.required 0 rfl (restores_word f.version),
    hr.required 1 rfl (Document.restores_toJson o h)]

lemma fillTrim_of_readsAs {c : Clip} {w : Json} (h : c.toJson.ReadsAs w) :
    fillTrim w.lastWins = w.lastWins := by
  obtain ⟨r, hw, hkeys, -, -⟩ := Json.Record.exists_of_readsAs ["id", "track_id",
    "asset_id", "start_frame", "duration", "in_point", "out_point", "transform", "keyframes",
    "transition_in", "transition_out", "layer"] rfl (by decide) h
  have hsome : ((Json.obj r.fields).member? "out_point").isSome = true := by
    have hmem : "out_point" ∈ r.fields.map (·.1) := by simp [hkeys]
    obtain ⟨m, hm, hkey⟩ := List.mem_map.mp hmem
    rw [Json.member?, Option.isSome_map, List.find?_isSome]
    exact ⟨m, List.mem_reverse.mpr hm, beq_iff_eq.mpr hkey⟩
  rw [hw, fillTrim]
  exact if_pos hsome

lemma map_fillTrim_of_readsAs {clips : List Clip} {items : List Json}
    (h : List.Forall₂ Json.ReadsAs (clips.map Clip.toJson) items) :
    (items.map Json.lastWins).map fillTrim = items.map Json.lastWins := by
  rw [List.forall₂_map_left_iff] at h
  induction h with
  | nil => rfl
  | cons hc _ ih =>
    simp only [List.map_cons, fillTrim_of_readsAs hc, ih]

lemma upgrade_whole {rate : List (String × Json)} {tracks assets duration : Json}
    {clips : List Json} (h : clips.map fillTrim = clips) :
    let v := Json.obj [("fps", .obj rate), ("tracks", tracks), ("clips", .arr clips),
      ("assets", assets), ("duration", duration)]
    upgrade v = .ok (.obj [("version", .int 1), ("timeline", v)]) := by
  simp [upgrade, fillRate, fillClips, Json.member?, Json.put, Json.double?, h]

lemma upgrade_of_readsAs {d : Document} {w : Json} (h : d.toJson.ReadsAs w) :
    versionOf w.lastWins = 0 ∧
      upgrade w.lastWins = .ok (.obj [("version", .int 1), ("timeline", w.lastWins)]) := by
  obtain ⟨⟨fields, _⟩, hw, hkeys, -, hr⟩ := Json.Record.exists_of_readsAs
    ["fps", "tracks", "clips", "assets", "duration"] rfl (by decide) h
  obtain ⟨rate, hrate, hrate'⟩ := hr.member _ _ (List.mem_of_getElem? (i := 0) rfl)
  obtain ⟨clips, hclips, hclips'⟩ := hr.member _ _ (List.mem_of_getElem? (i := 2) rfl)
  obtain ⟨rateFields, hfields, -⟩ := Json.Record.exists_of_readsAs
    ["numerator", "denominator"] rfl (by decide) hrate'
  simp only [List.map_eq_cons_iff, List.map_eq_nil_iff] at hkeys
  obtain ⟨⟨_, a⟩, _, rfl, rfl, ⟨_, b⟩, _, rfl, rfl, ⟨_, c⟩, _, rfl, rfl, ⟨_, e⟩, _, rfl, rfl,
    ⟨_, f⟩, _, rfl, rfl, rfl⟩ := hkeys
  cases hclips' with
  | @arr _ items each =>
    obtain rfl : a = .obj rateFields.fields := (Option.some.inj hrate).trans hfields
    obtain rfl : c = .arr (items.map Json.lastWins) :=
      (Option.some.inj hclips).trans (Json.lastWins_arr items)
    rw [hw]
    exact ⟨rfl, upgrade_whole (map_fillTrim_of_readsAs each)⟩

lemma versionOf_of_readsAs {d : Document} {w : Json} (h : (ofDocument d).toJson.ReadsAs w) :
    versionOf w.lastWins = 1 := by
  obtain ⟨⟨fields, _⟩, hw, hkeys, -, hr⟩ := Json.Record.exists_of_readsAs
    ["version", "timeline"] rfl (by decide) h
  obtain ⟨version, hversion, hversion'⟩ := hr.member _ _ (List.mem_of_getElem? (i := 0) rfl)
  simp only [List.map_eq_cons_iff, List.map_eq_nil_iff] at hkeys
  obtain ⟨⟨_, a⟩, _, rfl, rfl, ⟨_, b⟩, _, rfl, rfl, rfl⟩ := hkeys
  cases hversion'
  obtain rfl : a = .int 1 := Option.some.inj hversion
  rw [hw]
  rfl

lemma ofValue_eq {f : TimelineFile} {v up : Json} (hver : ¬currentVersion < versionOf v)
    (hup : (if versionOf v = 0 then upgrade v else pure v) = .ok up)
    (hread : ofJson? .tree up = some f) (hrate : f.document.rate.isValid = true) :
    ofValue v = .ok f := by
  have hchecked : (do f.document.validate; pure f : Except Error TimelineFile) = .ok f := by
    simp [Document.validate, hrate]
  rw [ofValue, if_neg hver]
  split_ifs at hup ⊢ with hold
  · rw [hup]
    simpa [hread, bind, Except.bind] using hchecked
  · obtain rfl : v = up := Except.ok.inj hup
    simpa [hread] using hchecked

end TimelineFile

lemma Document.parse_of_isTextOf {d : Document} (hrate : d.rate.isValid = true)
    (hd : d.isStorable = true) {text : String}
    (htext : Json.IsTextOf text (TimelineFile.ofDocument d).toJson) :
    TimelineFile.parse text = .ok ⟨1, d⟩ := by
  obtain ⟨w, hparse, hw⟩ := htext
  rw [TimelineFile.parse, hparse]
  have hver := TimelineFile.versionOf_of_readsAs hw
  exact TimelineFile.ofValue_eq (by rw [hver]; decide) (by rw [hver]; rfl)
    (TimelineFile.restores_toJson .tree hd w hw) hrate

/-- The bytes of the file of a document. -/
def Document.bytes (d : Document) : ByteArray := (TimelineFile.ofDocument d).text.toUTF8

lemma Document.parseBytes_bytes {d : Document} (hrate : d.rate.isValid = true)
    (hd : d.isStorable = true) (hback : (TimelineFile.ofDocument d).toJson.isReadBack = true) :
    TimelineFile.parseBytes d.bytes = .ok ⟨1, d⟩ := by
  have hbytes : String.fromUTF8? d.bytes = some (TimelineFile.ofDocument d).text :=
    dif_pos (TimelineFile.ofDocument d).text.isValidUTF8
  rw [TimelineFile.parseBytes, hbytes]
  exact parse_of_isTextOf hrate hd (Json.isTextOf_pretty hback)

/-- A document of finite floats, and of a rate that is of use for timing, is what its file is read
as, and what its own text is read as. -/
theorem Document.parse_file {d : Document} (hrate : d.rate.isValid = true)
    (hd : d.isStorable = true) :
    (Json.IsTextOf (TimelineFile.ofDocument d).text (TimelineFile.ofDocument d).toJson →
      TimelineFile.parse (TimelineFile.ofDocument d).text = .ok ⟨1, d⟩) ∧
    ∀ text, Json.IsTextOf text d.toJson → TimelineFile.parse text = .ok ⟨1, d⟩ := by
  constructor
  · exact parse_of_isTextOf hrate hd
  · rintro text ⟨w, hparse, hw⟩
    obtain ⟨hver, hup⟩ := TimelineFile.upgrade_of_readsAs hw
    have hread : TimelineFile.ofJson? .tree
        (.obj [("version", .int 1), ("timeline", w.lastWins)]) = some ⟨1, d⟩ := by
      have hone : Json.word32? (.int 1) = some 1 := rfl
      simp [TimelineFile.ofJson?, Json.Record.ofJson?, Json.Record.ofMembers?,
        Json.Record.required, Json.Record.find?, hone, Document.restores_toJson .tree hd w hw]
    rw [TimelineFile.parse, hparse]
    exact TimelineFile.ofValue_eq (by rw [hver]; decide) (by rw [hver, ← hup]; rfl) hread hrate

/-- A keyed clip that is wiped in, one place below its track. -/
def Document.oneClip : Document where
  tracks := [{ id := ⟨⟨1⟩⟩, name := "v", order := 0 }]
  clips := [{ Clip.place ⟨⟨7⟩⟩ ⟨⟨1⟩⟩ ⟨"a"⟩ 0 30 with
    keyframes := [⟨3, { opacity := some 0.25 }, .easeIn⟩]
    transitionIn := some ⟨.wipe .left, 5⟩
    layer := some (-1) }]
  assets := [.video ⟨"a"⟩ "a.mp4" 2.5]

theorem Document.parse_file_oneClip :
    TimelineFile.parse (TimelineFile.ofDocument .oneClip).text = .ok ⟨1, .oneClip⟩ ∧
      TimelineFile.parse (Document.oneClip.toJson.pretty 0) = .ok ⟨1, .oneClip⟩ :=
  have h := Document.parse_file (d := .oneClip) (by decide) (by decide)
  ⟨h.1 (Json.isTextOf_pretty (by decide +kernel)), h.2 _ (Json.isTextOf_pretty (by decide +kernel))⟩

end Montage
