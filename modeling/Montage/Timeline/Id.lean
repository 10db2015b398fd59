import Montage.Hex
import Montage.Json.Record

/-!
Names of clips, tracks and assets. Clips and tracks are named by 128-bit universally unique
identifiers, assets by any text.
-/

namespace Montage

structure Uuid where
  value : BitVec 128
  deriving DecidableEq

namespace Uuid

/-- Digits in groups of 8, 4, 4, 4 and 12. -/
def text (u : Uuid) : String :=
  let ds := Hex.digits 32 u.value.toNat
  let group (first count : Nat) := String.ofList ((ds.drop first).take count)
  group 0 8 ++ "-" ++ group 8 4 ++ "-" ++ group 12 4 ++ "-" ++ group 16 4 ++ "-" ++ group 20 12

/-- 32 digits without any hyphen. -/
def ofDigits? (cs : List Char) : Option Uuid :=
  if cs.length = 32 then (Hex.number? cs).map fun n => ⟨BitVec.ofNat 128 n⟩ else none

/-- Digits in groups, with hyphens between them. -/
def ofGroups? (cs : List Char) : Option Uuid :=
  if cs.length = 36 ∧ [8, 13, 18, 23].all (fun i => cs[i]? == some '-') then
    ofDigits? (cs.take 8 ++ (cs.drop 9).take 4 ++ (cs.drop 14).take 4 ++ (cs.drop 19).take 4
      ++ cs.drop 24)
  else none

/-- Four forms: digits alone, digits in groups, and these in braces or after `urn:uuid:`. -/
def ofText? (s : String) : Option Uuid :=
  let cs := s.toList
  if cs.length = 32 then ofDigits? cs
  else if cs.length = 36 then ofGroups? cs
  else if cs.length = 38 ∧ cs.head? = some '\x7b' ∧ cs.getLast? = some '\x7d' then
    ofGroups? ((cs.drop 1).take 36)
  else if cs.take 9 = "urn:uuid:".toList then ofGroups? (cs.drop 9)
  else none

end Uuid

structure ClipId where
  uuid : Uuid
  deriving DecidableEq

structure TrackId where
  uuid : Uuid
  deriving DecidableEq

structure AssetId where
  name : String
  deriving DecidableEq

namespace ClipId

/-- Ids are in the order of their numbers. -/
def rank (id : ClipId) : Nat := id.uuid.value.toNat

def text (id : ClipId) : String := id.uuid.text

def ofText? (s : String) : Option ClipId := (Uuid.ofText? s).map ClipId.mk

def toJson (id : ClipId) : Json := .str id.text

def ofJson? (v : Json) : Option ClipId := v.string?.bind ofText?

instance : Json.Codec ClipId := ⟨toJson, ofJson?⟩

theorem rank_injective {a b : ClipId} (h : a.rank = b.rank) : a = b := by
  obtain ⟨⟨a⟩⟩ := a
  obtain ⟨⟨b⟩⟩ := b
  simpa [rank, ← BitVec.toNat_inj] using h

end ClipId

namespace TrackId

def text (id : TrackId) : String := id.uuid.text

def toJson (id : TrackId) : Json := .str id.text

def ofJson? (v : Json) : Option TrackId := (v.string?.bind Uuid.ofText?).map TrackId.mk

instance : Json.Codec TrackId := ⟨toJson, ofJson?⟩

end TrackId

namespace AssetId

def toJson (id : AssetId) : Json := .str id.name

def ofJson? (v : Json) : Option AssetId := v.string?.map AssetId.mk

instance : Json.Codec AssetId := ⟨toJson, ofJson?⟩

end AssetId

end Montage
