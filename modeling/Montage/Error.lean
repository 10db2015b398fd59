import Montage.Media.Error
import Montage.Time.Rate

/-!
The reasons for which timelines, exports and previews are refused, and how they are told.
-/

namespace Montage

inductive Error where
  /-- What the file system reports. -/
  | file (reason : String)
  /-- A rate with a term of nought, where frames are to be timed. -/
  | rateTerms (rate : FrameRate)
  /-- A rate with a term of nought, where a timeline is to be exported. -/
  | unusableRate (rate : FrameRate)
  /-- A decimal rate that has no rational form. -/
  | rateOutOfRange (fps : Float)
  | invalidDuration (asset : AssetId) (seconds : Float)
  | missingAsset (asset : AssetId) (clip : ClipId)
  | unknownTrack (clip : ClipId) (track : TrackId)
  | emptyClip (clip : ClipId)
  | emptyTrim (clip : ClipId) (inPoint outPoint : Frame)
  | longerThanTrim (clip : ClipId) (duration held : Frame)
  | pastSource (clip : ClipId) (outPoint : Frame) (asset : AssetId) (available : Float)
  | notJson
  | notTimeline
  | notAnObject
  | newerVersion (version supported : UInt32)
  | media (e : MediaError)
  | fault (f : Fault)

/-- The family that an error is reported under. -/
inductive Error.Kind where
  | io
  | invalidParameter
  | notFound
  | timeline
  | media
  | serialization
  | internal
  deriving DecidableEq

namespace Error

def kind : Error → Kind
  | file _ => .io
  | rateTerms _ | unusableRate _ | rateOutOfRange _ | invalidDuration .. => .invalidParameter
  | missingAsset .. => .notFound
  | unknownTrack .. | emptyClip _ | emptyTrim .. | longerThanTrim .. | pastSource .. => .timeline
  | notJson | notTimeline | notAnObject | newerVersion .. => .serialization
  | media _ => .media
  | fault _ => .internal

def Kind.label : Kind → String
  | io => "I/O error: "
  | invalidParameter => "Invalid parameter: "
  | notFound => "Resource not found: "
  | timeline => "Timeline error: "
  | media => "Media error: "
  | serialization => "Serialization error: "
  | internal => "Internal error: "

/-- The reason without the family. -/
def reason : Error → String
  | file reason => reason
  | rateTerms r => s!"frame rate {r.numerator}/{r.denominator} must have non-zero terms"
  | unusableRate r => s!"invalid frame rate {r.text}"
  | rateOutOfRange fps => s!"frame rate {fps.plainText} is out of range"
  | invalidDuration asset seconds =>
    s!"asset {asset.name} has invalid duration {seconds.plainText}"
  | missingAsset asset clip => s!"asset {asset.name} used by clip {clip.text}"
  | unknownTrack clip track => s!"clip {clip.text} references unknown track {track.text}"
  | emptyClip clip => s!"clip {clip.text} has zero duration"
  | emptyTrim clip inPoint outPoint =>
    s!"clip {clip.text} trim window {inPoint}..{outPoint} is empty or inverted"
  | longerThanTrim clip duration held =>
    s!"clip {clip.text} plays {duration} frames but its trim window holds {held}"
  | pastSource clip outPoint asset available =>
    s!"clip {clip.text} trims to frame {outPoint} but asset {asset.name} is only "
      ++ s!"{available.plainText} frames long"
  | notJson => "Invalid JSON"
  | notTimeline => "Failed to parse timeline"
  | notAnObject => "v0 timeline must be a JSON object"
  | newerVersion version supported =>
    s!"Timeline file version {version} is newer than supported version {supported}"
  | media e => e.message
  | fault _ => "the computation has no result"

def message (e : Error) : String := e.kind.label ++ e.reason

end Error

/-- Goes on with the value of a computation; its fault is an error. -/
def Fault.lift {α : Type} : Except Fault α → Except Error α
  | .ok a => .ok a
  | .error f => .error (.fault f)

end Montage
