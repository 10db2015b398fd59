import Montage.Timeline.Id

/-!
What can go wrong with the media of a clip.
-/

namespace Montage

inductive MediaError where
  | loadFailed (url reason : String)
  | missingSource (asset : AssetId)
  /-- The slot was taken away while the request waited. -/
  | abandoned (asset : AssetId)
  | poolExhausted (asset : AssetId)
  | disposed
  | playbackRejected (reason : String)
  | unknownAsset (asset : AssetId)
  deriving DecidableEq

namespace MediaError

def message : MediaError → String
  | loadFailed url reason => s!"Failed to load {url}: {reason}"
  | missingSource asset => s!"Asset {asset.name} has no source URL"
  | abandoned asset => s!"Operation on asset {asset.name} was abandoned by a pool reset"
  | poolExhausted asset => s!"No free pool slot for asset {asset.name}"
  | disposed => "Media pool has been disposed"
  | playbackRejected reason => s!"Playback rejected: {reason}"
  | unknownAsset asset => s!"Unknown asset: {asset.name}"

end MediaError

end Montage
