import Montage.Json.Basic

/-!
Types with a form in JSON.
-/

namespace Montage.Json

class Codec (α : Type) where
  toJson : α → Json
  ofJson? : Json → Option α

end Montage.Json
