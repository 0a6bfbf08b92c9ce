import PriorityAgents.Json.Fields

/-!
Types with a form in JSON.

Numbers of a fixed width are read only from plain numerals that fit the width, so what is read is
what was written.
-/

set_option autoImplicit false

namespace PriorityAgents

class JsonEncode (α : Type) where
  encode : α → Json

class JsonDecode (α : Type) where
  decode? : Json → Option α

export JsonEncode (encode)
export JsonDecode (decode?)

variable {α : Type}

instance : JsonEncode Json := ⟨id⟩

instance : JsonEncode Bool := ⟨.bool⟩

instance : JsonEncode String := ⟨.ofString⟩

instance : JsonEncode Nat := ⟨.ofNat⟩

instance : JsonEncode Int := ⟨.ofInt⟩

instance : JsonEncode UInt32 := ⟨fun word => .ofNat word.toNat⟩

instance : JsonEncode UInt64 := ⟨fun word => .ofNat word.toNat⟩

instance [JsonEncode α] : JsonEncode (Option α) := ⟨fun value => .ofOption (value.map encode)⟩

instance [JsonEncode α] : JsonEncode (List α) := ⟨fun values => .array (values.map encode)⟩

instance : JsonDecode Json := ⟨some⟩

instance : JsonDecode Bool := ⟨Json.truth?⟩

instance : JsonDecode String := ⟨Json.string?⟩

instance : JsonDecode UInt32 := ⟨fun json => (json.naturalBelow? (2 ^ 32)).map UInt32.ofNat⟩

instance : JsonDecode UInt64 := ⟨fun json => (json.naturalBelow? (2 ^ 64)).map UInt64.ofNat⟩

instance [JsonDecode α] : JsonDecode (List α) := ⟨fun json => json.items?.bind (·.mapM decode?)⟩

/-- A record field that may be missing: its default if it is not written, and nothing if it is
written wrongly. -/
def Json.optionalField [JsonDecode α] (standard : α) : Option Json → Option α
  | none => some standard
  | some json => decode? json

/-- A record field that may not be missing. -/
def Json.requiredField [JsonDecode α] (field : Option Json) : Option α := field.bind decode?

end PriorityAgents
