import PriorityAgents.Json.Basic

/-!
Records in JSON: a record is written as an object with a member for each field, or as an array of
the fields in order. Members that belong to no field are passed over, and fields that are not
written are left to whoever reads the record.
-/

set_option autoImplicit false

namespace PriorityAgents.Json

/-- The written fields of a record, in the order of their names. An object gives no field twice
and has no undecodable name; an array has no more items than there are fields. -/
def fields? (names : List String) : Json → Option (List (Option Json))
  | .object members =>
      if members.any (·.1.isNone) then none
      else if names.any (fun name => 1 < members.countP (·.1 = some name)) then none
      else some (names.map fun name => (members.find? (·.1 = some name)).map (·.2))
  | .array items =>
      if items.length ≤ names.length then
        some (items.map some ++ List.replicate (names.length - items.length) none)
      else none
  | _ => none

end PriorityAgents.Json
