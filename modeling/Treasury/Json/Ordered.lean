import Treasury.Json.Basic

namespace Treasury.Json

def ordered : Json → Json
  | .array items => .array (orderedItems items)
  | .object members => .object ((orderedMembers members).mergeSort fun a b => decide (a.1 ≤ b.1))
  | j => j
where
  orderedItems : List Json → List Json
    | [] => []
    | item :: rest => ordered item :: orderedItems rest
  orderedMembers : List (String × Json) → List (String × Json)
    | [] => []
    | (key, value) :: rest => (key, ordered value) :: orderedMembers rest

end Treasury.Json
