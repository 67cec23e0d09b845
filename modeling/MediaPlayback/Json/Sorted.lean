import MediaPlayback.Json.Basic

/-! Values whose objects are taken for dictionaries: each name occurs once, and the order of the names
is the one of texts. -/

namespace MediaPlayback.Json

/-- Sets a field of a dictionary. -/
def setEntry (name : String) (value : Json) : List (String × Json) → List (String × Json)
  | [] => [(name, value)]
  | (n, v) :: rest =>
    if n < name then (n, v) :: setEntry name value rest
    else if n = name then (name, value) :: rest
    else (name, value) :: (n, v) :: rest

mutual

/-- The value with dictionaries for objects. Of several fields of a name the last one counts. -/
def sorted : Json → Json
  | .array items => .array (sortedItems items)
  | .object fields => .object (sortedFields [] fields)
  | j => j

def sortedItems : List Json → List Json
  | [] => []
  | item :: items => item.sorted :: sortedItems items

/-- The dictionary with further fields. -/
def sortedFields : List (String × Json) → List (String × Json) → List (String × Json)
  | dictionary, [] => dictionary
  | dictionary, (name, value) :: fields =>
    sortedFields (setEntry name value.sorted dictionary) fields

end

end MediaPlayback.Json
