import RefStability.Json.Basic

/-!
Records in JSON: an object with known fields, or an array of the fields in declaration order. A
tagged record also says which kind it is, in a field of its own or in the first place of the array.
-/

namespace RefStability.Document.Record

/-- The value given for a field, if any; `none` for a field given twice. -/
def field? (fields : List (String × Json)) (name : String) : Option (Option Json) :=
  match fields.filter fun field => field.1 == name with
  | [] => some none
  | [field] => some (some field.2)
  | _ => none

/-- The values given for the declared fields, in declaration order. -/
def values? (names : List String) : Json → Option (List (Option Json))
  | .object fields => names.mapM (field? fields)
  | .array items =>
    if items.length ≤ names.length then
      some (items.map some ++ List.replicate (names.length - items.length) none)
    else none
  | _ => none

/-- Splits a tagged record into its tag and the record without it. -/
def tagged? (tagName : String) : Json → Option (Json × Json)
  | .object fields =>
    match fields.filter fun field => field.1 == tagName with
    | [tag] => some (tag.2, .object (fields.filter fun field => field.1 != tagName))
    | _ => none
  | .array (tag :: items) => some (tag, .array items)
  | _ => none

def required {α : Type} (decode : Json → Option α) (value : Option Json) : Option α :=
  value >>= decode

def orElse {α : Type} (default : α) (decode : Json → Option α) : Option Json → Option α
  | none => some default
  | some value => decode value

def optional {α : Type} (decode : Json → Option α) : Option Json → Option (Option α) :=
  orElse none (Json.option? decode)

/-- A choice written as its name, or as an object with the name as its one key and nothing in it.
Inside a tagged record an empty object counts as nothing too. -/
def choice? {α : Type} (isNested : Bool) (names : List (String × α)) : Json → Option α
  | .string text => names.lookup text
  | .object [(key, .null)] => names.lookup key
  | .object [(key, .object [])] => if isNested then names.lookup key else none
  | _ => none

/-- The tag of a record: a name or, inside another tagged record, the number of the name. -/
def tag? {α : Type} (isNested : Bool) (names : List (String × α)) : Json → Option α
  | .string text => names.lookup text
  | .integer (.ofNat number) => if isNested then names[number]?.map (·.2) else none
  | _ => none

/-- The tag of a tagged record, and the values given for the fields that go with it. -/
def variant? {α : Type} (tagName : String) (isNested : Bool) (names : List (String × α))
    (fields : α → List String) (json : Json) : Option (α × List (Option Json)) := do
  let (tag, content) ← tagged? tagName json
  let tag ← tag? isNested names tag
  return (tag, ← values? (fields tag) content)

end RefStability.Document.Record
