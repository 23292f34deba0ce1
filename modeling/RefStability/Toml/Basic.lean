/-!
TOML values. Floats and dates are kept as written.
-/

namespace RefStability.Toml

inductive Value where
  | text (value : String)
  | integer (value : Int)
  | float (literal : String)
  | bool (value : Bool)
  | dateTime (literal : String)
  | array (items : List Value)
  | table (entries : List (String × Value))
deriving Repr, Inhabited

namespace Value

def bool? : Value → Option Bool
  | .bool value => some value
  | _ => none

def text? : Value → Option String
  | .text value => some value
  | _ => none

def nat? : Value → Option Nat
  | .integer (.ofNat value) => some value
  | _ => none

def list? {α : Type} (decode : Value → Option α) : Value → Option (List α)
  | .array items => items.mapM decode
  | _ => none

/-- A table whose values are all of one kind, in the order of its entries. -/
def entries? {α : Type} (decode : Value → Option α) : Value → Option (List (String × α))
  | .table entries => entries.mapM fun (key, value) => (decode value).map fun decoded => (key, decoded)
  | _ => none

/-- The values given for the declared fields: by name in a table, by place in an array. What a table
or an array holds beyond that is skipped. A date counts as a table with none of the fields. -/
def fields? (names : List String) : Value → Option (List (Option Value))
  | .table entries => some (names.map fun name => entries.lookup name)
  | .dateTime _ => some (names.map fun _ => none)
  | .array items =>
    some ((items.take names.length).map some ++ List.replicate (names.length - items.length) none)
  | _ => none

end Value

end RefStability.Toml
