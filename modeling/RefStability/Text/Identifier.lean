import RefStability.Text.Alphabetic

/-!
Identifiers: a letter or an underscore, then letters, numbers and underscores.
-/

namespace RefStability.Text

def isIdentifierStart (c : Char) : Bool := isAlphabetic c || c == '_'

def isIdentifierRest (c : Char) : Bool := isAlphanumeric c || c == '_'

def isIdentifierChars : List Char → Bool
  | [] => false
  | first :: rest => isIdentifierStart first && rest.all isIdentifierRest

def isIdentifier (text : String) : Bool := isIdentifierChars text.toList

end RefStability.Text
