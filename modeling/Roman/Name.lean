import Roman.Text.LetterCase
import Roman.Text.Pieces

/-!
# Names in normal form

Two texts are the same name if they have the same words, where a word keeps letters and numbers only
and is written in small letters. The normal form puts one space between the words.
-/

namespace Roman.Name

/-- Letters, numbers and white space, in small letters. -/
def fold (cs : List Char) : List Char :=
  (cs.filter fun c => isAlphanumeric c || isWhite c).flatMap lowercase

/-- The words of a text. -/
def tokens (text : String) : List (List Char) := words (fold text.toList)

/-- Words with one space between them. -/
def ofTokens (ws : List (List Char)) : String := String.ofList ([' '].intercalate ws)

def normalize (text : String) : String := ofTokens (tokens text)

/-- The parts of a text between single spaces. -/
def parts (text : String) : List (List Char) := pieces (· == ' ') text.toList

/-- Every part with a capital at its front. -/
def titleCase (name : String) : String :=
  let capitalize : List Char → List Char
    | [] => []
    | c :: rest => uppercase c ++ rest
  ofTokens ((parts name).map capitalize)

end Roman.Name
