/-!
# Pieces of a text

`pieces` cuts a text at every occurrence of a character.
-/

namespace SessionSync.Text

/-- The pieces of a text between the occurrences of a character. There is always one at least. -/
def pieces (sep : Char) : List Char → List (List Char)
  | [] => [[]]
  | c :: rest =>
    if c = sep then [] :: pieces sep rest
    else match pieces sep rest with
      | [] => [[c]]
      | piece :: more => (c :: piece) :: more

end SessionSync.Text
