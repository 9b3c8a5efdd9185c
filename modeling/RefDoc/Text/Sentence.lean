import RefDoc.Text.Blank

/-!
# The first sentence

A sentence ends at a dot that a blank or the end of the text follows. It is shown with single spaces
between its words.
-/

namespace RefDoc.Text

/-- The text through its first closing dot, or all of it. -/
def throughStop : List Char → List Char
  | [] => []
  | c :: rest =>
    if c = '.' && rest.head?.all isBlank then [c] else c :: throughStop rest

def firstSentence (cs : List Char) : List Char := joinWords (words (throughStop (trim cs)))

end RefDoc.Text
