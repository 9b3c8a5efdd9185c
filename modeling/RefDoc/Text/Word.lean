import RefDoc.Text.Letter

/-!
# Word characters

Letters, marks, decimal digits, connector punctuation and the two joiners. Between a word character
and any other lies a word boundary.
-/

namespace RefDoc.Text

def isDigit (c : Char) : Bool := category c == .nd

def isWord (c : Char) : Bool :=
  isAlphabetic c || c == '\u200c' || c == '\u200d' ||
    match category c with
    | .mn | .mc | .me | .nd | .pc => true
    | _ => false

end RefDoc.Text
