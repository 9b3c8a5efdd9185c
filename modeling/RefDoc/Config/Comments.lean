/-!
# Comments in JSON

A configuration may carry comments: from `//` to the end of the line, and from `/*` to `*/`. They
are blanked out, character for character, so that whatever follows keeps its place. What looks like
a comment inside a string is part of the string.
-/

namespace RefDoc.Config

/-- Where in a text a character stands. -/
inductive Zone where
  | code
  | string
  /-- Behind a backslash in a string. -/
  | escape
  | line
  | block
  deriving DecidableEq, Repr

/-- Blanks out the comments of a text that begins in the given zone. -/
def blankFrom : Zone → List Char → List Char
  | _, [] => []
  | .code, '/' :: '/' :: rest => ' ' :: ' ' :: blankFrom .line rest
  | .code, '/' :: '*' :: rest => ' ' :: ' ' :: blankFrom .block rest
  | .code, c :: rest => c :: blankFrom (if c = '"' then .string else .code) rest
  | .string, c :: rest =>
    c :: blankFrom (if c = '\\' then .escape else if c = '"' then .code else .string) rest
  | .escape, c :: rest => c :: blankFrom .string rest
  | .line, c :: rest => if c = '\n' then c :: blankFrom .code rest else ' ' :: blankFrom .line rest
  | .block, '*' :: '/' :: rest => ' ' :: ' ' :: blankFrom .code rest
  | .block, c :: rest => (if c = '\n' then c else ' ') :: blankFrom .block rest

def blankComments (text : String) : String := String.ofList (blankFrom .code text.toList)

end RefDoc.Config
