import RefDoc.Text.Blank

/-!
# Doc comments

`blocks` finds the doc comments of a source text: from the left, each opener `/**` that no slash
follows, up to the first `*/` behind it. What follows an opener without an end is not searched.
-/

namespace RefDoc.Comment

open Text

/-- A doc comment: its text without decoration, the line of its opener, and the first line of code
behind it. -/
structure Block where
  text : List Char
  line : Nat
  next : Option (List Char)
  deriving DecidableEq, Repr

/-- A line of a comment without the star in front of it and one space behind the star. -/
def cleanLine (line : List Char) : List Char :=
  let line := trimStart line
  let line := if line.head? == some '*' then line.drop 1 else line
  let line := if line.head? == some ' ' then line.drop 1 else line
  trimEnd line

def clean (raw : List Char) : List Char := trim (joinLines ((lines raw).map cleanLine))

/-- The first line that is not blank, trimmed. -/
def firstLine? (cs : List Char) : Option (List Char) :=
  ((lines cs).map trim).find? (!·.isEmpty)

/-- The doc comments of `rest`, which starts on line `line`. -/
def blocksFrom (line : Nat) (rest : List Char) : List Block :=
  match _opener : splitOnce? ['/', '*', '*'] rest with
  | none => []
  | some (before, body) =>
    let line := line + countNewlines before
    if body.head? == some '/' then blocksFrom line body
    else
      match _closer : splitOnce? ['*', '/'] body with
      | none => []
      | some (raw, after) =>
        ⟨clean raw, line, firstLine? after⟩ :: blocksFrom (line + countNewlines raw) after
termination_by rest.length
decreasing_by
  · have := length_of_splitOnce? _opener
    simp only [List.length_cons, List.length_nil] at this
    omega
  · have := length_of_splitOnce? _opener
    have := length_of_splitOnce? _closer
    simp only [List.length_cons, List.length_nil] at *
    omega

def blocks (source : List Char) : List Block := blocksFrom 1 source

end RefDoc.Comment
