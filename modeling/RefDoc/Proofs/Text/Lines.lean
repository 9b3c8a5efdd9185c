import RefDoc.Proofs.Text.Split
import RefDoc.Proofs.Text.Words

/-!
# Lines of a text

A line that is written with a newline behind it is read as it was, unless it ends with a carriage
return (`lines_cons`); so texts that end with a newline are read line by line (`lines_append`).
-/

namespace RefDoc.Text

variable {cs before after line : List Char} {ls : List (List Char)}

/-- What a newline ends as a line of its own. -/
structure IsLine (line : List Char) : Prop where
  whole : '\n' ∉ line
  bare : line.getLast? ≠ some '\r'

/-- The line has no blank at its end. -/
structure IsEnded (line : List Char) : Prop where
  whole : '\n' ∉ line
  ended : trimEnd line = line

theorem IsEnded.isLine (ended : IsEnded line) : IsLine line where
  whole := ended.whole
  bare back := absurd (trimEnd_eq_self_iff.mp ended.ended _ back) (by decide)

/-- The text is empty or ends with a newline. -/
def EndsLine (cs : List Char) : Prop := cs = [] ∨ ∃ front, cs = front ++ ['\n']

theorem EndsLine.drop (ends : EndsLine cs) (n : Nat) : EndsLine (cs.drop n) := by
  rcases ends with rfl | ⟨front, rfl⟩
  · exact .inl List.drop_nil
  · rcases Nat.lt_or_ge front.length n with behind | inside
    · refine .inl (List.drop_of_length_le ?_)
      rw [List.length_append]
      exact behind
    · exact .inr ⟨_, List.drop_append_of_le_length inside⟩

/-! ### Reading lines -/

theorem linesFrom_newline (read rest : List Char) :
    linesFrom read ('\n' :: rest) = endLine read :: lines rest := rfl

theorem linesFrom_cons {c : Char} (other : c ≠ '\n') (read rest : List Char) :
    linesFrom read (c :: rest) = linesFrom (c :: read) rest := by
  rw [linesFrom]
  exact other

theorem linesFrom_append_newline (read before after : List Char) :
    linesFrom read (before ++ '\n' :: after) =
      linesFrom read (before ++ ['\n']) ++ lines after := by
  induction before generalizing read with
  | nil => rfl
  | cons c before ih =>
    by_cases newline : c = '\n'
    · subst newline
      simp only [List.cons_append, linesFrom_newline, lines, ih]
    · simp only [List.cons_append, linesFrom_cons newline, ih]

theorem lines_append (ends : EndsLine before) (after : List Char) :
    lines (before ++ after) = lines before ++ lines after := by
  rcases ends with rfl | ⟨front, rfl⟩
  · rfl
  · rw [List.append_assoc, List.singleton_append]
    exact linesFrom_append_newline [] front after

theorem linesFrom_append (whole : '\n' ∉ line) (read rest : List Char) :
    linesFrom read (line ++ rest) = linesFrom (line.reverse ++ read) rest := by
  induction line generalizing read with
  | nil => rfl
  | cons c line ih =>
    obtain ⟨other, whole⟩ := not_or.mp (mt List.mem_cons.mpr whole)
    rw [List.cons_append, linesFrom_cons (Ne.symm other), ih whole, List.reverse_cons,
      List.append_assoc, List.singleton_append]

theorem endLine_reverse (bare : line.getLast? ≠ some '\r') : endLine line.reverse = line := by
  rw [endLine]
  · exact List.reverse_reverse line
  · rintro before back
    rw [← List.reverse_reverse line, back] at bare
    simp at bare

theorem lines_cons (written : IsLine line) (rest : List Char) :
    lines (line ++ '\n' :: rest) = line :: lines rest := by
  rw [lines, linesFrom_append written.whole, linesFrom_newline, List.append_nil,
    endLine_reverse written.bare]

theorem lines_last (whole : '\n' ∉ line) (written : line ≠ []) : lines line = [line] := by
  have read := linesFrom_append whole [] []
  rw [List.append_nil, List.append_nil] at read
  rw [lines, read, linesFrom, if_neg (by simpa using written), List.reverse_reverse]

theorem lines_written (written : ∀ l ∈ ls, IsLine l) (rest : List Char) :
    lines (ls.flatMap (· ++ ['\n']) ++ rest) = ls ++ lines rest := by
  induction ls with
  | nil => rfl
  | cons l ls ih =>
    obtain ⟨first, written⟩ := List.forall_mem_cons.mp written
    rw [List.flatMap_cons, List.append_assoc, List.append_assoc, List.singleton_append,
      lines_cons first, ih written, List.cons_append]

/-! ### Joining lines -/

theorem joinLines_singleton (line : List Char) : joinLines [line] = line :=
  intercalate_singleton '\n' line

theorem joinLines_cons (line next : List Char) (ls : List (List Char)) :
    joinLines (line :: next :: ls) = line ++ '\n' :: joinLines (next :: ls) :=
  intercalate_cons '\n' line next ls

theorem joinLines_concat (written : ls ≠ []) (line : List Char) :
    joinLines (ls ++ [line]) = joinLines ls ++ '\n' :: line :=
  intercalate_concat '\n' written line

theorem lines_joinLines (written : ∀ l ∈ ls, IsLine l) (last : ∀ l ∈ ls.getLast?, l ≠ []) :
    lines (joinLines ls) = ls := by
  induction ls with
  | nil => rfl
  | cons l ls ih =>
    obtain ⟨first, written⟩ := List.forall_mem_cons.mp written
    rcases ls with _ | ⟨next, ls⟩
    · rw [joinLines_singleton]
      exact lines_last first.whole (last l rfl)
    · rw [joinLines_cons, lines_cons first, ih written fun l back => last l (by simpa using back)]

theorem joinLines_splitAll (cs : List Char) : joinLines (splitAll (· == '\n') cs) = cs := by
  induction cs with
  | nil => rfl
  | cons c cs ih =>
    obtain ⟨piece, pieces, split⟩ := List.exists_cons_of_ne_nil (splitAll_ne_nil (· == '\n') cs)
    rw [splitAll, split]
    rw [split] at ih
    split
    · rename_i newline
      rw [joinLines_cons, ih, eq_of_beq newline, List.nil_append]
    · rw [← ih]
      rcases pieces with _ | ⟨next, pieces⟩
      · rw [joinLines_singleton, joinLines_singleton]
      · rw [joinLines_cons, joinLines_cons, List.cons_append]

theorem newline_not_mem_splitAll (cs : List Char) :
    ∀ line ∈ splitAll (· == '\n') cs, '\n' ∉ line := by
  induction cs with
  | nil => simp [splitAll]
  | cons c cs ih =>
    obtain ⟨piece, pieces, split⟩ := List.exists_cons_of_ne_nil (splitAll_ne_nil (· == '\n') cs)
    rw [splitAll, split]
    rw [split] at ih
    obtain ⟨first, others⟩ := List.forall_mem_cons.mp ih
    split
    · exact List.forall_mem_cons.mpr ⟨List.not_mem_nil, ih⟩
    · rename_i other
      refine List.forall_mem_cons.mpr ⟨fun member => ?_, others⟩
      rcases List.mem_cons.mp member with rfl | member
      · exact other rfl
      · exact first member

/-- Lines at the end with nothing in them are no more than blanks. -/
theorem trimEnd_joinLines (ended : ∀ l ∈ ls, trimEnd l = l) :
    trimEnd (joinLines ls) = joinLines (ls.rdropWhile List.isEmpty) := by
  induction ls using List.reverseRecOn with
  | nil => rfl
  | append_singleton ls line ih =>
    obtain ⟨ended, last⟩ := List.forall_mem_append.mp ended
    have ih := ih ended
    have last : trimEnd line = line := last line (by simp)
    by_cases empty : line = []
    · subst empty
      rw [List.rdropWhile_concat_pos _ _ _ rfl]
      by_cases first : ls = []
      · subst first
        rfl
      · rw [joinLines_concat first, trimEnd_concat, if_pos (by decide), ih]
    · rw [List.rdropWhile_concat_neg _ _ _ (by simpa using empty)]
      by_cases first : ls = []
      · subst first
        rwa [List.nil_append, joinLines_singleton]
      · rw [joinLines_concat first, ← List.singleton_append, ← List.append_assoc]
        exact trimEnd_append last empty _

end RefDoc.Text
