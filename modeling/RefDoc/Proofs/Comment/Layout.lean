import RefDoc.Comment.Tags
import RefDoc.Proofs.Comment.Joined

/-!
# Comments written in lines

A comment written in the usual layout, a star in front of each line, has its lines back once it is
cleaned (`lines_clean_layout`), but for empty ones at its end, which no tag is read from
(`sections_layout`). In front of a text it is one comment more (`blocks_enclosed`).
-/

namespace RefDoc.Comment

open Text

variable {line : List Char} {ls : List (List Char)}

/-- What stands between `/**` and the end of the comment. -/
def layout (ls : List (List Char)) : List Char :=
  '\n' :: (ls.flatMap (" * ".toList ++ · ++ ['\n']) ++ [' '])

/-! ### Cleaning -/

theorem cleanLine_starred (ended : trimEnd line = line) : cleanLine (" * ".toList ++ line) = line :=
  ended

theorem isLine_starred (ended : IsEnded line) : IsLine (" * ".toList ++ line) := by
  refine ⟨fun newline => ?_, fun back => ?_⟩
  · rcases List.mem_append.mp newline with front | inside
    · exact absurd front (by decide)
    · exact ended.whole inside
  · by_cases empty : line = []
    · subst empty
      exact absurd back (by decide)
    · rw [List.getLast?_append_of_ne_nil _ empty] at back
      exact ended.isLine.bare back

theorem lines_layout (ended : ∀ l ∈ ls, IsEnded l) :
    lines (layout ls) = [] :: (ls.map (" * ".toList ++ ·) ++ [[' ']]) := by
  have starred : ∀ l ∈ ls.map (" * ".toList ++ ·), IsLine l := by
    intro _ member
    obtain ⟨l, inside, rfl⟩ := List.mem_map.mp member
    exact isLine_starred (ended l inside)
  have written := lines_written starred [' ']
  rw [List.flatMap_map] at written
  show lines ([] ++ '\n' :: _) = _
  rw [lines_cons ⟨List.not_mem_nil, nofun⟩, written]
  rfl

theorem map_cleanLine_layout (ended : ∀ l ∈ ls, IsEnded l) :
    (lines (layout ls)).map cleanLine = [] :: (ls ++ [[]]) := by
  have cleaned : ls.map (cleanLine ∘ (" * ".toList ++ ·)) = ls.map id :=
    List.map_congr_left fun l member => cleanLine_starred (ended l member).ended
  rw [lines_layout ended, List.map_cons, List.map_append, List.map_map, cleaned, List.map_id]
  rfl

/-- The first line begins with a character that is not blank. -/
def Begins (ls : List (List Char)) : Prop :=
  ∃ c line more, ls = (c :: line) :: more ∧ isBlank c = false

theorem Begins.trimStart (begins : Begins ls) : trimStart (joinLines ls) = joinLines ls := by
  obtain ⟨c, line, more, rfl, solid⟩ := begins
  cases more with
  | nil =>
    rw [joinLines_singleton]
    exact trimStart_cons solid line
  | cons next more =>
    rw [joinLines_cons]
    exact trimStart_cons solid _

theorem clean_layout (ended : ∀ l ∈ ls, IsEnded l) (begins : Begins ls) :
    clean (layout ls) = joinLines (ls.rdropWhile List.isEmpty) := by
  have begins' : Begins (ls ++ [[]]) := by
    obtain ⟨c, line, more, rfl, solid⟩ := begins
    exact ⟨c, line, more ++ [[]], rfl, solid⟩
  have front : joinLines ([] :: (ls ++ [[]])) = '\n' :: joinLines (ls ++ [[]]) := by
    obtain ⟨next, more, split⟩ := List.exists_cons_of_ne_nil (show ls ++ [[]] ≠ [] by simp)
    rw [split, joinLines_cons, List.nil_append]
  have blank : Text.trimStart ('\n' :: joinLines (ls ++ [[]])) = joinLines (ls ++ [[]]) :=
    begins'.trimStart
  rw [clean, map_cleanLine_layout ended, trim, front, blank, trimEnd_joinLines,
    List.rdropWhile_concat_pos _ _ _ rfl]
  exact List.forall_mem_append.mpr
    ⟨fun l member => (ended l member).ended, List.forall_mem_singleton.mpr rfl⟩

/-- The lines that were written, but for empty ones at the end. -/
theorem lines_clean_layout (ended : ∀ l ∈ ls, IsEnded l) (begins : Begins ls) :
    lines (clean (layout ls)) = ls.rdropWhile List.isEmpty := by
  rw [clean_layout ended begins]
  refine lines_joinLines (fun l member => ?_) fun l back => ?_
  · exact (ended l ((List.rdropWhile_prefix _ _).subset member)).isLine
  · have written : ls.rdropWhile List.isEmpty ≠ [] := by
      rintro none
      rw [none] at back
      cases back
    rw [List.getLast?_eq_some_getLast written] at back
    exact Option.some.inj back ▸ by simpa using List.rdropWhile_last_not _ _ written

/-! ### Reading -/

theorem addLine_empty {s : Sections} (tagged : (s.addLine []).tags ≠ []) : s.addLine [] = s := by
  obtain ⟨description, _ | ⟨tag, tags⟩⟩ := s
  · exact absurd rfl tagged
  · rfl

/-- Empty lines at the end say nothing where there is a tag. -/
theorem foldl_rdropWhile (s : Sections) (tagged : (ls.foldl Sections.addLine s).tags ≠ []) :
    (ls.rdropWhile List.isEmpty).foldl Sections.addLine s = ls.foldl Sections.addLine s := by
  induction ls using List.reverseRecOn with
  | nil => rfl
  | append_singleton ls line ih =>
    by_cases empty : line = []
    · subst empty
      rw [List.foldl_concat] at tagged ⊢
      have same := addLine_empty tagged
      rw [same] at tagged ⊢
      rw [List.rdropWhile_concat_pos _ _ _ rfl, ih tagged]
    · rw [List.rdropWhile_concat_neg _ _ _ (by simpa using empty)]

theorem sections_layout (ended : ∀ l ∈ ls, IsEnded l) (begins : Begins ls)
    (tagged : (ls.foldl Sections.addLine ⟨[], []⟩).tags ≠ []) :
    sections (clean (layout ls)) =
      ⟨(ls.foldl Sections.addLine ⟨[], []⟩).description.reverse,
        (ls.foldl Sections.addLine ⟨[], []⟩).tags.reverse⟩ := by
  rw [sections, lines_clean_layout ended begins, foldl_rdropWhile _ tagged]

/-! ### Finding -/

/-- The comment around what stands in it. -/
def enclosed (raw : List Char) : List Char := ['/', '*', '*'] ++ (raw ++ ['*', '/'])

/-- A comment without an end in it ends where it is written to. -/
theorem splitOnce?_closer {raw : List Char} (closed : ∀ n, ¬ StandsAt ['*', '/'] raw n)
    (code : List Char) :
    splitOnce? ['*', '/'] (raw ++ (['*', '/'] ++ code)) = some (raw, code) := by
  refine splitOnce?_append fun n early stands => ?_
  obtain ⟨star, slash, -⟩ := (standsAt_pattern_cons.mp stands).imp_right standsAt_pattern_cons.mp
  rw [List.getElem?_append_left early] at star
  by_cases inside : n + 1 < raw.length
  · rw [List.getElem?_append_left inside] at slash
    exact closed n (standsAt_pattern_cons.mpr ⟨star, standsAt_pattern_cons.mpr
      ⟨slash, standsAt_pattern_nil⟩⟩)
  · rw [show n + 1 = raw.length by omega, List.getElem?_append_right (Nat.le_refl _),
      Nat.sub_self] at slash
    cases slash

/-- A text that begins with a comment has that one first, and then those of the rest. -/
theorem blocks_enclosed {raw : List Char} (plain : raw.head? ≠ some '/')
    (closed : ∀ n, ¬ StandsAt ['*', '/'] raw n) (code : List Char) :
    blocks (enclosed raw ++ code) =
      ⟨clean raw, 1, firstLine? code⟩ ::
        (blocks code).map (Block.lowered (countNewlines (enclosed raw))) := by
  have whole : enclosed raw ++ code =
      [] ++ ([] ++ (['/', '*', '*'] ++ (raw ++ (['*', '/'] ++ code)))) := by
    simp [enclosed]
  have opener : splitOnce? ['/', '*', '*']
      ([] ++ (['/', '*', '*'] ++ (raw ++ (['*', '/'] ++ code)))) =
        some ([], raw ++ (['*', '/'] ++ code)) := splitOnce?_append nofun
  have plain : (raw ++ (['*', '/'] ++ code)).head? ≠ some '/' := by
    cases raw with
    | nil => exact nofun
    | cons => exact plain
  have behind : [] ++ [] ++ ['/', '*', '*'] ++ raw ++ ['*', '/'] = enclosed raw := by
    simp [enclosed]
  obtain ⟨spans, scan, -⟩ := @scan_blocksFrom code 1 code [] rfl rfl
  have both := scan_found whole opener plain (splitOnce?_closer closed code)
    (behind ▸ scan.moved (enclosed raw))
  rw [both.blocks_eq, List.map_cons, block_of_split whole, List.map_map, scan.blocks_eq,
    List.map_map]
  exact congrArg _ (List.map_congr_left fun s _ => block_append_right s)

end RefDoc.Comment
