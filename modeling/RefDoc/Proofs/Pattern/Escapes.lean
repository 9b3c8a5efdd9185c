import RefDoc.Pattern.Reader

/-!
# Parts of a pattern before a bar

What the reader of a pattern takes at once, an escape say or a set in brackets, it takes alike where
a bar and more text follow (`PatternReader.Local`). The one thing that may go on across the bar is a
comment that is skipped behind the part (`PatternFlags.Keeps`).
-/

namespace RefDoc

open Text

/-! ### Skipping -/

namespace PatternFlags

variable {f : PatternFlags} {cs : List Char}

theorem skipSpaceFrom_append {inComment : Bool} (left : skipSpaceFrom inComment cs ≠ [])
    (more : List Char) :
    skipSpaceFrom inComment (cs ++ more) = skipSpaceFrom inComment cs ++ more := by
  induction cs generalizing inComment with
  | nil => exact absurd rfl left
  | cons c cs ih =>
    rw [List.cons_append]
    unfold skipSpaceFrom at left ⊢
    by_cases comment : inComment
    · simp only [if_pos comment] at left ⊢
      exact ih left
    · simp only [if_neg comment] at left ⊢
      by_cases blank : isBlank c
      · simp only [if_pos blank] at left ⊢
        exact ih left
      · simp only [if_neg blank] at left ⊢
        by_cases hash : c = '#'
        · simp only [if_pos hash] at left ⊢
          exact ih left
        · simp only [if_neg hash, List.cons_append]

/-- There is something left, or nothing is skipped: what comes next is not taken for a comment. -/
def Keeps (f : PatternFlags) (rest : List Char) : Prop := rest ≠ [] ∨ f.spaced = false

theorem Keeps.of_ne_nil {rest : List Char} (left : rest ≠ []) : f.Keeps rest := .inl left

theorem Keeps.before {rest : List Char} (keeps : f.Keeps rest) (ends : cs = [] → rest = []) :
    f.Keeps cs := keeps.imp_left fun left empty => left (ends empty)

theorem skipSpace_nil : f.skipSpace [] = [] := by
  unfold skipSpace
  split <;> rfl

theorem skipSpace_append (keeps : f.Keeps (f.skipSpace cs)) (more : List Char) :
    f.skipSpace (cs ++ more) = f.skipSpace cs ++ more := by
  unfold Keeps at keeps
  unfold skipSpace at keeps ⊢
  split
  · rename_i spaced
    exact skipSpaceFrom_append (by simpa [spaced] using keeps) more
  · rfl

theorem skipSpace_cons_append {c : Char} {rest : List Char} (skipped : f.skipSpace cs = c :: rest)
    (more : List Char) : f.skipSpace (cs ++ more) = c :: (rest ++ more) := by
  have left : f.skipSpace cs ≠ [] := by simp [skipped]
  rw [skipSpace_append (.of_ne_nil left), skipped, List.cons_append]

theorem length_skipSpaceFrom_le (inComment : Bool) (cs : List Char) :
    (skipSpaceFrom inComment cs).length ≤ cs.length := by
  induction cs generalizing inComment with
  | nil => simp [skipSpaceFrom]
  | cons c cs ih =>
    unfold skipSpaceFrom
    repeat' split
    · exact Nat.le_succ_of_le (ih _)
    · exact Nat.le_succ_of_le (ih _)
    · exact Nat.le_succ_of_le (ih _)
    · exact Nat.le_refl _

theorem length_skipSpace_le (f : PatternFlags) (cs : List Char) :
    (f.skipSpace cs).length ≤ cs.length := by
  unfold skipSpace
  split
  · exact length_skipSpaceFrom_le false cs
  · exact Nat.le_refl _

end PatternFlags

namespace PatternReader

variable {α : Type} {f : PatternFlags}

/-- What was read is read alike with a bar and more text behind it. -/
def Local (kept : List Char → Prop) (read : List Char → Option (α × List Char)) : Prop :=
  ∀ ⦃cs v rest⦄, read cs = some (v, rest) → kept rest →
    ∀ more, read (cs ++ '|' :: more) = some (v, rest ++ '|' :: more)

/-! ### Numbers -/

theorem hexDigits?_nil {n : Nat} {ds rest : List Char}
    (read : hexDigits? f n [] = some (ds, rest)) : n = 0 ∧ rest = [] := by
  cases n with
  | zero =>
    cases read
    exact ⟨rfl, rfl⟩
  | succ n => cases read

theorem local_hexDigits (n : Nat) : Local f.Keeps (hexDigits? f n) := by
  induction n with
  | zero =>
    intro cs ds rest read _ more
    cases read
    rfl
  | succ n ih =>
    intro cs ds rest read keeps more
    cases cs with
    | nil => cases read
    | cons c cs =>
      rw [List.cons_append]
      unfold hexDigits? at read ⊢
      split at read
      · rename_i hex
        obtain ⟨⟨ds', rest'⟩, read', same⟩ := Option.map_eq_some_iff.mp read
        cases same
        have before : f.Keeps (f.skipSpace cs) := keeps.before fun empty => by
          rw [empty] at read'
          exact (hexDigits?_nil read').2
        rw [if_pos hex, PatternFlags.skipSpace_append before, ih read' keeps more]
        rfl
      · cases read

theorem hexBraced?_append {fuel fuel' : Nat} {cs ds rest : List Char}
    (read : hexBraced? f fuel cs = some (ds, rest)) (keeps : f.Keeps rest) (enough : fuel ≤ fuel')
    (more : List Char) : hexBraced? f fuel' (cs ++ more) = some (ds, rest ++ more) := by
  induction fuel generalizing fuel' cs ds with
  | zero =>
    unfold hexBraced? at read
    split at read
    · cases read
      unfold hexBraced?
      simp [PatternFlags.skipSpace_append keeps]
    · rename_i spent
      cases spent
    · cases read
  | succ fuel ih =>
    obtain ⟨fuel', rfl⟩ : ∃ n, fuel' = n + 1 := ⟨fuel' - 1, by omega⟩
    unfold hexBraced? at read
    split at read
    · cases read
      unfold hexBraced?
      simp [PatternFlags.skipSpace_append keeps]
    · rename_i c cs other same
      cases same
      split at read
      · rename_i hex
        obtain ⟨⟨ds', rest'⟩, read', same⟩ := Option.map_eq_some_iff.mp read
        cases same
        have left : f.skipSpace cs ≠ [] := by
          intro empty
          rw [empty] at read'
          cases fuel <;> cases read'
        rw [List.cons_append, hexBraced?]
        · rw [if_pos hex, PatternFlags.skipSpace_append (.of_ne_nil left),
            ih read' (by omega)]
          rfl
        · exact other
      · cases read
    · cases read

theorem code?_braced {cs after : List Char} (skipped : f.skipSpace cs = '\x7b' :: after)
    (n : Nat) : code? f n cs =
      (hexBraced? f after.length (f.skipSpace after)).bind fun (ds, rest) =>
        if ds.isEmpty then none else (charOf? (hexValue ds)).map fun c => (c, rest) := by
  unfold code?
  rw [skipped]
  rfl

theorem code?_plain {cs after : List Char} {d : Char} (skipped : f.skipSpace cs = d :: after)
    (plain : d ≠ '\x7b') (n : Nat) : code? f n cs =
      (hexDigits? f n (d :: after)).bind fun (ds, rest) =>
        (charOf? (hexValue ds)).map fun c => (c, rest) := by
  unfold code?
  rw [skipped]
  split
  · rename_i same
    exact absurd (List.cons.inj same).1 plain
  · rfl

theorem local_code (n : Nat) : Local f.Keeps (code? f (n + 1)) := by
  intro cs c rest read keeps more
  cases skipped : f.skipSpace cs with
  | nil =>
    unfold code? at read
    rw [skipped] at read
    cases read
  | cons d after =>
    have onward := PatternFlags.skipSpace_cons_append skipped ('|' :: more)
    by_cases brace : d = '\x7b'
    · subst brace
      rw [code?_braced skipped, Option.bind_eq_some_iff] at read
      obtain ⟨⟨ds, rest'⟩, digits, read⟩ := read
      dsimp only at read
      split at read
      · cases read
      · rename_i given
        obtain ⟨c', char, same⟩ := Option.map_eq_some_iff.mp read
        cases same
        have left : f.skipSpace after ≠ [] := by
          intro empty
          rw [empty] at digits
          unfold hexBraced? at digits
          cases after <;> cases digits
        have enough : after.length ≤ (after ++ '|' :: more).length := by simp
        rw [code?_braced onward, PatternFlags.skipSpace_append (.of_ne_nil left),
          hexBraced?_append digits keeps enough, Option.bind_some]
        simp [given, char]
    · rw [code?_plain skipped brace, Option.bind_eq_some_iff] at read
      obtain ⟨⟨ds, rest'⟩, digits, read⟩ := read
      obtain ⟨c', char, same⟩ := Option.map_eq_some_iff.mp read
      cases same
      have digits' := local_hexDigits (n + 1) digits keeps more
      rw [List.cons_append] at digits'
      rw [code?_plain onward brace, digits', Option.bind_some]
      simp [char]

/-! ### Properties and boundaries -/

theorem span_append {p : Char → Bool} {c : Char} {cs rest : List Char}
    (left : cs.dropWhile p = c :: rest) (more : List Char) :
    (cs ++ more).takeWhile p = cs.takeWhile p ∧ (cs ++ more).dropWhile p = c :: (rest ++ more) := by
  induction cs with
  | nil => cases left
  | cons d cs ih =>
    rw [List.cons_append]
    by_cases holds : p d
    · rw [List.dropWhile_cons_of_pos holds] at left ⊢
      obtain ⟨taken, dropped⟩ := ih left
      refine ⟨?_, dropped⟩
      rw [List.takeWhile_cons_of_pos holds, taken, List.takeWhile_cons_of_pos holds]
    · rw [List.dropWhile_cons_of_neg holds] at left ⊢
      cases left
      exact ⟨by rw [List.takeWhile_cons_of_neg holds, List.takeWhile_cons_of_neg holds], rfl⟩

/-- The characters that are not skipped. -/
def shown (f : PatternFlags) (cs : List Char) : List Char :=
  if f.spaced then cs.filter (!isBlank ·) else cs

/-- What stops at a character stops there whatever is behind it. -/
theorem takeWhile_shown {p : Char → Bool} {c : Char} (stop : p c = false)
    (seen : (f.spaced && isBlank c) = false) (l rest : List Char) :
    (shown f (l ++ c :: rest)).takeWhile p = (shown f l).takeWhile p := by
  have stops (l rest : List Char) : (l ++ c :: rest).takeWhile p = l.takeWhile p := by
    rw [List.takeWhile_append, List.takeWhile_cons_of_neg (by simp [stop]), List.append_nil]
    split
    · rename_i whole
      exact ((List.takeWhile_prefix p).eq_of_length whole).symm
    · rfl
  unfold shown
  split
  · rename_i spaced
    have kept : (!isBlank c) = true := by simpa [spaced] using seen
    rw [List.filter_append, List.filter_cons_of_pos (by simpa using kept), stops]
  · exact stops l rest

/-- The same for what ends before more text, blanks within it skipped. -/
theorem shown_append {p : Char → Bool} {c : Char} {cs rest : List Char}
    (left : cs.dropWhile (fun c => p c || (f.spaced && isBlank c)) = c :: rest)
    (more : List Char) :
    (shown f (cs ++ more)).takeWhile p = (shown f cs).takeWhile p ∧
      (cs ++ more).dropWhile (fun c => p c || (f.spaced && isBlank c)) = c :: (rest ++ more) := by
  have stop := List.head?_dropWhile_not (fun c => p c || (f.spaced && isBlank c)) cs
  rw [left] at stop
  obtain ⟨stop, seen⟩ := Bool.or_eq_false_iff.mp stop
  have whole := List.takeWhile_append_dropWhile
    (p := fun c => p c || (f.spaced && isBlank c)) (l := cs)
  rw [left] at whole
  refine ⟨?_, (span_append left more).2⟩
  rw [← whole, List.append_assoc, List.cons_append, takeWhile_shown stop seen,
    takeWhile_shown stop seen]

theorem propertyName?_braced {cs after : List Char} (skipped : f.skipSpace cs = '\x7b' :: after) :
    propertyName? f cs = match after.dropWhile (· ≠ '\x7d') with
      | _ :: rest =>
        some (String.ofList (if f.spaced then
          (after.takeWhile (· ≠ '\x7d')).filter (!isBlank ·)
        else after.takeWhile (· ≠ '\x7d')), rest)
      | [] => none := by
  unfold propertyName?
  rw [skipped]
  rfl

theorem local_propertyName : Local f.Keeps (propertyName? f) := by
  intro cs name rest read keeps more
  cases skipped : f.skipSpace cs with
  | nil =>
    unfold propertyName? at read
    rw [skipped] at read
    cases read
  | cons d after =>
    have onward := PatternFlags.skipSpace_cons_append skipped ('|' :: more)
    by_cases brace : d = '\x7b'
    · subst brace
      rw [propertyName?_braced skipped] at read
      split at read
      · rename_i _ rest' dropped
        cases read
        obtain ⟨taken, dropped'⟩ := span_append dropped ('|' :: more)
        rw [propertyName?_braced onward, dropped', taken]
      · cases read
    · unfold propertyName? at read ⊢
      rw [skipped] at read
      rw [onward]
      split at read
      · rename_i same
        exact absurd (List.cons.inj same).1 brace
      · cases read
      · cases read
      · rename_i e after' _ escaped same
        cases same
        cases read
        rw [← PatternFlags.skipSpace_append keeps]
        split
        · rename_i same
          exact absurd (List.cons.inj same).1 brace
        · rename_i same
          exact absurd (List.cons.inj same).1 escaped
        · cases ‹_ :: _ = []›
        · rename_i same
          cases same
          rfl

def isBoundaryChar (c : Char) : Bool := isAsciiLetter c || c == '-'

/-- The special word boundary of a name. -/
def boundary? (f : PatternFlags) : String → Option Assertion
  | "start" => some (.wordStart !f.unicode)
  | "end" => some (.wordEnd !f.unicode)
  | "start-half" => some (.beforeNoWord !f.unicode)
  | "end-half" => some (.afterNoWord !f.unicode)
  | _ => none

/-- A name of a boundary, up to the closing brace. -/
def boundaryIn? (f : PatternFlags) (cs : List Char) : Option (Assertion × List Char) :=
  match cs.dropWhile fun c => isBoundaryChar c || (f.spaced && isBlank c) with
  | '\x7d' :: rest =>
    (boundary? f (String.ofList ((shown f cs).takeWhile isBoundaryChar))).map (·, rest)
  | _ => none

theorem boundaryName?_braced {cs after : List Char} {c : Char}
    (skipped : f.skipSpace cs = c :: after) :
    boundaryName? f ('\x7b' :: cs) =
      if !isBoundaryChar c then some none else (boundaryIn? f (c :: after)).map some := by
  unfold boundaryName? boundaryIn? shown
  simp only [skipped]
  show (if !isBoundaryChar c then some none else
    match (c :: after).dropWhile fun c => isBoundaryChar c || (f.spaced && isBlank c) with
    | '\x7d' :: after' => _
    | _ => none) = _
  split
  · rfl
  · split
    · have chars : (fun c => isAsciiLetter c || c == '-') = isBoundaryChar := rfl
      simp only [chars, boundary?]
      generalize String.ofList _ = name
      split <;> simp [*]
    · rfl

theorem local_boundaryIn : Local (fun _ => True) (boundaryIn? f) := by
  intro cs a rest read _ more
  unfold boundaryIn? at read ⊢
  split at read
  · rename_i rest' dropped
    obtain ⟨taken, dropped'⟩ := shown_append dropped ('|' :: more)
    obtain ⟨b, named, same⟩ := Option.map_eq_some_iff.mp read
    cases same
    rw [dropped', taken, named]
    rfl
  · cases read

/-- Behind `\b` nothing but a name in braces is taken. -/
theorem boundaryName?_append {cs : List Char} {found : Option (Assertion × List Char)}
    (read : boundaryName? f cs = some found) (more : List Char) :
    boundaryName? f (cs ++ '|' :: more) =
      some (found.map fun (a, rest) => (a, rest ++ '|' :: more)) := by
  by_cases brace : cs.head? = some '\x7b'
  · obtain ⟨after, rfl⟩ := List.head?_eq_some_iff.mp brace
    cases skipped : f.skipSpace after with
    | nil =>
      unfold boundaryName? at read
      simp only [skipped] at read
      cases read
    | cons c rest =>
      have onward := PatternFlags.skipSpace_cons_append skipped ('|' :: more)
      rw [boundaryName?_braced skipped] at read
      rw [List.cons_append, boundaryName?_braced onward]
      split at read
      · rename_i plain
        cases read
        rw [if_pos plain]
        rfl
      · rename_i named
        obtain ⟨⟨a, left⟩, within, same⟩ := Option.map_eq_some_iff.mp read
        cases same
        have within' := local_boundaryIn within trivial more
        rw [List.cons_append] at within'
        rw [if_neg named, within']
        rfl
  · have plain (cs : List Char) (other : cs.head? ≠ some '\x7b') :
        boundaryName? f cs = some none := by
      unfold boundaryName?
      split
      · exact absurd rfl other
      · rfl
    rw [plain cs brace] at read
    cases read
    rw [plain]
    · rfl
    · cases cs with
      | nil => simp
      | cons c cs => simpa using brace

/-! ### Escapes -/

theorem local_escape : Local f.Keeps (escape? f) := by
  intro cs p rest read keeps more
  cases cs with
  | nil => cases read
  | cons c cs =>
    rw [List.cons_append]
    unfold escape? at read ⊢
    by_cases escapable : isEscapable c
    · simp only [if_pos escapable] at read ⊢
      cases read
      rfl
    · simp only [if_neg escapable] at read ⊢
      split at read
      case h_1 =>
        obtain ⟨⟨c, after⟩, code, read⟩ := Option.bind_eq_some_iff.mp read
        cases read
        have left : f.skipSpace cs ≠ [] := by
          intro empty
          unfold code? at code
          rw [empty] at code
          cases code
        rw [local_code 1 code keeps more, PatternFlags.skipSpace_append (.of_ne_nil left)]
        obtain ⟨d, rest', skipped⟩ := List.exists_cons_of_ne_nil left
        simp [skipped]
      case h_2 | h_3 =>
        obtain ⟨⟨c, after⟩, code, same⟩ := Option.map_eq_some_iff.mp read
        cases same
        rw [local_code _ code keeps more]
        rfl
      case h_4 | h_5 =>
        split at read
        · cases read
        · rename_i unicode
          obtain ⟨⟨name, after⟩, named, read⟩ := Option.bind_eq_some_iff.mp read
          obtain ⟨s, known, read⟩ := Option.bind_eq_some_iff.mp read
          cases read
          rw [if_neg unicode, local_propertyName named keeps more]
          simp [known]
      case h_20 =>
        obtain ⟨found, named, read⟩ := Option.bind_eq_some_iff.mp read
        rw [boundaryName?_append named more]
        cases found <;> cases read <;> rfl
      all_goals cases read <;> rfl

theorem local_setItem : Local f.Keeps (setItem? f) := by
  intro cs p rest read keeps more
  unfold setItem? at read ⊢
  split at read
  · exact local_escape read keeps more
  · rename_i c rest' plain
    cases read
    rw [List.cons_append]
    split
    · rename_i same
      exact absurd (List.cons.inj same).1 plain
    · rename_i same
      cases same
      rfl
    · rename_i same
      cases same
  · cases read

end PatternReader
end RefDoc
