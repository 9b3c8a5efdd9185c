import RefDoc.Proofs.Comment.Blocks
import RefDoc.Proofs.Text.Lines

/-!
# Texts behind each other

The doc comments of a text that ends with a newline and ends each comment it opens do not depend on
what is written behind it, and those behind it not on the text, but for their lines
(`blocks_append`). What may follow a text is seen only by an opener without an end and by a comment
that no code follows.
-/

namespace RefDoc.Comment

open Text

variable {front back : List Char} {cursor n m : Nat} {spans spans' : List Span}

/-- The search of `source` comes to `n`, as no comment that it finds begins before `n` and goes on
there. -/
def Reached (source : List Char) (n : Nat) : Prop :=
  ∀ spans, Scan source 0 spans → ∀ s ∈ spans, n ≤ s.opener ∨ s.closer + 2 ≤ n

/-! ### The text in front -/

/-- What begins in a text that ends with a newline ends there, or the newline would be in it. -/
theorem length_lt_of_standsAt {pattern : List Char} (ends : EndsLine front) (solid : '\n' ∉ pattern)
    (stands : StandsAt pattern (front ++ back) n) (inside : n < front.length) :
    n + pattern.length < front.length := by
  obtain ⟨start, rfl⟩ : ∃ start, front = start ++ ['\n'] :=
    ends.resolve_left (by rintro rfl; cases inside)
  refine Nat.lt_of_not_le fun beyond => solid ?_
  rw [List.length_append, List.length_singleton] at inside beyond
  have last := standsAt_iff.mp stands (start.length - n) (by omega)
  rw [show n + (start.length - n) = start.length by omega, List.append_assoc,
    List.getElem?_append_right (Nat.le_refl _), Nat.sub_self] at last
  exact Option.some.inj last ▸ List.getElem_mem _

theorem standsAt_append_left {pattern : List Char} (ends : EndsLine front) (solid : '\n' ∉ pattern)
    (inside : n < front.length) :
    StandsAt pattern (front ++ back) n ↔ StandsAt pattern front n := by
  constructor
  · intro stands
    have within := length_lt_of_standsAt ends solid stands inside
    refine standsAt_iff.mpr fun i small => ?_
    rw [← standsAt_iff.mp stands i small, List.getElem?_append_left (by omega)]
  · rintro ⟨rest, split⟩
    refine ⟨rest ++ back, ?_⟩
    rw [List.drop_append_of_le_length (Nat.le_of_lt inside), ← split, List.append_assoc]

theorem opensAt_append_left (ends : EndsLine front) (inside : n < front.length) :
    OpensAt (front ++ back) n ↔ OpensAt front n := by
  rw [OpensAt, standsAt_append_left ends (by decide) inside]
  refine and_congr_right fun stands => ?_
  have alone : StandsAt ['/', '*', '*'] (front ++ []) n := by rwa [List.append_nil]
  have within : n + 3 < front.length := length_lt_of_standsAt ends (by decide) alone inside
  rw [List.getElem?_append_left within]

theorem mayEnd_append_left (ends : EndsLine front) (inside : m < front.length) :
    MayEnd (front ++ back) n m ↔ MayEnd front n m :=
  and_congr_right fun _ => standsAt_append_left ends (by decide) inside

/-! ### The text behind -/

theorem opensAt_append_right : OpensAt (front ++ back) (front.length + n) ↔ OpensAt back n := by
  rw [OpensAt, standsAt_append, Nat.add_assoc, List.getElem?_append_right (Nat.le_add_right ..),
    Nat.add_sub_cancel_left, OpensAt]

theorem mayEnd_append_right :
    MayEnd (front ++ back) (front.length + n) (front.length + m) ↔ MayEnd back n m := by
  rw [MayEnd, standsAt_append, Nat.add_assoc, Nat.add_le_add_iff_left, MayEnd]

theorem ended_append_right : Ended (front ++ back) (front.length + n) ↔ Ended back n := by
  constructor
  · rintro ⟨m, ends⟩
    obtain ⟨m, rfl⟩ := Nat.exists_eq_add_of_le (show front.length ≤ m by have := ends.1; omega)
    exact ⟨m, mayEnd_append_right.mp ends⟩
  · rintro ⟨m, ends⟩
    exact ⟨_, mayEnd_append_right.mpr ends⟩

/-- The comment when `count` characters are put in front of the text. -/
def Span.moved (count : Nat) (s : Span) : Span := ⟨count + s.opener, count + s.closer⟩

theorem Scan.moved (scan : Scan back cursor spans) (front : List Char) :
    Scan (front ++ back) (front.length + cursor) (spans.map (Span.moved front.length)) := by
  induction scan with
  | done unended =>
    refine .done fun n ahead opens ended => ?_
    obtain ⟨n, rfl⟩ := Nat.exists_eq_add_of_le (Nat.le_trans (Nat.le_add_right ..) ahead)
    exact unended n (Nat.le_of_add_le_add_left ahead) (opensAt_append_right.mp opens)
      (ended_append_right.mp ended)
  | next ahead opens ends first soonest rest ih =>
    refine .next (Nat.add_le_add_left ahead _) (opensAt_append_right.mpr opens)
      (mayEnd_append_right.mpr ends) (fun k here early opens ended => ?_)
      (fun k early ends => ?_) ih
    · obtain ⟨k, rfl⟩ := Nat.exists_eq_add_of_le (Nat.le_trans (Nat.le_add_right ..) here)
      exact first k (Nat.le_of_add_le_add_left here) (Nat.lt_of_add_lt_add_left early)
        (opensAt_append_right.mp opens) (ended_append_right.mp ended)
    · obtain ⟨k, rfl⟩ := Nat.exists_eq_add_of_le (show front.length ≤ k by have := ends.1; omega)
      exact soonest k (Nat.lt_of_add_lt_add_left early) (mayEnd_append_right.mp ends)

/-- Where every opener that is reached has its end in front, the search goes on behind it. -/
theorem Scan.append (scan : Scan front cursor spans) (ends : EndsLine front)
    (inside : cursor ≤ front.length)
    (closed : ∀ n, cursor ≤ n → OpensAt front n →
      (∀ s ∈ spans, n ≤ s.opener ∨ s.closer + 2 ≤ n) → Ended front n)
    (more : Scan (front ++ back) front.length spans') :
    Scan (front ++ back) cursor (spans ++ spans') := by
  induction scan with
  | done unended =>
    refine more.widen inside fun k here early opens => ?_
    have opens := (opensAt_append_left ends early).mp opens
    exact unended k here opens (closed k here opens nofun)
  | @next cursor n m spans ahead opens ended first soonest rest ih =>
    have closer : m + 2 ≤ front.length := ended.2.length_le (by decide)
    have := ended.1
    refine .next ahead ((opensAt_append_left ends (by omega)).mpr opens)
      ((mayEnd_append_left ends (by omega)).mpr ended) (fun k here early opens => ?_)
      (fun k early ended => ?_) (ih closer fun k here opens outside => ?_)
    · have opens := (opensAt_append_left ends (by omega)).mp opens
      refine absurd (closed k here opens ?_) (first k here early opens)
      refine List.forall_mem_cons.mpr ⟨.inl (Nat.le_of_lt early), fun s member => .inl ?_⟩
      have : m + 2 ≤ s.opener := rest.apart.1 s member
      omega
    · exact soonest k early ((mayEnd_append_left ends (by omega)).mp ended)
    · exact closed k (by omega) opens (List.forall_mem_cons.mpr ⟨.inr here, outside⟩)

/-! ### The comments of both -/

/-- The comment when `count` lines are put in front of it. -/
def Block.lowered (count : Nat) (b : Block) : Block := { b with line := b.line + count }

theorem firstLine?_append (ends : EndsLine front) (followed : (firstLine? front).isSome) :
    firstLine? (front ++ back) = firstLine? front := by
  obtain ⟨line, found⟩ := Option.isSome_iff_exists.mp followed
  rw [firstLine?] at found
  rw [firstLine?, lines_append ends, List.map_append, List.find?_append, found, firstLine?, found,
    Option.some_or]

theorem block_append_left {s : Span} (ends : EndsLine front) (inside : s.closer + 2 ≤ front.length)
    (ahead : s.opener + 3 ≤ s.closer) (followed : (s.block front).next.isSome) :
    s.block (front ++ back) = s.block front := by
  have between : s.between (front ++ back) = s.between front := by
    rw [Span.between, List.drop_append_of_le_length (by omega),
      List.take_append_of_le_length (by rw [List.length_drop]; omega), Span.between]
  have next : firstLine? ((front ++ back).drop (s.closer + 2)) =
      firstLine? (front.drop (s.closer + 2)) := by
    rw [List.drop_append_of_le_length inside]
    exact firstLine?_append (ends.drop _) followed
  rw [Span.block, between, next, List.take_append_of_le_length (by omega), Span.block]

theorem block_append_right (s : Span) :
    (s.moved front.length).block (front ++ back) =
      (s.block back).lowered (countNewlines front) := by
  have drop (n) : (front ++ back).drop (front.length + n) = back.drop n := by
    rw [List.drop_append, List.drop_of_length_le (Nat.le_add_right ..), Nat.add_sub_cancel_left,
      List.nil_append]
  have between : (s.moved front.length).between (front ++ back) = s.between back := by
    simp only [Span.between, Span.moved, Nat.add_assoc, drop, Nat.add_sub_add_left]
  have line : countNewlines ((front ++ back).take (front.length + s.opener)) =
      countNewlines front + countNewlines (back.take s.opener) := by
    rw [List.take_length_add_append, countNewlines, List.count_append, countNewlines, countNewlines]
  rw [Span.block, between]
  simp only [Span.moved, line, Nat.add_assoc, drop, Span.block, Block.lowered]
  rw [Nat.add_comm (countNewlines front)]

theorem blocks_append (ends : EndsLine front)
    (closed : ∀ n, Reached front n → OpensAt front n → Ended front n)
    (followed : ∀ b ∈ blocks front, b.next.isSome) (back : List Char) :
    blocks (front ++ back) =
      blocks front ++ (blocks back).map (Block.lowered (countNewlines front)) := by
  obtain ⟨spans, scan, found⟩ := @scan_blocksFrom front 1 front [] rfl rfl
  obtain ⟨spans', scan', found'⟩ := @scan_blocksFrom back 1 back [] rfl rfl
  have reached (n) (outside : ∀ s ∈ spans, n ≤ s.opener ∨ s.closer + 2 ≤ n) : Reached front n :=
    fun others other => other.unique scan ▸ outside
  have both := scan.append ends (Nat.zero_le _)
    (fun n _ opens outside => closed n (reached n outside) opens) (scan'.moved front)
  have left (s) (member : s ∈ spans) : s.block (front ++ back) = s.block front := by
    obtain ⟨-, ended⟩ := scan.opens member
    refine block_append_left ends (ended.2.length_le (by decide)) ended.1 (followed _ ?_)
    rw [scan.blocks_eq]
    exact List.mem_map_of_mem member
  rw [both.blocks_eq, scan.blocks_eq, scan'.blocks_eq, List.map_append, List.map_congr_left left,
    List.map_map, List.map_map]
  exact congrArg _ (List.map_congr_left fun s _ => block_append_right s)

end RefDoc.Comment
