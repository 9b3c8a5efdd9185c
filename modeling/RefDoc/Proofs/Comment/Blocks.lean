import RefDoc.Comment.Block
import RefDoc.Proofs.Text.Split

/-!
# Where doc comments stand

The doc comments of a text are those of a scan from the left (`Scan`): the first opener that has an
end, up to the first end it has, and on from behind it. An opener without an end hides nothing: no
later one has an end either (`Ended.earlier`).
-/

namespace RefDoc

namespace Comment

open Text

/-! ### Openers and their ends -/

section Openers

variable (source : List Char)

/-- A doc comment opens at `n`: three characters, and no slash behind them. -/
def OpensAt (n : Nat) : Prop := StandsAt ['/', '*', '*'] source n ∧ source[n + 3]? ≠ some '/'

/-- A comment that opens at `n` may end at `m`. -/
def MayEnd (n m : Nat) : Prop := n + 3 ≤ m ∧ StandsAt ['*', '/'] source m

def Ended (n : Nat) : Prop := ∃ m, MayEnd source n m

end Openers

/-- From its opener to the two characters that end it. -/
structure Span where
  opener : Nat
  closer : Nat
  deriving DecidableEq, Repr

namespace Span

/-- The place lies in the comment. -/
def Covers (s : Span) (n : Nat) : Prop := s.opener ≤ n ∧ n < s.closer + 2

/-- The text between the opener and the end. -/
def between (source : List Char) (s : Span) : List Char :=
  (source.drop (s.opener + 3)).take (s.closer - (s.opener + 3))

/-- The comment that stands there. -/
def block (source : List Char) (s : Span) : Block where
  text := clean (s.between source)
  line := 1 + countNewlines (source.take s.opener)
  next := firstLine? (source.drop (s.closer + 2))

end Span

/-- The scan from `cursor` on takes the first opener that has an end, the first end it has, and goes
on behind that. -/
inductive Scan (source : List Char) : Nat → List Span → Prop where
  | done {cursor : Nat} (unended : ∀ n, cursor ≤ n → OpensAt source n → ¬ Ended source n) :
      Scan source cursor []
  | next {cursor n m : Nat} {spans : List Span} (ahead : cursor ≤ n) (opens : OpensAt source n)
      (ends : MayEnd source n m) (first : ∀ k, cursor ≤ k → k < n → OpensAt source k →
        ¬ Ended source k) (soonest : ∀ k, k < m → ¬ MayEnd source n k)
      (rest : Scan source (m + 2) spans) : Scan source cursor (⟨n, m⟩ :: spans)

section Scans

variable {source : List Char} {cursor cursor' n m : Nat} {spans spans' : List Span}

theorem Ended.earlier (ended : Ended source n) (before : m ≤ n) : Ended source m := by
  obtain ⟨k, behind, stands⟩ := ended
  exact ⟨k, by omega, stands⟩

/-- Where nothing opens the scan passes over. -/
theorem Scan.widen (scan : Scan source cursor' spans) (before : cursor ≤ cursor')
    (closed : ∀ k, cursor ≤ k → k < cursor' → ¬ OpensAt source k) : Scan source cursor spans := by
  cases scan with
  | done unended =>
    refine .done fun n ahead opens => ?_
    by_cases near : n < cursor'
    · exact absurd opens (closed n ahead near)
    · exact unended n (by omega) opens
  | next ahead opens ends first soonest rest =>
    refine .next (by omega) opens ends (fun k here below opens' => ?_) soonest rest
    by_cases near : k < cursor'
    · exact absurd opens' (closed k here near)
    · exact first k (by omega) below opens'

/-- There is one scan. -/
theorem Scan.unique (scan : Scan source cursor spans) (scan' : Scan source cursor spans') :
    spans = spans' := by
  induction scan generalizing spans' with
  | done unended =>
    cases scan' with
    | done => rfl
    | next ahead opens ends => exact absurd ⟨_, ends⟩ (unended _ ahead opens)
  | @next cursor n m spans ahead opens ends first soonest rest ih =>
    cases scan' with
    | done unended => exact absurd ⟨_, ends⟩ (unended _ ahead opens)
    | @next _ n' m' spans' ahead' opens' ends' first' soonest' rest' =>
      have same : n = n' := by
        rcases Nat.lt_trichotomy n n' with before | same | behind
        · exact absurd ⟨m, ends⟩ (first' n ahead before opens)
        · exact same
        · exact absurd ⟨m', ends'⟩ (first n' ahead' behind opens')
      subst same
      have same : m = m' := by
        rcases Nat.lt_trichotomy m m' with before | same | behind
        · exact absurd ends (soonest' m before)
        · exact same
        · exact absurd ends' (soonest m' behind)
      subst same
      rw [ih rest']

theorem Scan.apart (scan : Scan source cursor spans) :
    (∀ s ∈ spans, cursor ≤ s.opener) ∧
      spans.Pairwise fun s s' => s.closer + 2 ≤ s'.opener := by
  induction scan with
  | done => exact ⟨nofun, .nil⟩
  | @next cursor n m spans ahead opens ends first soonest rest ih =>
    obtain ⟨behind, apart⟩ := ih
    refine ⟨List.forall_mem_cons.mpr ⟨ahead, fun s member => ?_⟩, .cons behind apart⟩
    have := behind s member
    have := ends.1
    omega

theorem Scan.opens (scan : Scan source cursor spans) {s : Span} (member : s ∈ spans) :
    OpensAt source s.opener ∧ MayEnd source s.opener s.closer := by
  induction scan with
  | done => cases member
  | next _ opens ends _ _ _ ih =>
    rcases List.mem_cons.mp member with rfl | later
    · exact ⟨opens, ends⟩
    · exact ih later

/-- An opener with an end opens a comment or stands in one. -/
theorem Scan.covered (scan : Scan source cursor spans) (ahead : cursor ≤ n)
    (opens : OpensAt source n) (ended : Ended source n) :
    ∃ s ∈ spans, s.opener ≤ n ∧ n < s.closer + 2 := by
  induction scan with
  | done unended => exact absurd ended (unended n ahead opens)
  | @next cursor k m spans _ _ ends first _ _ ih =>
    by_cases before : n < k
    · exact absurd ended (first n ahead before opens)
    · by_cases inside : n < m + 2
      · exact ⟨_, List.mem_cons_self, by dsimp only; omega, inside⟩
      · obtain ⟨s, member, bounds⟩ := ih (by omega)
        exact ⟨s, List.mem_cons_of_mem _ member, bounds⟩

end Scans

/-! ### What is found -/

section Found

variable {source done before body : List Char}

theorem not_standsAt_before (whole : source = done ++ (before ++ (['/', '*', '*'] ++ body)))
    (first : ∀ n < before.length,
      ¬ StandsAt ['/', '*', '*'] (before ++ (['/', '*', '*'] ++ body)) n)
    {k : Nat} (here : done.length ≤ k) (early : k < done.length + before.length) :
    ¬ StandsAt ['/', '*', '*'] source k := by
  obtain ⟨k, rfl⟩ := Nat.exists_eq_add_of_le here
  rw [whole, standsAt_append]
  exact first k (by omega)

theorem not_standsAt_within (whole : source = done ++ (before ++ (['/', '*', '*'] ++ body)))
    {k : Nat} (behind : done.length + before.length < k)
    (early : k < done.length + before.length + 3) : ¬ StandsAt ['/', '*', '*'] source k := by
  obtain ⟨k, rfl⟩ := Nat.exists_eq_add_of_le (Nat.le_of_lt behind)
  intro stands
  have slash := stands.head
  have star : source[done.length + before.length + k]? = some '*' := by
    rw [whole, ← List.append_assoc, ← List.length_append, List.getElem?_append_right (by omega)]
    obtain rfl | rfl : k = 1 ∨ k = 2 := by omega
    all_goals simp
  rw [star] at slash
  cases slash

theorem opensAt_iff (whole : source = done ++ (before ++ (['/', '*', '*'] ++ body))) :
    OpensAt source (done.length + before.length) ↔ body.head? ≠ some '/' := by
  have stands : StandsAt ['/', '*', '*'] source (done.length + before.length) := by
    rw [whole, standsAt_append, ← Nat.add_zero before.length, standsAt_append]
    exact ⟨body, rfl⟩
  have third : source[done.length + before.length + 3]? = body.head? := by
    rw [whole, Nat.add_assoc, List.getElem?_append_right (by omega),
      List.getElem?_append_right (by omega), List.head?_eq_getElem?]
    simp
  rw [OpensAt, third]
  exact and_iff_right stands

theorem mayEnd_iff (whole : source = done ++ (before ++ (['/', '*', '*'] ++ body))) {k : Nat} :
    MayEnd source (done.length + before.length) (done.length + before.length + 3 + k) ↔
      StandsAt ['*', '/'] body k := by
  have front : source = (done ++ before ++ ['/', '*', '*']) ++ body := by simp [whole]
  have length : done.length + before.length + 3 = (done ++ before ++ ['/', '*', '*']).length := by
    simp [Nat.add_assoc]
  rw [MayEnd, front, length, standsAt_append]
  exact and_iff_right (by omega)

/-- The block of a span by the pieces that the text splits into. -/
theorem block_of_split {raw after : List Char}
    (whole : source = done ++ (before ++ (['/', '*', '*'] ++ (raw ++ (['*', '/'] ++ after))))) :
    Span.block source ⟨done.length + before.length,
        done.length + before.length + 3 + raw.length⟩ =
      ⟨clean raw, 1 + countNewlines (done ++ before), firstLine? after⟩ := by
  have head : source.take (done.length + before.length) = done ++ before := by
    rw [whole, ← List.append_assoc, ← List.length_append, List.take_left]
  have body : source.drop (done.length + before.length + 3) = raw ++ (['*', '/'] ++ after) := by
    rw [whole, ← List.append_assoc, ← List.append_assoc, ← List.length_append]
    exact List.drop_left' (by simp [Nat.add_assoc])
  have tail : source.drop (done.length + before.length + 3 + raw.length + 2) = after := by
    rw [Nat.add_assoc, ← List.drop_drop, body, ← List.append_assoc]
    exact List.drop_left' (by simp)
  simp only [Span.block, Span.between, head, body, tail, Nat.add_sub_cancel_left, List.take_left]

variable {rest raw after : List Char} {spans : List Span}

theorem scan_unopened (whole : source = done ++ rest)
    (unopened : splitOnce? ['/', '*', '*'] rest = none) : Scan source done.length [] := by
  refine .done fun n ahead opens _ => ?_
  obtain ⟨n, rfl⟩ := Nat.exists_eq_add_of_le ahead
  rw [OpensAt, whole, standsAt_append] at opens
  exact splitOnce?_eq_none unopened n opens.1

theorem scan_passed (whole : source = done ++ rest)
    (opener : splitOnce? ['/', '*', '*'] rest = some (before, body)) (slash : body.head? = some '/')
    (scan : Scan source (done ++ before ++ ['/', '*', '*']).length spans) :
    Scan source done.length spans := by
  obtain ⟨rfl, first⟩ := splitOnce?_eq_some opener
  refine scan.widen (by simp) fun k here early => ?_
  simp only [List.length_append, List.length_cons, List.length_nil] at early
  rcases Nat.lt_trichotomy k (done.length + before.length) with front | rfl | behind
  · exact fun opens => not_standsAt_before whole first here front opens.1
  · rw [opensAt_iff whole]
    simpa using slash
  · exact fun opens => not_standsAt_within whole behind (by omega) opens.1

theorem scan_unclosed (whole : source = done ++ rest)
    (opener : splitOnce? ['/', '*', '*'] rest = some (before, body))
    (unclosed : splitOnce? ['*', '/'] body = none) : Scan source done.length [] := by
  obtain ⟨rfl, first⟩ := splitOnce?_eq_some opener
  refine .done fun n here opens ended => ?_
  by_cases front : n < done.length + before.length
  · exact not_standsAt_before whole first here front opens.1
  · obtain ⟨m, behind, stands⟩ := ended.earlier (Nat.le_of_not_lt front)
    obtain ⟨k, rfl⟩ := Nat.exists_eq_add_of_le behind
    exact splitOnce?_eq_none unclosed k ((mayEnd_iff whole).mp ⟨behind, stands⟩)

theorem scan_found (whole : source = done ++ rest)
    (opener : splitOnce? ['/', '*', '*'] rest = some (before, body)) (plain : body.head? ≠ some '/')
    (closer : splitOnce? ['*', '/'] body = some (raw, after))
    (scan : Scan source (done ++ before ++ ['/', '*', '*'] ++ raw ++ ['*', '/']).length spans) :
    Scan source done.length
      (⟨done.length + before.length, done.length + before.length + 3 + raw.length⟩ :: spans) := by
  obtain ⟨rfl, first⟩ := splitOnce?_eq_some opener
  obtain ⟨rfl, soonest⟩ := splitOnce?_eq_some closer
  refine .next (Nat.le_add_right ..) ((opensAt_iff whole).mpr plain) ((mayEnd_iff whole).mpr ?_)
    (fun k here front opens => ?_) (fun k early ends => ?_) ?_
  · rw [← Nat.add_zero raw.length, standsAt_append]
    exact ⟨after, rfl⟩
  · exact absurd opens.1 (not_standsAt_before whole first here front)
  · obtain ⟨k, rfl⟩ := Nat.exists_eq_add_of_le ends.1
    exact soonest k (by omega) ((mayEnd_iff whole).mp ends)
  · have here : done.length + before.length + 3 + raw.length + 2 =
        (done ++ before ++ ['/', '*', '*'] ++ raw ++ ['*', '/']).length := by
      simp only [List.length_append, List.length_cons, List.length_nil]
    exact here ▸ scan

/-- By induction along the search: what it has passed over is `done`. -/
theorem scan_blocksFrom (line : Nat) (rest : List Char) (done : List Char)
    (whole : source = done ++ rest) (counted : line = 1 + countNewlines done) :
    ∃ spans, Scan source done.length spans ∧
      blocksFrom line rest = spans.map (Span.block source) := by
  fun_induction blocksFrom line rest generalizing done with
  | case1 line rest unopened => exact ⟨[], scan_unopened whole unopened, rfl⟩
  | case2 line rest before body opener line' slash ih =>
    obtain ⟨rfl, -⟩ := splitOnce?_eq_some opener
    obtain ⟨spans, scan, found⟩ := ih (done ++ before ++ ['/', '*', '*']) (by simp [whole])
      (by simp [line', counted, countNewlines, Nat.add_assoc])
    exact ⟨spans, scan_passed whole opener (by simpa using slash) scan, found⟩
  | case3 line rest before body opener plain unclosed =>
    exact ⟨[], scan_unclosed whole opener unclosed, rfl⟩
  | case4 line rest before body opener line' plain raw after closer ih =>
    obtain ⟨rfl, -⟩ := splitOnce?_eq_some opener
    obtain ⟨rfl, -⟩ := splitOnce?_eq_some closer
    obtain ⟨spans, scan, found⟩ := ih (done ++ before ++ ['/', '*', '*'] ++ raw ++ ['*', '/'])
      (by simp [whole])
      (by simp [line', counted, countNewlines, Nat.add_assoc])
    refine ⟨_, scan_found whole opener (by simpa using plain) closer scan, ?_⟩
    rw [List.map_cons, found, block_of_split whole]
    simp [line', counted, countNewlines, Nat.add_assoc]

theorem Scan.blocks_eq (scan : Scan source 0 spans) :
    blocks source = spans.map (Span.block source) := by
  obtain ⟨spans', scan', found⟩ := @scan_blocksFrom source 1 source [] rfl rfl
  rw [scan.unique scan']
  exact found

end Found

/-- The first line that is not blank, trimmed. -/
def IsFirstLine (cs line : List Char) : Prop :=
  ∃ front written back, lines cs = front ++ written :: back ∧ (∀ l ∈ front, trim l = []) ∧
    trim written = line ∧ line ≠ []

theorem firstLine?_eq_some_iff {cs line : List Char} :
    firstLine? cs = some line ↔ IsFirstLine cs line := by
  rw [firstLine?, List.find?_map, Option.map_eq_some_iff]
  simp only [List.find?_eq_some_iff_append, Function.comp_apply, Bool.not_eq_true',
    List.isEmpty_eq_false_iff, Bool.not_not, List.isEmpty_iff]
  constructor
  · rintro ⟨written, ⟨solid, front, back, split, blank⟩, rfl⟩
    exact ⟨front, written, back, split, blank, rfl, solid⟩
  · rintro ⟨front, written, back, split, blank, rfl, solid⟩
    exact ⟨written, ⟨solid, front, back, split, blank⟩, rfl⟩

/-- **Doc comments are found by a scan from the left**, each once. There is one such scan; a comment
has the text between its opener and its end, the number of its opener's line, and the first line
behind it that is not blank. Whatever opens and has an end is a comment or stands in one, and what
has none hides no comment behind it. All pieces lie in the text, on boundaries of characters. -/
theorem blocks_scanned (source : List Char) :
    ∃ spans, Scan source 0 spans ∧ (∀ spans', Scan source 0 spans' → spans' = spans) ∧
      blocks source = spans.map (Span.block source) ∧
      (∀ s ∈ spans, ∀ line, (s.block source).next = some line ↔
        IsFirstLine (source.drop (s.closer + 2)) line) ∧
      spans.Pairwise (fun s s' => s.closer + 2 ≤ s'.opener) ∧
      (∀ n, OpensAt source n → Ended source n → ∃ s ∈ spans, s.opener ≤ n ∧ n < s.closer + 2) ∧
      (∀ n, ¬ Ended source n → ∀ k, n ≤ k → ¬ Ended source k) ∧
      (∀ n, StandsAt ['/', '*', '*'] source n → Bounded ['/', '*', '*'] source n) ∧
      ∀ n, StandsAt ['*', '/'] source n → Bounded ['*', '/'] source n := by
  obtain ⟨spans, scan, found⟩ := @scan_blocksFrom source 1 source [] rfl rfl
  refine ⟨spans, scan, fun spans' scan' => scan'.unique scan, found,
    fun s _ line => firstLine?_eq_some_iff, scan.apart.2,
    fun n opens ended => scan.covered (Nat.zero_le n) opens ended,
    fun n unended k behind ended => unended (ended.earlier behind), ?_, ?_⟩
  · exact fun n stands => stands.bounded (by simp) (by simp; decide)
  · exact fun n stands => stands.bounded (by simp) (by simp; decide)

/-- `/**/` opens nothing, but with its last slash an opener may begin. -/
example : blocks "/**/** Area. */\n\nlet area".toList =
    [⟨"Area.".toList, 1, some "let area".toList⟩] := by
  cbv

end Comment

end RefDoc
