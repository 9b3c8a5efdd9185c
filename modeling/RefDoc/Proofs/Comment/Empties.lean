import RefDoc.Proofs.Comment.Blocks

/-!
# Empty comments

The search for doc comments passes over `/**/` wherever it meets one outside of a comment
(`exists_scan_empties`), but goes on at its last slash and not behind it. With blanks in place of
its first three characters the doc comments stay what they are; with blanks in place of all four they
do unless that slash opens one of them (`empties_inert_iff`).
-/

namespace RefDoc.Comment

open Text

variable {source done rest before body : List Char} {cursor n : Nat} {spans : List Span}

/-! ### Where they are passed over -/

/-- The places of the empty comments that the search passes over; `rest` is what stands from
`cursor` on. -/
def emptiesFrom (cursor : Nat) (rest : List Char) : List Nat :=
  match _opener : splitOnce? ['/', '*', '*'] rest with
  | none => []
  | some (before, body) =>
    let start := cursor + before.length
    if body.head? == some '/' then start :: emptiesFrom (start + 3) body
    else
      match _closer : splitOnce? ['*', '/'] body with
      | none => []
      | some (raw, after) => emptiesFrom (start + 3 + raw.length + 2) after
termination_by rest.length
decreasing_by
  · have := length_of_splitOnce? _opener
    simp only [List.length_cons, List.length_nil] at this
    omega
  · have := length_of_splitOnce? _opener
    have := length_of_splitOnce? _closer
    simp only [List.length_cons, List.length_nil] at *
    omega

def empties (source : List Char) : List Nat := emptiesFrom 0 source

/-- An empty comment stands at `n`. -/
def EmptyAt (source : List Char) (n : Nat) : Prop := StandsAt ['/', '*', '*', '/'] source n

theorem emptyAt_iff :
    EmptyAt source n ↔ StandsAt ['/', '*', '*'] source n ∧ source[n + 3]? = some '/' := by
  simp only [EmptyAt, standsAt_pattern_cons, standsAt_pattern_nil, and_true, and_assoc]

/-- Only at its last slash may a comment open. -/
theorem EmptyAt.opener {k : Nat} (empty : EmptyAt source n) (opens : OpensAt source k)
    (behind : n < k) (front : k < n + 4) : k = n + 3 := by
  simp only [EmptyAt, standsAt_pattern_cons, standsAt_pattern_nil] at empty
  obtain ⟨-, second, third, -⟩ := empty
  have slash := opens.1.head
  obtain rfl | rfl | rfl : k = n + 1 ∨ k = n + 1 + 1 ∨ k = n + 3 := by omega
  · exact absurd (second.symm.trans slash) (by decide)
  · exact absurd (third.symm.trans slash) (by decide)
  · rfl

theorem EmptyAt.not_newline {i : Nat} (empty : EmptyAt source n) (behind : n ≤ i)
    (front : i < n + 4) : source[i]? ≠ some '\n' := by
  obtain ⟨i, rfl⟩ := Nat.exists_eq_add_of_le behind
  have small : i < ['/', '*', '*', '/'].length := Nat.lt_of_add_lt_add_left front
  rw [standsAt_iff.mp empty i small]
  intro newline
  have member := List.getElem_mem small
  rw [Option.some.inj newline] at member
  exact absurd member (by decide)

theorem EmptyAt.not_opensAt (empty : EmptyAt source n) : ¬ OpensAt source n :=
  fun opens => opens.2 (emptyAt_iff.mp empty).2

theorem EmptyAt.ended {k : Nat} (empty : EmptyAt source n) (before : k < n) : Ended source k := by
  refine ⟨n + 2, by omega, ?_⟩
  simp only [EmptyAt, standsAt_pattern_cons, standsAt_pattern_nil] at empty ⊢
  exact empty.2.2

theorem emptyAt_of_split (whole : source = done ++ (before ++ (['/', '*', '*'] ++ body)))
    (slash : body.head? = some '/') : EmptyAt source (done.length + before.length) := by
  obtain ⟨body, rfl⟩ : ∃ after, body = '/' :: after := List.head?_eq_some_iff.mp slash
  rw [EmptyAt, whole, standsAt_append, ← Nat.add_zero before.length, standsAt_append]
  exact ⟨body, rfl⟩

/-- An empty comment stands at an opener or behind it. -/
theorem EmptyAt.behind (empty : EmptyAt source n)
    (whole : source = done ++ (before ++ (['/', '*', '*'] ++ body)))
    (first : ∀ n < before.length,
      ¬ StandsAt ['/', '*', '*'] (before ++ (['/', '*', '*'] ++ body)) n)
    (ahead : done.length ≤ n) :
    n = done.length + before.length ∨ done.length + before.length + 3 ≤ n := by
  have stands := (emptyAt_iff.mp empty).1
  rcases Nat.lt_trichotomy n (done.length + before.length) with front | here | behind
  · exact absurd stands (not_standsAt_before whole first ahead front)
  · exact .inl here
  · refine .inr (Nat.le_of_not_lt fun early => ?_)
    exact not_standsAt_within whole behind early stands

/-- By induction along the search, as `scan_blocksFrom`. -/
theorem scan_emptiesFrom (cursor : Nat) (rest : List Char) (done : List Char)
    (whole : source = done ++ rest) (here : cursor = done.length) :
    ∃ spans, Scan source cursor spans ∧ ∀ n, n ∈ emptiesFrom cursor rest ↔
      cursor ≤ n ∧ EmptyAt source n ∧ ∀ s ∈ spans, ¬ s.Covers n := by
  fun_induction emptiesFrom cursor rest generalizing done with
  | case1 cursor rest unopened =>
    subst here
    refine ⟨[], scan_unopened whole unopened, fun n => ⟨nofun, ?_⟩⟩
    rintro ⟨ahead, empty, -⟩
    obtain ⟨n, rfl⟩ := Nat.exists_eq_add_of_le ahead
    have stands := (emptyAt_iff.mp empty).1
    rw [whole, standsAt_append] at stands
    exact absurd stands (splitOnce?_eq_none unopened n)
  | case2 cursor rest before body opener start slash ih =>
    subst here
    obtain ⟨rfl, first⟩ := splitOnce?_eq_some opener
    have slash : body.head? = some '/' := by simpa using slash
    obtain ⟨spans, scan, passed⟩ := ih (done ++ before ++ ['/', '*', '*']) (by simp [whole])
      (by simp [start, Nat.add_assoc])
    have behind (s) (member : s ∈ spans) : start + 3 ≤ s.opener := scan.apart.1 s member
    refine ⟨spans, scan_passed whole opener slash (by simpa [start, Nat.add_assoc] using scan),
      fun n => ?_⟩
    rw [List.mem_cons, passed]
    constructor
    · rintro (rfl | ⟨ahead, empty, outside⟩)
      · refine ⟨Nat.le_add_right .., emptyAt_of_split whole slash, ?_⟩
        rintro s member ⟨inside, -⟩
        have := behind s member
        omega
      · exact ⟨by omega, empty, outside⟩
    · rintro ⟨ahead, empty, outside⟩
      exact (empty.behind whole first ahead).imp id
        fun behind => ⟨behind, empty, outside⟩
  | case3 cursor rest before body opener plain unclosed =>
    subst here
    obtain ⟨rfl, first⟩ := splitOnce?_eq_some opener
    refine ⟨[], scan_unclosed whole opener unclosed, fun n => ⟨nofun, ?_⟩⟩
    rintro ⟨ahead, empty, -⟩
    rcases empty.behind whole first ahead with rfl | behind
    · exact absurd ((opensAt_iff whole).mpr (by simpa using plain)) empty.not_opensAt
    · obtain ⟨m, after, stands⟩ := empty.ended (k := done.length + before.length) (by omega)
      obtain ⟨k, rfl⟩ := Nat.exists_eq_add_of_le after
      exact absurd ((mayEnd_iff whole).mp ⟨after, stands⟩) (splitOnce?_eq_none unclosed k)
  | case4 cursor rest before body opener start plain raw after closer ih =>
    subst here
    obtain ⟨rfl, first⟩ := splitOnce?_eq_some opener
    have plain : body.head? ≠ some '/' := by simpa using plain
    obtain ⟨rfl, -⟩ := splitOnce?_eq_some closer
    have length : (done ++ before ++ ['/', '*', '*'] ++ raw ++ ['*', '/']).length =
        start + 3 + raw.length + 2 := by
      simp only [start, List.length_append, List.length_cons, List.length_nil]
    obtain ⟨spans, scan, passed⟩ := ih (done ++ before ++ ['/', '*', '*'] ++ raw ++ ['*', '/'])
      (by simp [whole]) length.symm
    refine ⟨_, scan_found whole opener plain closer (length ▸ scan), fun n => ?_⟩
    rw [passed, List.forall_mem_cons]
    constructor
    · rintro ⟨ahead, empty, outside⟩
      exact ⟨by omega, empty, fun inside => absurd inside.2 (Nat.not_lt.mpr ahead), outside⟩
    · rintro ⟨ahead, empty, passedOver, outside⟩
      refine ⟨Nat.le_of_not_lt fun early => passedOver ⟨?_, early⟩, empty, outside⟩
      rcases empty.behind whole first ahead with rfl | behind
      · exact Nat.le_refl _
      · exact Nat.le_trans (Nat.le_add_right ..) behind

/-- The empty comments that are passed over are those that stand in no doc comment. -/
theorem exists_scan_empties (source : List Char) :
    ∃ spans, Scan source 0 spans ∧ ∀ n, n ∈ empties source ↔
      EmptyAt source n ∧ ∀ s ∈ spans, ¬ s.Covers n := by
  obtain ⟨spans, scan, passed⟩ := @scan_emptiesFrom source 0 source [] rfl rfl
  exact ⟨spans, scan, fun n => by rw [empties, passed, and_iff_right (Nat.zero_le n)]⟩

/-! ### Blanks in their place -/

/-- The text with a blank for every character at a place that is `hit`. -/
def blankOut (hit : Nat → Bool) (source : List Char) : List Char :=
  source.mapIdx fun i c => if hit i then ' ' else c

/-- The places of the first `width` characters of what stands at one of `starts`. -/
def within (width : Nat) (starts : List Nat) (i : Nat) : Bool :=
  starts.any fun n => n ≤ i && i < n + width

theorem within_iff {width i : Nat} {starts : List Nat} :
    within width starts i ↔ ∃ n ∈ starts, n ≤ i ∧ i < n + width := by
  simp [within]

/-- What a doc comment says, and the line it is on. -/
def Block.heading (b : Block) : List Char × Nat := (b.text, b.line)

section Blanks

variable {hit : Nat → Bool}

theorem getElem?_blankOut (i : Nat) :
    (blankOut hit source)[i]? = source[i]?.map fun c => if hit i then ' ' else c :=
  List.getElem?_mapIdx

/-- What has no blank in it stands only where nothing was hit. -/
theorem standsAt_blankOut {pattern : List Char} (solid : ' ' ∉ pattern) :
    StandsAt pattern (blankOut hit source) n ↔
      StandsAt pattern source n ∧ ∀ i < pattern.length, hit (n + i) = false := by
  simp only [standsAt_iff, getElem?_blankOut, Option.map_eq_some_iff]
  constructor
  · intro stands
    have each (i) (small : i < pattern.length) :
        source[n + i]? = some pattern[i] ∧ hit (n + i) = false := by
      obtain ⟨c, here, same⟩ := stands i small
      cases missed : hit (n + i) with
      | true =>
        rw [missed, if_pos rfl] at same
        exact absurd (same ▸ List.getElem_mem small) solid
      | false =>
        rw [missed, if_neg Bool.false_ne_true] at same
        exact ⟨same ▸ here, rfl⟩
    exact ⟨fun i small => (each i small).1, fun i small => (each i small).2⟩
  · rintro ⟨stands, missed⟩ i small
    exact ⟨_, stands i small, by rw [missed i small, if_neg Bool.false_ne_true]⟩

theorem opensAt_of_blankOut (opens : OpensAt (blankOut hit source) n)
    (empty : EmptyAt source n → hit n) : OpensAt source n := by
  obtain ⟨stands, missed⟩ := (standsAt_blankOut (by decide)).mp opens.1
  refine ⟨stands, fun slash => ?_⟩
  have := empty (emptyAt_iff.mpr ⟨stands, slash⟩)
  rw [show hit n = false from missed 0 (by decide)] at this
  cases this

theorem opensAt_blankOut (opens : OpensAt source n) (missed : ∀ i < 3, hit (n + i) = false) :
    OpensAt (blankOut hit source) n := by
  refine ⟨(standsAt_blankOut (by decide)).mpr ⟨opens.1, missed⟩, fun slash => ?_⟩
  rw [getElem?_blankOut, Option.map_eq_some_iff] at slash
  obtain ⟨c, here, same⟩ := slash
  split at same
  · cases same
  · exact opens.2 (here.trans (congrArg some same))

theorem mayEnd_of_blankOut {m : Nat} (ends : MayEnd (blankOut hit source) n m) :
    MayEnd source n m :=
  ⟨ends.1, ((standsAt_blankOut (by decide)).mp ends.2).1⟩

/-- Blanks in place of what the search passes over leave what it finds where it is. -/
theorem Scan.blankOut (scan : Scan source cursor spans)
    (empty : ∀ n, cursor ≤ n → EmptyAt source n → (∀ s ∈ spans, ¬ s.Covers n) → hit n)
    (missed : ∀ s ∈ spans, ∀ i, s.Covers i → hit i = false) :
    Scan (blankOut hit source) cursor spans := by
  induction scan with
  | done unended =>
    refine .done fun n ahead opens => ?_
    rintro ⟨m, ends⟩
    have opens := opensAt_of_blankOut opens fun stands => empty n ahead stands nofun
    exact unended n ahead opens ⟨m, mayEnd_of_blankOut ends⟩
  | @next cursor n m spans ahead opens ends first soonest rest ih =>
    obtain ⟨here, later⟩ := List.forall_mem_cons.mp missed
    have kept (i) (behind : n ≤ i) (front : i < m + 2) : hit i = false := here i ⟨behind, front⟩
    have := ends.1
    refine .next ahead (opensAt_blankOut opens fun i small => kept _ (by omega) (by omega))
      ⟨ends.1, (standsAt_blankOut (by decide)).mpr
        ⟨ends.2, fun i (small : i < 2) => kept _ (by omega) (by omega)⟩⟩
      (fun k behind front opens => ?_)
      (fun k early ends => soonest k early (mayEnd_of_blankOut ends))
      (ih (fun k behind stands outside => ?_) later)
    · rintro ⟨l, ends⟩
      have opens := opensAt_of_blankOut opens fun stands => empty k behind stands ?_
      · exact first k behind front opens ⟨l, mayEnd_of_blankOut ends⟩
      · refine List.forall_mem_cons.mpr ⟨fun inside => absurd inside.1 (Nat.not_le.mpr front), ?_⟩
        rintro s member ⟨inside, -⟩
        have : m + 2 ≤ s.opener := rest.apart.1 s member
        omega
    · exact empty k (by omega) stands (List.forall_mem_cons.mpr
        ⟨fun inside => absurd inside.2 (Nat.not_lt.mpr behind), outside⟩)

theorem between_blankOut {s : Span} (missed : ∀ i, s.Covers i → hit i = false) :
    s.between (blankOut hit source) = s.between source := by
  refine List.ext_getElem? fun i => ?_
  simp only [Span.between, List.getElem?_take, List.getElem?_drop, getElem?_blankOut]
  split
  · rw [missed _ ⟨by omega, by omega⟩]
    simp
  · rfl

theorem countNewlines_blankOut (solid : ∀ i, hit i → source[i]? ≠ some '\n') :
    countNewlines (blankOut hit source) = countNewlines source := by
  induction source generalizing hit with
  | nil => rfl
  | cons c source ih =>
    have tail : countNewlines (blankOut (fun i => hit (i + 1)) source) = countNewlines source :=
      ih fun i struck => by simpa using solid (i + 1) struck
    rw [blankOut, List.mapIdx_cons, countNewlines, List.count_cons]
    show countNewlines (blankOut (fun i => hit (i + 1)) source) + _ = _
    rw [tail, countNewlines, countNewlines, List.count_cons]
    cases struck : hit 0 with
    | false => rfl
    | true =>
      have head : c ≠ '\n' := by simpa using solid 0 struck
      simp [head]

theorem take_blankOut (n : Nat) : (blankOut hit source).take n = blankOut hit (source.take n) := by
  refine List.ext_getElem? fun i => ?_
  simp only [List.getElem?_take, getElem?_blankOut]
  split <;> rfl

theorem heading_blankOut {s : Span} (missed : ∀ i, s.Covers i → hit i = false)
    (solid : ∀ i, hit i → source[i]? ≠ some '\n') :
    (s.block (blankOut hit source)).heading = (s.block source).heading := by
  have lines : countNewlines ((blankOut hit source).take s.opener) =
      countNewlines (source.take s.opener) := by
    rw [take_blankOut]
    refine countNewlines_blankOut fun i struck => ?_
    rw [List.getElem?_take]
    split
    · exact solid i struck
    · exact nofun
  simp only [Block.heading, Span.block, between_blankOut missed, lines]

end Blanks

/-! ### Whether that changes anything -/

/-- Blanks in place of the characters of empty comments change nothing where they leave the openers
of doc comments alone. -/
theorem headings_within {width : Nat} (scan : Scan source 0 spans)
    (passed : ∀ n, n ∈ empties source ↔ EmptyAt source n ∧ ∀ s ∈ spans, ¬ s.Covers n)
    (positive : 0 < width) (narrow : width ≤ 4)
    (apart : ∀ n ∈ empties source, ∀ s ∈ spans, n < s.opener → n + width ≤ s.opener) :
    (blocks (blankOut (within width (empties source)) source)).map Block.heading =
      (blocks source).map Block.heading := by
  have missed (s) (member : s ∈ spans) (i) (inside : s.Covers i) :
      within width (empties source) i = false := by
    rw [Bool.eq_false_iff, Ne, within_iff]
    rintro ⟨n, passedOver, behind, front⟩
    by_cases before : n < s.opener
    · have := apart n passedOver s member before
      have := inside.1
      omega
    · have := inside.2
      exact ((passed n).mp passedOver).2 s member ⟨by omega, by omega⟩
  have solid (i) (struck : within width (empties source) i) : source[i]? ≠ some '\n' := by
    obtain ⟨n, passedOver, behind, front⟩ := within_iff.mp struck
    exact ((passed n).mp passedOver).1.not_newline behind (by omega)
  have blanked : Scan (blankOut (within width (empties source)) source) 0 spans := by
    refine scan.blankOut (fun n _ empty outside => within_iff.mpr ?_) missed
    exact ⟨n, (passed n).mpr ⟨empty, outside⟩, Nat.le_refl n, by omega⟩
  rw [blanked.blocks_eq, scan.blocks_eq, List.map_map, List.map_map]
  exact List.map_congr_left fun s member => heading_blankOut (missed s member) solid

/-- **Empty comments are inert up to their last slash.** The search passes over those that stand in
no doc comment. Blanks in place of the first three characters of each never change what a doc
comment says or its line. Blanks in place of all four do not either, and no opener has a character of
one, exactly if the last slash of none opens a comment that ends. -/
theorem empties_inert_iff (source : List Char) :
    ∃ spans, Scan source 0 spans ∧
      (∀ n, n ∈ empties source ↔ EmptyAt source n ∧ ∀ s ∈ spans, ¬ s.Covers n) ∧
      (blocks (blankOut (within 3 (empties source)) source)).map Block.heading =
        (blocks source).map Block.heading ∧
      (((blocks (blankOut (within 4 (empties source)) source)).map Block.heading =
          (blocks source).map Block.heading ∧
        ∀ n ∈ empties source, ∀ s ∈ spans, n + 4 ≤ s.opener ∨ s.opener + 3 ≤ n) ↔
      ∀ n ∈ empties source, ¬ (OpensAt source (n + 3) ∧ Ended source (n + 3))) := by
  obtain ⟨spans, scan, passed⟩ := exists_scan_empties source
  refine ⟨spans, scan, passed, headings_within scan passed (by omega) (by omega) ?_, ?_, ?_⟩
  · intro n passedOver s member before
    refine Nat.le_of_not_lt fun near => ?_
    have := ((passed n).mp passedOver).1.opener (scan.opens member).1 before (by omega)
    omega
  · rintro ⟨-, apart⟩ n passedOver ⟨opens, ended⟩
    obtain ⟨s, member, behind, front⟩ := scan.covered (Nat.zero_le _) opens ended
    have outside := ((passed n).mp passedOver).2 s member
    rcases apart n passedOver s member with before | after
    · omega
    · exact outside ⟨by omega, by omega⟩
  · intro closed
    have apart (n) (passedOver : n ∈ empties source) (s) (member : s ∈ spans)
        (before : n < s.opener) : n + 4 ≤ s.opener := by
      refine Nat.le_of_not_lt fun near => closed n passedOver ?_
      obtain ⟨opens, ends⟩ := scan.opens member
      have here := ((passed n).mp passedOver).1.opener opens before near
      exact ⟨here ▸ opens, s.closer, here ▸ ends⟩
    refine ⟨headings_within scan passed (by omega) (by omega) apart,
      fun n passedOver s member => ?_⟩
    by_cases before : n < s.opener
    · exact .inl (apart n passedOver s member before)
    · have outside := ((passed n).mp passedOver).2 s member
      have := (scan.opens member).2.1
      exact .inr (Nat.le_of_not_lt fun near => outside ⟨by omega, by omega⟩)

/-- The last slash of `/**/` opens a doc comment, which is lost when blanks stand there. -/
theorem empty_comment_opens :
    ¬ (blocks (blankOut (within 4 (empties "/**/** Area. */".toList)) "/**/** Area. */".toList)).map
        Block.heading = (blocks "/**/** Area. */".toList).map Block.heading := by
  have found : (blocks "/**/** Area. */".toList).map Block.heading = [("Area.".toList, 1)] := by
    decide +kernel
  have lost : blocks (blankOut (within 4 (empties "/**/** Area. */".toList))
      "/**/** Area. */".toList) = [] := by decide +kernel
  rw [found, lost]
  exact nofun

end RefDoc.Comment
