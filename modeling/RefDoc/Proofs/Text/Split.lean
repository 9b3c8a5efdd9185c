import RefDoc.Text.Blank

/-!
# Splitting text

What is split off before a pattern stands before its first occurrence (`splitOnce?_eq_some`), and
cutting a text at every separator cuts each part of it for itself (`splitAll_append`). A pattern of
ASCII characters has a byte for each of them, so that positions in bytes and in characters move
alike over it (`StandsAt.bounded`).
-/

namespace RefDoc.Text

/-! ### Where a pattern stands -/

variable {sep cs before after : List Char}

/-- The pattern is what the text goes on with at `n`. -/
def StandsAt (pattern cs : List Char) (n : Nat) : Prop := pattern <+: cs.drop n

theorem standsAt_cons {pattern : List Char} {c : Char} {n : Nat} :
    StandsAt pattern (c :: cs) (n + 1) ↔ StandsAt pattern cs n := .rfl

theorem standsAt_append {pattern done : List Char} {n : Nat} :
    StandsAt pattern (done ++ cs) (done.length + n) ↔ StandsAt pattern cs n := by
  rw [StandsAt, List.drop_append, StandsAt, List.drop_of_length_le (Nat.le_add_right ..)]
  simp

theorem standsAt_iff {pattern : List Char} {n : Nat} :
    StandsAt pattern cs n ↔ ∀ i (_ : i < pattern.length), cs[n + i]? = some pattern[i] := by
  simp only [StandsAt, List.prefix_iff_getElem?, List.getElem?_drop]

theorem standsAt_pattern_nil {n : Nat} : StandsAt [] cs n := List.nil_prefix

theorem standsAt_pattern_cons {c : Char} {pattern : List Char} {n : Nat} :
    StandsAt (c :: pattern) cs n ↔ cs[n]? = some c ∧ StandsAt pattern cs (n + 1) := by
  simp only [standsAt_iff, List.length_cons]
  constructor
  · intro stands
    refine ⟨stands 0 (by omega), fun i small => ?_⟩
    rw [Nat.add_assoc, Nat.add_comm 1]
    exact stands (i + 1) (by omega)
  · rintro ⟨head, tail⟩ i small
    cases i with
    | zero => exact head
    | succ i =>
      rw [← Nat.add_assoc, Nat.add_right_comm]
      exact tail i (by omega)

theorem StandsAt.head {pattern : List Char} {c : Char} {n : Nat}
    (stands : StandsAt (c :: pattern) cs n) : cs[n]? = some c := by
  obtain ⟨rest, split⟩ := stands
  rw [← List.head?_drop, ← split]
  rfl

theorem StandsAt.length_le {pattern : List Char} {n : Nat} (stands : StandsAt pattern cs n)
    (written : pattern ≠ []) : n + pattern.length ≤ cs.length := by
  have shorter := List.IsPrefix.length_le stands
  have := List.length_pos_iff.mpr written
  rw [List.length_drop] at shorter
  omega

/-! ### The first occurrence -/

theorem splitOnce?_eq_none (unsplit : splitOnce? sep cs = none) (n : Nat) :
    ¬ StandsAt sep cs n := by
  induction cs generalizing n with
  | nil =>
    rintro stands
    simp only [splitOnce?, ite_eq_right_iff, reduceCtorEq, imp_false, List.isEmpty_iff] at unsplit
    simp only [StandsAt, List.drop_nil] at stands
    exact unsplit (List.prefix_nil.mp stands)
  | cons c cs ih =>
    rw [splitOnce?] at unsplit
    split at unsplit
    · cases unsplit
    · rename_i absent
      cases n with
      | zero => exact fun stands => absent (List.isPrefixOf_iff_prefix.mpr stands)
      | succ n =>
        rw [standsAt_cons]
        exact ih (Option.map_eq_none_iff.mp unsplit) n

theorem splitOnce?_eq_some (split : splitOnce? sep cs = some (before, after)) :
    cs = before ++ (sep ++ after) ∧ ∀ n < before.length, ¬ StandsAt sep cs n := by
  induction cs generalizing before with
  | nil =>
    rw [splitOnce?] at split
    split at split
    · rename_i empty
      obtain ⟨rfl, rfl⟩ := Prod.mk.inj (Option.some.inj split)
      exact ⟨by simp [List.isEmpty_iff.mp empty], by simp⟩
    · cases split
  | cons c cs ih =>
    rw [splitOnce?] at split
    split at split
    · rename_i found
      obtain ⟨rfl, rfl⟩ := Prod.mk.inj (Option.some.inj split)
      obtain ⟨rest, whole⟩ := List.isPrefixOf_iff_prefix.mp found
      exact ⟨by rw [← whole]; simp, by simp⟩
    · rename_i absent
      obtain ⟨⟨front, back⟩, split', same⟩ := Option.map_eq_some_iff.mp split
      obtain ⟨rfl, rfl⟩ := Prod.mk.inj same
      obtain ⟨whole, first⟩ := ih split'
      refine ⟨by rw [List.cons_append, ← whole], fun n early => ?_⟩
      cases n with
      | zero => exact fun stands => absent (List.isPrefixOf_iff_prefix.mpr stands)
      | succ n =>
        rw [standsAt_cons]
        exact first n (by simpa using early)

theorem splitOnce?_append
    (first : ∀ n < before.length, ¬ StandsAt sep (before ++ (sep ++ after)) n) :
    splitOnce? sep (before ++ (sep ++ after)) = some (before, after) := by
  induction before with
  | nil =>
    rw [List.nil_append]
    cases whole : sep ++ after with
    | nil =>
      obtain ⟨rfl, rfl⟩ := List.append_eq_nil_iff.mp whole
      rfl
    | cons c rest =>
      have found : sep.isPrefixOf (c :: rest) := List.isPrefixOf_iff_prefix.mpr ⟨after, whole⟩
      rw [splitOnce?, if_pos found, ← whole, List.drop_left]
  | cons c before ih =>
    have absent : ¬ sep.isPrefixOf (c :: (before ++ (sep ++ after))) :=
      fun found => first 0 (by simp) (List.isPrefixOf_iff_prefix.mp found)
    rw [List.cons_append, splitOnce?, if_neg absent, ih fun n early => ?_, Option.map_some]
    exact first (n + 1) (by simpa using early)

/-! ### Bytes -/

/-- The byte that the character at `n` begins with. -/
def byteAt (cs : List Char) (n : Nat) : String.Pos.Raw := (String.ofList (cs.take n)).rawEndPos

/-- What stands at `n` lies in the text, and from its first byte to the one behind it, both on a
boundary between characters, there are as many bytes as it has characters. -/
structure Bounded (pattern cs : List Char) (n : Nat) : Prop where
  within : n + pattern.length ≤ cs.length
  start : (byteAt cs n).IsValid (String.ofList cs)
  stop : (byteAt cs (n + pattern.length)).IsValid (String.ofList cs)
  bytes : (byteAt cs (n + pattern.length)).byteIdx = (byteAt cs n).byteIdx + pattern.length

theorem isValid_byteAt (cs : List Char) (n : Nat) : (byteAt cs n).IsValid (String.ofList cs) := by
  rw [String.Pos.Raw.isValid_iff_exists_append]
  refine ⟨String.ofList (cs.take n), String.ofList (cs.drop n), ?_, rfl⟩
  rw [← String.ofList_append, List.take_append_drop]

theorem utf8ByteSize_ascii {pattern : List Char} (ascii : ∀ c ∈ pattern, c.utf8Size = 1) :
    (String.ofList pattern).utf8ByteSize = pattern.length := by
  induction pattern with
  | nil => rfl
  | cons c pattern ih =>
    obtain ⟨one, ascii⟩ := List.forall_mem_cons.mp ascii
    rw [String.ofList_cons, String.utf8ByteSize_append, String.utf8ByteSize_singleton, one,
      ih ascii, List.length_cons, Nat.add_comm]

theorem StandsAt.bounded {pattern : List Char} {n : Nat} (stands : StandsAt pattern cs n)
    (written : pattern ≠ []) (ascii : ∀ c ∈ pattern, c.utf8Size = 1) : Bounded pattern cs n where
  within := stands.length_le written
  start := isValid_byteAt cs n
  stop := isValid_byteAt cs _
  bytes := by
    obtain ⟨rest, split⟩ := stands
    have front : cs.take (n + pattern.length) = cs.take n ++ pattern := by
      rw [List.take_add, ← split, List.take_left]
    show (String.ofList (cs.take (n + pattern.length))).utf8ByteSize = _
    rw [front, String.ofList_append, String.utf8ByteSize_append, utf8ByteSize_ascii ascii]
    rfl

/-! ### All separators -/

theorem splitAll_ne_nil (p : Char → Bool) (cs : List Char) : splitAll p cs ≠ [] := by
  induction cs with
  | nil => simp [splitAll]
  | cons c cs ih =>
    rw [splitAll]
    split
    · simp
    · split <;> simp

theorem splitAll_append {p : Char → Bool} {c : Char} (cut : p c) (cs more : List Char) :
    splitAll p (cs ++ c :: more) = splitAll p cs ++ splitAll p more := by
  induction cs with
  | nil => simp [splitAll, cut]
  | cons b cs ih =>
    rw [List.cons_append, splitAll, ih, splitAll]
    split
    · rfl
    · obtain ⟨piece, pieces, split⟩ := List.exists_cons_of_ne_nil (splitAll_ne_nil p cs)
      rw [split]
      rfl

theorem splitAll_whole {p : Char → Bool} (whole : ∀ c ∈ cs, p c = false) :
    splitAll p cs = [cs] := by
  induction cs with
  | nil => rfl
  | cons c cs ih =>
    obtain ⟨keep, whole⟩ := List.forall_mem_cons.mp whole
    rw [splitAll, ih whole, keep]
    rfl

end RefDoc.Text
