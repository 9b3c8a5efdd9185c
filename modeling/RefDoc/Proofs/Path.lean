import Mathlib.Data.List.Induction
import RefDoc.Proofs.FileTree.Ways
import RefDoc.Proofs.Text.Split

/-!
# Paths of one directory

The names that a path in a directory goes through are those of the directory and the name in it
(`steps_join`). With its last name replaced a path goes through the same names, but for dots
(`steps_withFileName`), so that both lead to the same directory.
-/

namespace RefDoc

open Text (splitAll)

/-! ### Pieces between slashes -/

namespace FileTree

/-- The names between the slashes of a path. -/
def through (p : Path) : List String :=
  ((splitAll (· == '/') p.text.toList).map String.ofList).filter (· ≠ "")

/-- What a path goes through besides is at most a dot. -/
theorem steps_eq_through (p : Path) :
    ∃ dots, (∀ s ∈ dots, s = ".") ∧ steps p = through p ++ dots := by
  refine ⟨_, fun s member => ?_, rfl⟩
  split at member
  · simpa using member
  · cases member

theorem steps_of_slash {p : Path} {cs : List Char} (ends : p.text.toList = cs ++ ['/']) :
    steps p = through p ++ ["."] := by
  have split : splitAll (· == '/') p.text.toList = splitAll (· == '/') cs ++ [[]] := by
    rw [ends, Text.splitAll_append (by rfl), splitAll]
  have last : ((splitAll (· == '/') p.text.toList).map String.ofList).getLast? = some "" := by
    rw [split, List.map_append, List.map_singleton, List.getLast?_concat]
  simp only [steps, through, last]
  rfl

theorem steps_of_name {p : Path} {texts : List String} {name : String}
    (split : (splitAll (· == '/') p.text.toList).map String.ofList = texts ++ [name])
    (written : name ≠ "") : steps p = texts.filter (· ≠ "") ++ [name] := by
  have named : (some name == some "") = false := by simpa using written
  simp only [steps, split, List.getLast?_concat, named, List.filter_append]
  simp [written]

end FileTree

/-! ### Paths in a directory -/

/-- The name of something in a directory. -/
structure IsEntry (name : String) : Prop where
  written : name ≠ ""
  proper : FileTree.Proper name
  whole : '/' ∉ name.toList

theorem IsEntry.split {name : String} (entry : IsEntry name) :
    splitAll (· == '/') name.toList = [name.toList] :=
  Text.splitAll_whole fun c member => by
    rw [beq_eq_false_iff_ne]
    rintro rfl
    exact entry.whole member

theorem IsEntry.relative {name : String} (entry : IsEntry name) :
    Path.isAbsolute ⟨name⟩ = false := by
  have first : name.toList.head? ≠ some '/' := fun slash => entry.whole (List.mem_of_head? slash)
  simpa [Path.isAbsolute] using first

namespace Path

variable {dir : Path} {name : String}

theorem join_text (dir : Path) (relative : isAbsolute ⟨name⟩ = false) :
    (dir.text = "" ∧ (dir / ⟨name⟩ : Path).text = name) ∨
      ∃ cs, (dir / ⟨name⟩ : Path).text.toList = cs ++ '/' :: name.toList ∧ dir.text ≠ "" ∧
        (dir.text.toList = cs ∨ dir.text.toList = cs ++ ['/']) := by
  show (dir.text = "" ∧ (dir.join ⟨name⟩).text = name) ∨ ∃ cs, (dir.join ⟨name⟩).text.toList = _ ∧ _
  unfold join
  rw [relative]
  by_cases empty : dir.text = ""
  · exact .inl ⟨empty, by simp [empty]⟩
  · right
    by_cases slash : dir.text.toList.getLast? = some '/'
    · obtain ⟨cs, ends⟩ := List.getLast?_eq_some_iff.mp slash
      exact ⟨cs, by simp [ends], empty, .inr ends⟩
    · exact ⟨dir.text.toList, by simp [empty, slash], empty, .inl rfl⟩

theorem through_of_join {cs : List Char}
    (text : dir.text.toList = cs ∨ dir.text.toList = cs ++ ['/']) :
    FileTree.through dir = ((splitAll (· == '/') cs).map String.ofList).filter (· ≠ "") := by
  unfold FileTree.through
  rcases text with text | text
  · rw [text]
  · rw [text, Text.splitAll_append (by rfl), List.map_append, List.filter_append]
    simp [splitAll]

theorem split_join (dir : Path) (entry : IsEntry name) : ∃ texts,
    (splitAll (· == '/') (dir / ⟨name⟩ : Path).text.toList).map String.ofList = texts ++ [name] ∧
      texts.filter (· ≠ "") = FileTree.through dir := by
  have whole : (splitAll (· == '/') name.toList).map String.ofList = [name] := by
    rw [entry.split, List.map_singleton, String.ofList_toList]
  rcases join_text dir entry.relative with ⟨empty, text⟩ | ⟨cs, text, -, written⟩
  · refine ⟨[], by rw [text, whole]; rfl, ?_⟩
    rw [FileTree.through, empty]
    rfl
  · exact ⟨_, by rw [text, Text.splitAll_append (by rfl), List.map_append, whole],
      (through_of_join written).symm⟩

theorem steps_join (entry : IsEntry name) :
    FileTree.steps (dir / ⟨name⟩) = FileTree.through dir ++ [name] := by
  obtain ⟨texts, split, through⟩ := split_join dir entry
  rw [FileTree.steps_of_name split entry.written, through]

/-- A relative path from a directory goes through the names of the directory first. -/
theorem steps_join_relative (relative : isAbsolute ⟨name⟩ = false) :
    FileTree.steps (dir / ⟨name⟩) = FileTree.through dir ++ FileTree.steps ⟨name⟩ := by
  rcases join_text dir relative with ⟨empty, text⟩ | ⟨cs, text, -, written⟩
  · have joined : dir / ⟨name⟩ = (⟨name⟩ : Path) := congrArg Path.mk text
    rw [joined, FileTree.through, empty]
    rfl
  · have more : (splitAll (· == '/') name.toList).map String.ofList ≠ [] := by
      simpa using Text.splitAll_ne_nil (· == '/') name.toList
    have split : (splitAll (· == '/') (dir / ⟨name⟩ : Path).text.toList).map String.ofList =
        (splitAll (· == '/') cs).map String.ofList ++
          (splitAll (· == '/') name.toList).map String.ofList := by
      rw [text, Text.splitAll_append (by rfl), List.map_append]
    rw [through_of_join written]
    simp only [FileTree.steps, split, List.getLast?_append, List.getLast?_eq_some_getLast more,
      Option.some_or, List.filter_append, List.append_assoc]

theorem isAbsolute_join (relative : isAbsolute ⟨name⟩ = false) :
    (dir / ⟨name⟩ : Path).isAbsolute = dir.isAbsolute := by
  rcases join_text dir relative with ⟨empty, text⟩ | ⟨cs, text, given, written⟩
  · have joined : (dir / ⟨name⟩ : Path).isAbsolute = isAbsolute ⟨name⟩ := by
      simp only [isAbsolute, text]
    rw [joined, relative, isAbsolute, empty]
    rfl
  · simp only [isAbsolute, text]
    rcases written with written | written <;> rw [written]
    · cases cs with
      | nil => exact absurd (by simpa using written) given
      | cons => rfl
    · cases cs <;> rfl

theorem isEmpty_join (entry : IsEntry name) : (dir / ⟨name⟩ : Path).text.isEmpty = false := by
  have written := entry.written
  rcases join_text dir entry.relative with ⟨-, text⟩ | ⟨cs, text, -⟩
  · simpa [text] using written
  · rw [Bool.eq_false_iff]
    intro empty
    simp [String.isEmpty_iff.mp empty] at text

/-! ### The directory of a path -/

theorem pieces_texts (offset : Nat) (piece cs : List Char) :
    (pieces offset piece cs).map (·.1) =
      ((splitAll (· == '/') cs).modifyHead (piece.reverse ++ ·)).map String.ofList := by
  induction cs generalizing offset piece with
  | nil => simp [pieces, splitAll]
  | cons c cs ih =>
    by_cases slash : c = '/'
    · subst slash
      rw [pieces, List.map_cons, ih, splitAll]
      cases splitAll (· == '/') cs <;> simp
    · have kept : (c == '/') = false := by simpa using slash
      obtain ⟨first, others, split⟩ :=
        List.exists_cons_of_ne_nil (Text.splitAll_ne_nil (· == '/') cs)
      rw [pieces, splitAll]
      · simp only [kept, split, ih]
        simp
      · simpa using slash

theorem pieces_texts_whole (cs : List Char) :
    (pieces 0 [] cs).map (·.1) = (splitAll (· == '/') cs).map String.ofList := by
  rw [pieces_texts]
  cases splitAll (· == '/') cs <;> rfl

theorem through_eq_pieces (p : Path) : FileTree.through p =
    ((pieces 0 [] p.text.toList).map (·.1)).filter (· ≠ "") := by
  rw [pieces_texts_whole, FileTree.through]

/-- The pieces up to one of them are those of the text up to its end. -/
theorem pieces_take {offset : Nat} {piece cs : List Char} {before after : List (String × Nat)}
    {s : String} {k : Nat} (split : pieces offset piece cs = before ++ (s, k) :: after) :
    ∃ n, k = offset + n ∧ pieces offset piece (cs.take n) = before ++ [(s, k)] := by
  induction cs generalizing offset piece before with
  | nil =>
    obtain ⟨rfl, same, rfl⟩ : before = [] ∧ (String.ofList piece.reverse, offset) = (s, k) ∧
        after = [] := by
      cases before <;> simp_all [pieces]
    cases same
    exact ⟨0, rfl, rfl⟩
  | cons c cs ih =>
    by_cases slash : c = '/'
    · subst slash
      rw [pieces] at split
      cases before with
      | nil =>
        cases split
        exact ⟨0, rfl, rfl⟩
      | cons first before =>
        obtain ⟨rfl, others⟩ := List.cons.inj split
        obtain ⟨n, rfl, taken⟩ := ih others
        exact ⟨n + 1, by omega, by rw [List.take_succ_cons, pieces, taken]; rfl⟩
    · have other (rest : List Char) :
          pieces offset piece (c :: rest) = pieces (offset + 1) (c :: piece) rest := by
        rw [pieces]
        simpa using slash
      rw [other] at split
      obtain ⟨n, rfl, taken⟩ := ih split
      exact ⟨n + 1, by omega, by rw [List.take_succ_cons, other, taken]⟩

/-- Of what is kept of a list, the last comes from a place behind which nothing is kept. -/
theorem filterMap_getLast? {α β : Type} {f : α → Option β} {l : List α} {b : β}
    (last : (l.filterMap f).getLast? = some b) :
    ∃ before a after, l = before ++ a :: after ∧ f a = some b ∧ ∀ x ∈ after, f x = none := by
  induction l using List.reverseRecOn with
  | nil => cases last
  | append_singleton l a ih =>
    rw [List.filterMap_append] at last
    cases kept : f a with
    | some c =>
      rw [List.filterMap_cons_some kept, List.filterMap_nil, List.getLast?_concat] at last
      cases last
      exact ⟨l, a, [], rfl, kept, nofun⟩
    | none =>
      rw [List.filterMap_cons_none kept, List.filterMap_nil, List.append_nil] at last
      obtain ⟨before, a', after, rfl, kept', none⟩ := ih last
      refine ⟨before, a', after ++ [a], by simp, kept', ?_⟩
      simpa [or_imp, forall_and, kept] using none

theorem componentOf?_eq_none {piece : String} :
    componentOf? false piece = none ↔ piece = "" ∨ piece = "." := by
  unfold componentOf?
  by_cases empty : piece = "" <;> by_cases dot : piece = "." <;> by_cases up : piece = ".." <;>
    simp [empty, dot, up]

/-- The component of a piece, with the end of the piece. -/
def placed (first : Bool) (piece : String × Nat) : Option (Component × Nat) :=
  (componentOf? first piece.1).map fun c => (c, piece.2)

theorem placed_eq_none {piece : String × Nat} :
    placed false piece = none ↔ piece.1 = "" ∨ piece.1 = "." := by
  rw [placed, Option.map_eq_none_iff, componentOf?_eq_none]

theorem placed_written {first : Bool} {piece : String × Nat} {c : Component} {k : Nat}
    (given : placed first piece = some (c, k)) : piece = (piece.1, k) ∧ piece.1 ≠ "" := by
  obtain ⟨c', component, same⟩ := Option.map_eq_some_iff.mp given
  cases same
  refine ⟨rfl, fun empty => ?_⟩
  rw [empty] at component
  cases component

theorem placed_entry (entry : IsEntry name) (first : Bool) (n : Nat) :
    placed first (name, n) = some (.name name, n) := by
  simp [placed, componentOf?, entry.written, entry.proper.1, entry.proper.2]

theorem placed_first {piece : String × Nat} (written : piece.1 ≠ "") :
    ∃ c, placed true piece = some c := by
  unfold placed componentOf?
  rw [if_neg written]
  split
  · exact ⟨_, rfl⟩
  · split <;> exact ⟨_, rfl⟩

/-- What the pieces before the last one give. -/
def placedBefore (p : Path) (before : List (String × Nat)) : List (Component × Nat) :=
  if p.isAbsolute then (.root, 1) :: before.filterMap (placed false)
  else
    match before with
    | [] => []
    | first :: others => (placed true first).toList ++ others.filterMap (placed false)

variable {p : Path} {before : List (String × Nat)} {n : Nat}

theorem placedComponents_concat (entry : IsEntry name)
    (split : pieces 0 [] p.text.toList = before ++ [(name, n)]) :
    p.placedComponents = placedBefore p before ++ [(.name name, n)] := by
  have tail (l : List (String × Nat)) : (l ++ [(name, n)]).filterMap (placed false) =
      l.filterMap (placed false) ++ [(.name name, n)] := by
    rw [List.filterMap_append, List.filterMap_cons_some (placed_entry entry false n),
      List.filterMap_nil]
  have components : p.placedComponents =
      if p.isAbsolute then (.root, 1) :: (pieces 0 [] p.text.toList).filterMap (placed false)
      else
        match pieces 0 [] p.text.toList with
        | [] => []
        | first :: others => (placed true first).toList ++ others.filterMap (placed false) := rfl
  rw [components, split]
  unfold placedBefore
  split
  · rw [tail, List.cons_append]
  · cases before with
    | nil => simp [placed_entry entry]
    | cons first others => simp [tail]

theorem parent?_of_placed {front : List (Component × Nat)}
    (placed : p.placedComponents = front ++ [(.name name, n)]) :
    p.fileName? = some name ∧
      p.parent? = some (match front.getLast? with
        | none => ⟨""⟩
        | some (_, k) => ⟨String.ofList (p.text.toList.take k)⟩) := by
  constructor
  · simp [fileName?, components, placed]
  · rw [parent?, placed, List.reverse_concat]
    induction front using List.reverseRecOn with
    | nil => rfl
    | append_singleton front last => simp

theorem first_written {first : String × Nat} {others : List (String × Nat)}
    (relative : p.isAbsolute = false)
    (split : pieces 0 [] p.text.toList = first :: others) (others_given : others ≠ []) :
    first.1 ≠ "" := by
  cases chars : p.text.toList with
  | nil =>
    rw [chars] at split
    cases split
    exact absurd rfl others_given
  | cons c cs =>
    have kept : (c == '/') = false := by simpa [isAbsolute, chars] using relative
    have texts := pieces_texts_whole (c :: cs)
    obtain ⟨piece, more, split'⟩ :=
      List.exists_cons_of_ne_nil (Text.splitAll_ne_nil (· == '/') cs)
    rw [← chars, split, chars, splitAll] at texts
    simp only [kept, split'] at texts
    intro empty
    rw [List.map_cons, empty] at texts
    have same : "" = String.ofList (c :: piece) := (List.cons.inj texts).1
    exact absurd (congrArg String.toList same) (by simp)

/-- The last component of pieces comes from one with nothing but dots behind it. -/
theorem getLast?_placed {pieces : List (String × Nat)} {c : Component × Nat}
    (last : (pieces.filterMap (placed false)).getLast? = some c) :
    ∃ front s after, pieces = front ++ (s, c.2) :: after ∧ s ≠ "" ∧
      ∀ piece ∈ after, placed false piece = none := by
  obtain ⟨front, piece, after, rfl, given, ignored⟩ := filterMap_getLast? last
  obtain ⟨same, written⟩ := placed_written given
  exact ⟨front, piece.1, after, by rw [← same], written, ignored⟩

/-- The last component before the name: there is none, it is the root, or it is a piece with
nothing but dots behind it. -/
theorem getLast?_placedBefore (split : pieces 0 [] p.text.toList = before ++ [(name, n)]) :
    (before = [] ∧ p.isAbsolute = false ∧ (placedBefore p before).getLast? = none) ∨
      (p.isAbsolute ∧ (∀ piece ∈ before, placed false piece = none) ∧
        (placedBefore p before).getLast? = some (.root, 1)) ∨
      ∃ front s c after, before = front ++ (s, c.2) :: after ∧ s ≠ "" ∧
        (∀ piece ∈ after, placed false piece = none) ∧
          (placedBefore p before).getLast? = some c := by
  unfold placedBefore
  by_cases absolute : p.isAbsolute
  · rw [if_pos absolute, List.getLast?_cons]
    cases last : (before.filterMap (placed false)).getLast? with
    | none =>
      have ignored := List.filterMap_eq_nil_iff.mp (List.getLast?_eq_none_iff.mp last)
      exact .inr (.inl ⟨absolute, ignored, rfl⟩)
    | some c =>
      obtain ⟨front, s, after, before_eq, written, ignored⟩ := getLast?_placed last
      exact .inr (.inr ⟨front, s, c, after, before_eq, written, ignored, rfl⟩)
  · rw [if_neg absolute]
    have relative : p.isAbsolute = false := by simpa using absolute
    cases before with
    | nil => exact .inl ⟨rfl, relative, rfl⟩
    | cons first others =>
      right
      right
      cases last : (others.filterMap (placed false)).getLast? with
      | none =>
        have ignored := List.filterMap_eq_nil_iff.mp (List.getLast?_eq_none_iff.mp last)
        have written := first_written relative split (by simp)
        obtain ⟨c, counted⟩ := placed_first written
        obtain ⟨same, -⟩ := placed_written counted
        refine ⟨[], first.1, c, others, by rw [← same]; rfl, written, ignored, ?_⟩
        rw [List.getLast?_append, last, counted]
        rfl
      | some c =>
        obtain ⟨front, s, after, rfl, written, ignored⟩ := getLast?_placed last
        refine ⟨first :: front, s, c, after, rfl, written, ignored, ?_⟩
        rw [List.getLast?_append, last]
        rfl

theorem dots_of_placed {pieces : List (String × Nat)}
    (ignored : ∀ piece ∈ pieces, placed false piece = none) :
    ∀ s ∈ (pieces.map (·.1)).filter (· ≠ ""), s = "." := by
  intro s member
  obtain ⟨member, written⟩ := List.mem_filter.mp member
  obtain ⟨piece, given, rfl⟩ := List.mem_map.mp member
  exact (placed_eq_none.mp (ignored piece given)).resolve_left (of_decide_eq_true written)

/-- The path up to the end of a piece goes through the pieces up to it. -/
theorem through_take {s : String} {k : Nat} {front after : List (String × Nat)}
    (split : pieces 0 [] p.text.toList = front ++ (s, k) :: after) (written : s ≠ "") :
    isAbsolute ⟨String.ofList (p.text.toList.take k)⟩ = p.isAbsolute ∧
      FileTree.through ⟨String.ofList (p.text.toList.take k)⟩ =
        ((front ++ [(s, k)]).map (·.1)).filter (· ≠ "") := by
  obtain ⟨m, same, taken⟩ := pieces_take split
  obtain rfl : k = m := by omega
  have some_text : k ≠ 0 := by
    rintro rfl
    have single : [("", 0)] = front ++ [(s, 0)] := taken
    cases front with
    | nil =>
      cases single
      exact written rfl
    | cons => simp at single
  constructor
  · simp only [isAbsolute, String.toList_ofList, List.head?_take, if_neg some_text]
  · rw [through_eq_pieces, String.toList_ofList, taken]

/-- The directory of a path goes through the names before the last, but for dots behind them. -/
theorem parent?_through (entry : IsEntry name)
    (split : pieces 0 [] p.text.toList = before ++ [(name, n)]) :
    p.fileName? = some name ∧ ∃ dir dots, p.parent? = some dir ∧
      dir.isAbsolute = p.isAbsolute ∧ (∀ s ∈ dots, s = ".") ∧
        (before.map (·.1)).filter (· ≠ "") = FileTree.through dir ++ dots := by
  obtain ⟨named, parent⟩ := parent?_of_placed (placedComponents_concat entry split)
  refine ⟨named, ?_⟩
  rcases getLast?_placedBefore split with
    ⟨rfl, relative, last⟩ | ⟨absolute, ignored, last⟩ |
      ⟨front, s, c, after, rfl, written, ignored, last⟩
  · rw [last] at parent
    exact ⟨⟨""⟩, [], parent, by rw [relative]; rfl, nofun, rfl⟩
  · rw [last] at parent
    obtain ⟨cs, text⟩ : ∃ cs, p.text.toList = '/' :: cs := by
      cases chars : p.text.toList <;> simp_all [isAbsolute]
    have root : p.parent? = some ⟨"/"⟩ := by rw [parent, text]; rfl
    exact ⟨⟨"/"⟩, (before.map (·.1)).filter (· ≠ ""), root, by rw [absolute]; rfl,
      dots_of_placed ignored, rfl⟩
  · rw [last] at parent
    have split_at : pieces 0 [] p.text.toList = front ++ (s, c.2) :: (after ++ [(name, n)]) := by
      rw [split, List.append_assoc, List.cons_append]
    obtain ⟨absolute, through⟩ := through_take split_at written
    refine ⟨_, (after.map (·.1)).filter (· ≠ ""), parent, absolute, dots_of_placed ignored, ?_⟩
    rw [through, ← List.filter_append, ← List.map_append, List.append_assoc, List.singleton_append]

theorem pieces_join (dir : Path) (entry : IsEntry name) :
    ∃ before n, pieces 0 [] (dir / ⟨name⟩ : Path).text.toList = before ++ [(name, n)] ∧
      (before.map (·.1)).filter (· ≠ "") = FileTree.through dir := by
  obtain ⟨texts, split, through⟩ := split_join dir entry
  rw [← pieces_texts_whole] at split
  obtain ⟨before, last, pieces_eq, rfl, named⟩ := List.map_eq_append_iff.mp split
  obtain ⟨⟨_, n⟩, rfl, rfl⟩ := List.map_eq_singleton_iff.mp named
  exact ⟨before, n, pieces_eq, through⟩

/-- With its last name replaced, a path in a directory goes through the names of the directory, but
for dots behind them. -/
theorem steps_withFileName (dir : Path) {other : String} (entry : IsEntry name)
    (entry' : IsEntry other) :
    ∃ way dots, (∀ s ∈ dots, s = ".") ∧ FileTree.through dir = way ++ dots ∧
      FileTree.steps ((dir / ⟨name⟩ : Path).withFileName other) = way ++ [other] ∧
      ((dir / ⟨name⟩ : Path).withFileName other).isAbsolute = dir.isAbsolute ∧
      ((dir / ⟨name⟩ : Path).withFileName other).text.isEmpty = false := by
  obtain ⟨before, n, split, through⟩ := pieces_join dir entry
  obtain ⟨named, parent, dots, parent_eq, absolute, still, before_eq⟩ := parent?_through entry split
  have moved : (dir / ⟨name⟩ : Path).withFileName other = parent / ⟨other⟩ := by
    simp only [withFileName, named, parent_eq]
    rfl
  rw [isAbsolute_join entry.relative] at absolute
  refine ⟨FileTree.through parent, dots, still, through.symm.trans before_eq, ?_⟩
  rw [moved, isAbsolute_join entry'.relative, absolute]
  exact ⟨steps_join entry', rfl, isEmpty_join entry'⟩

end Path

end RefDoc
