import RefDoc.Proofs.Json.Shown
import RefDoc.Proofs.Json.Spelling

/-!
# What is spelled is read

Reading a text that spells a value gives a tree that shows the value and stops right behind the text
(`readValue_spells`), so that a decoder makes of the written value what it makes of the value.
-/

namespace RefDoc.Json

namespace Cursor

theorem isSpace_iff {c : Char} : isSpace c ↔ c = ' ' ∨ c = '\n' ∨ c = '\t' ∨ c = '\r' := by
  simp [isSpace, or_assoc]

theorem skipSpace_gap {gap : List Char} (blank : Gap gap) {c : Char} (solid : isSpace c = false)
    (rest : List Char) (mark : Mark) :
    ∃ m, skipSpace ⟨gap ++ c :: rest, mark⟩ = ⟨c :: rest, m⟩ := by
  show ∃ m, skipSpace.go (gap ++ c :: rest) mark = _
  induction gap generalizing mark with
  | nil => exact ⟨mark, by simp [skipSpace.go, solid]⟩
  | cons b gap ih =>
    obtain ⟨space, blank⟩ := List.forall_mem_cons.mp blank
    obtain ⟨m, skipped⟩ := ih blank (mark.past b)
    exact ⟨m, by simpa [skipSpace.go, space] using skipped⟩

end Cursor

/-! ### Strings -/

theorem hexPair_control : ∀ k < 0x20, (hexPair k).length = 2 ∧
    Text.byteLength ('0' :: '0' :: hexPair k) = 4 ∧
      ('0' :: '0' :: hexPair k).mapM hexValue? = some [0, 0, k / 16, k % 16] := by
  decide

theorem readHex_control {k : Nat} (control : k < 0x20) (rest : List Char) (mark : Mark) :
    ∃ m, readHex ⟨'0' :: '0' :: (hexPair k ++ rest), mark⟩ = .ok (k, ⟨rest, m⟩) := by
  obtain ⟨two, size, digits⟩ := hexPair_control k control
  obtain ⟨h, l, pair⟩ := List.length_eq_two.mp two
  rw [pair] at size digits
  refine ⟨(((mark.past '0').past '0').past h).past l, ?_⟩
  have four : List.take 4 ('0' :: '0' :: ([h, l] ++ rest)) = ['0', '0', h, l] := rfl
  simp only [readHex, pair, four, size, digits, Nat.lt_irrefl, if_false]
  have value : [0, 0, k / 16, k % 16].foldl (fun n d => n * 16 + d) 0 = k := by
    simp only [List.foldl_cons, List.foldl_nil]
    omega
  rw [value]
  rfl

theorem readString_plain {c : Char} (quote : c ≠ '"') (backslash : c ≠ '\\')
    (printed : ¬ c.toNat < 0x20) (fuel : Nat) (chars : List Char) (strained : Option Fault)
    (rest : List Char) (mark : Mark) :
    readString (fuel + 1) chars strained ⟨c :: rest, mark⟩ =
      readString fuel (c :: chars) strained ⟨rest, mark.past c⟩ := by
  rw [readString]
  dsimp only
  split
  · contradiction
  · rename_i same
    cases same
    exact absurd rfl quote
  · rename_i same
    cases same
    exact absurd rfl backslash
  · rename_i same
    cases same
    rw [if_neg printed]
    rfl

theorem readString_hex {n : Nat} {rest : List Char} {mark : Mark} {next : Cursor} (fuel : Nat)
    (chars : List Char) (strained : Option Fault)
    (hex : readHex (Cursor.drop ⟨'\\' :: 'u' :: rest, mark⟩ 2) = .ok (n, next))
    (unpaired : n < 0xD800 ∨ 0xDFFF < n) :
    readString (fuel + 1) chars strained ⟨'\\' :: 'u' :: rest, mark⟩ =
      readString fuel (Char.ofNat n :: chars) strained next := by
  rw [readString]
  simp only [hex, if_pos unpaired]

theorem readString_escapeChar (fuel : Nat) (chars : List Char) (strained : Option Fault) (c : Char)
    (rest : List Char) (mark : Mark) :
    ∃ m, readString (fuel + 1) chars strained ⟨escapeChar c ++ rest, mark⟩ =
      readString fuel (c :: chars) strained ⟨rest, m⟩ := by
  unfold escapeChar
  split
  · exact ⟨_, rfl⟩
  · exact ⟨_, rfl⟩
  · exact ⟨_, rfl⟩
  · exact ⟨_, rfl⟩
  · exact ⟨_, rfl⟩
  · exact ⟨_, rfl⟩
  · exact ⟨_, rfl⟩
  · split
    · rename_i control
      obtain ⟨m, hex⟩ := readHex_control control rest ((mark.past '\\').past 'u')
      have unpaired : c.toNat < 0xD800 ∨ 0xDFFF < c.toNat := .inl (by omega)
      refine ⟨m, (readString_hex fuel chars strained hex unpaired).trans ?_⟩
      rw [Char.ofNat_toNat]
    · rename_i quote backslash _ _ _ _ _ printed
      exact ⟨_, readString_plain quote backslash printed fuel chars strained rest mark⟩

theorem readString_escaped (s : List Char) (fuel : Nat) (enough : s.length < fuel)
    (chars : List Char) (rest : List Char) (mark : Mark) :
    ∃ m, readString fuel chars none ⟨s.flatMap escapeChar ++ '"' :: rest, mark⟩ =
      .ok ⟨chars.reverse ++ s, none, ⟨rest, m⟩⟩ := by
  induction s generalizing fuel chars mark with
  | nil =>
    obtain ⟨fuel, rfl⟩ := Nat.exists_eq_add_of_lt enough
    refine ⟨mark.past '"', ?_⟩
    rw [List.append_nil]
    rfl
  | cons c s ih =>
    obtain ⟨fuel, rfl⟩ := Nat.exists_eq_add_of_lt enough
    obtain ⟨m, step⟩ := readString_escapeChar ((c :: s).length + fuel) chars none c
      (s.flatMap escapeChar ++ '"' :: rest) mark
    obtain ⟨m', read⟩ := ih ((c :: s).length + fuel) (by simp; omega) (c :: chars) m
    refine ⟨m', ?_⟩
    rw [List.flatMap_cons, List.append_assoc, step, read]
    simp

theorem length_le_escaped (s : List Char) : s.length ≤ (s.flatMap escapeChar).length := by
  have some (c : Char) : 1 ≤ (escapeChar c).length := by
    unfold escapeChar
    split <;> try exact Nat.succ_pos _
    split <;> exact Nat.succ_pos _
  induction s with
  | nil => exact Nat.le_refl 0
  | cons c s ih =>
    have := some c
    simp only [List.flatMap_cons, List.length_append, List.length_cons]
    omega

theorem readString_written (s : String) (rest : List Char) {fuel : Nat}
    (enough : (s.toList.flatMap escapeChar ++ '"' :: rest).length < fuel) (mark : Mark) :
    ∃ m, readString fuel [] none ⟨s.toList.flatMap escapeChar ++ '"' :: rest, mark⟩ =
      .ok ⟨s.toList, none, ⟨rest, m⟩⟩ := by
  refine readString_escaped s.toList fuel ?_ [] rest mark
  have := length_le_escaped s.toList
  simp only [List.length_append] at enough
  omega

theorem stringTree_written (s : String) (rest : List Char) (mark : Mark) :
    ∃ m stop, stringTree ⟨s.toList.flatMap escapeChar ++ '"' :: rest, mark⟩ =
      (.scalar (.string s) stop, some ⟨rest, m⟩) := by
  obtain ⟨m, read⟩ := readString_written s rest (Nat.lt_succ_self _) mark
  refine ⟨m, m, ?_⟩
  rw [stringTree, read]
  dsimp only
  rw [String.ofList_toList]

/-! ### Numbers -/

/-- What may stand behind a value. -/
def Behind (rest : List Char) : Prop :=
  ∀ c ∈ rest.head?, Cursor.isSpace c ∨ c = ',' ∨ c = ']' ∨ c = '\x7d'

theorem Behind.head_ne {rest : List Char} (behind : Behind rest) {c : Char}
    (other : ¬ (Cursor.isSpace c ∨ c = ',' ∨ c = ']' ∨ c = '\x7d')) (more : List Char) :
    rest ≠ c :: more := by
  rintro rfl
  exact other (behind c rfl)

theorem le_ofDigitChars (ds : List Char) (init : Nat) : init ≤ Nat.ofDigitChars 10 ds init := by
  induction ds generalizing init with
  | nil => exact Nat.le_refl _
  | cons c ds ih => exact Nat.le_trans (by omega) (ih (10 * init + (c.toNat - '0'.toNat)))

/-- Digits are taken in while their value fits. -/
theorem absorb_digits (ds : List Char) (init : Nat)
    (fits : Nat.ofDigitChars 10 ds init ≤ largestNatural) :
    absorb init ds = (Nat.ofDigitChars 10 ds init, []) := by
  induction ds generalizing init with
  | nil => rfl
  | cons c ds ih =>
    have next : init * 10 + digitValue c = 10 * init + (c.toNat - '0'.toNat) := by
      rw [digitValue, Nat.mul_comm]
    have small := Nat.le_trans (le_ofDigitChars ds (10 * init + (c.toNat - '0'.toNat))) fits
    rw [absorb]
    simp only [next, if_neg (Nat.not_lt.mpr small)]
    exact ih _ fits

theorem Cursor.drop_append (ds rest : List Char) (mark : Mark) :
    ∃ m, Cursor.drop ⟨ds ++ rest, mark⟩ ds.length = ⟨rest, m⟩ := by
  induction ds generalizing mark with
  | nil => exact ⟨mark, rfl⟩
  | cons c ds ih => exact ih (mark.past c)

theorem readFraction_behind (k : Nat) {rest : List Char} (behind : Behind rest) (mark : Mark) :
    readFraction true k 0 ⟨rest, mark⟩ =
      (.scalar (.number (.integer k)) mark, some ⟨rest, mark⟩) := by
  unfold readFraction
  split
  · rename_i more same
    exact absurd same (behind.head_ne (by decide) more)
  · rename_i more same
    exact absurd same (behind.head_ne (by decide) more)
  · rename_i more same
    exact absurd same (behind.head_ne (by decide) more)
  · rfl

theorem isAsciiDigit_of_mem {k : Nat} {c : Char} (member : c ∈ Nat.toDigits 10 k) :
    Text.isAsciiDigit c := by
  have digit := Nat.isDigit_of_mem_toDigits (by decide) (by decide) member
  simpa [Text.isAsciiDigit, Char.isDigit, Char.le_def] using digit

theorem head_toDigits {k : Nat} (positive : 0 < k) {c : Char} {ds : List Char}
    (digits : Nat.toDigits 10 k = c :: ds) : c ≠ '0' := by
  induction k using Nat.strongRecOn generalizing ds with
  | _ k ih =>
    rw [Nat.toDigits_eq_if (by decide)] at digits
    split at digits
    · cases digits
      simpa using Nat.ne_of_gt positive
    · obtain ⟨c', ds', split⟩ := List.exists_cons_of_ne_nil
        (Nat.toDigits_ne_nil (n := k / 10) (b := 10))
      rw [split] at digits
      cases digits
      exact ih (k / 10) (by omega) (by omega) split

theorem readNumber_toDigits {k : Nat} (fits : k ≤ largestNatural) {rest : List Char}
    (behind : Behind rest) (mark : Mark) :
    ∃ m stop, readNumber true ⟨Nat.toDigits 10 k ++ rest, mark⟩ =
      (.scalar (.number (.integer k)) stop, some ⟨rest, m⟩) := by
  have digits : (Nat.toDigits 10 k ++ rest).takeWhile Text.isAsciiDigit = Nat.toDigits 10 k := by
    rw [List.takeWhile_append_of_pos fun c member => isAsciiDigit_of_mem member]
    have ended : rest.takeWhile Text.isAsciiDigit = [] := by
      cases rest with
      | nil => rfl
      | cons c rest =>
        refine List.takeWhile_cons_of_neg fun digit => ?_
        refine behind.head_ne (c := c) ?_ rest rfl
        rintro (space | rfl | rfl | rfl)
        · rcases Cursor.isSpace_iff.mp space with rfl | rfl | rfl | rfl <;> cases digit
        all_goals cases digit
    rw [ended, List.append_nil]
  have value : Nat.ofDigitChars 10 (Nat.toDigits 10 k) 0 = k :=
    Nat.ofDigitChars_toDigits (by decide) (by decide)
  have taken : absorb 0 (Nat.toDigits 10 k) = (k, []) := by
    rw [absorb_digits _ _ (by rwa [value]), value]
  obtain ⟨m, dropped⟩ := Cursor.drop_append (Nat.toDigits 10 k) rest mark
  refine ⟨m, m, ?_⟩
  unfold readNumber
  dsimp only
  rw [digits]
  split
  · rename_i none _
    exact absurd none Nat.toDigits_ne_nil
  · rename_i none _
    exact absurd none Nat.toDigits_ne_nil
  · rename_i zero
    have : k = 0 := Nat.eq_zero_of_not_pos fun positive => head_toDigits positive zero rfl
    subst this
    exact (congrArg (readFraction true 0 0) dropped).trans (readFraction_behind 0 behind m)
  · rename_i zeros
    rcases Nat.eq_zero_or_pos k with rfl | positive
    · cases zeros
    · exact absurd rfl (head_toDigits positive zeros)
  · rw [taken, dropped]
    exact readFraction_behind k behind m

/-! ### Arrays and objects -/

section Lists

variable {α : Type} {S : α → List Char → Prop} {close : Char}

/-- Behind an item comes a comma or the closing bracket. -/
theorem Listed.behind {as : List α} {text : List Char} (listed : Listed S close false as text)
    (closes : close = ']' ∨ close = '\x7d') (rest : List Char) : Behind (text ++ rest) := by
  cases listed with
  | next => exact fun c head => .inr (.inl (by simpa using head.symm))
  | @closed _ gap blank =>
    intro c head
    cases gap with
    | nil =>
      obtain rfl : close = c := by simpa using head
      exact .inr (.inr closes)
    | cons b gap =>
      obtain rfl : b = c := by simpa using head
      exact .inl (blank b List.mem_cons_self)

/-- A value is ahead: no blank, no comma and no closing bracket. -/
def Ahead (text : List Char) : Prop :=
  ∃ c rest, text = c :: rest ∧ Cursor.isSpace c = false ∧ c ≠ ',' ∧ c ≠ ']'

theorem nextItem_first {gap text : List Char} (blank : Gap gap) (ahead : Ahead text) (mark : Mark) :
    ∃ m, nextItem true ⟨gap ++ text, mark⟩ = .inl ⟨text, m⟩ := by
  obtain ⟨c, rest, rfl, solid, comma, closed⟩ := ahead
  obtain ⟨m, skipped⟩ := Cursor.skipSpace_gap blank solid rest mark
  refine ⟨m, ?_⟩
  simp only [nextItem, skipped]
  split <;> simp_all

theorem nextItem_next {gap text : List Char} (blank : Gap gap) (ahead : Ahead text) (mark : Mark) :
    ∃ m, nextItem false ⟨',' :: (gap ++ text), mark⟩ = .inl ⟨text, m⟩ := by
  obtain ⟨c, rest, rfl, solid, comma, closed⟩ := ahead
  obtain ⟨m, skipped⟩ := Cursor.skipSpace_gap blank solid rest (mark.past ',')
  refine ⟨m, ?_⟩
  have behind : Cursor.skipSpace ⟨',' :: (gap ++ c :: rest), mark⟩ =
      ⟨',' :: (gap ++ c :: rest), mark⟩ := rfl
  simp only [nextItem, behind, Cursor.drop, skipped]
  split <;> simp_all

theorem nextItem_closed (first : Bool) {gap : List Char} (blank : Gap gap) (rest : List Char)
    (mark : Mark) :
    ∃ stop m, nextItem first ⟨gap ++ ']' :: rest, mark⟩ = .inr (.closed stop, some ⟨rest, m⟩) := by
  obtain ⟨m, skipped⟩ := Cursor.skipSpace_gap blank (c := ']') rfl rest mark
  exact ⟨_, _, by simp only [nextItem, skipped]; rfl⟩

theorem nextKey_first {gap : List Char} (blank : Gap gap) (rest : List Char) (mark : Mark) :
    ∃ m, nextKey true ⟨gap ++ '"' :: rest, mark⟩ = .inl ⟨'"' :: rest, m⟩ := by
  obtain ⟨m, skipped⟩ := Cursor.skipSpace_gap blank (c := '"') rfl rest mark
  exact ⟨m, by simp only [nextKey, skipped]⟩

theorem nextKey_next {gap : List Char} (blank : Gap gap) (rest : List Char) (mark : Mark) :
    ∃ m, nextKey false ⟨',' :: (gap ++ '"' :: rest), mark⟩ = .inl ⟨'"' :: rest, m⟩ := by
  obtain ⟨m, skipped⟩ := Cursor.skipSpace_gap blank (c := '"') rfl rest (mark.past ',')
  have behind : Cursor.skipSpace ⟨',' :: (gap ++ '"' :: rest), mark⟩ =
      ⟨',' :: (gap ++ '"' :: rest), mark⟩ := rfl
  exact ⟨m, by simp only [nextKey, behind, Cursor.drop, skipped]⟩

theorem nextKey_closed (first : Bool) {gap : List Char} (blank : Gap gap) (rest : List Char)
    (mark : Mark) :
    ∃ stop m, nextKey first ⟨gap ++ '\x7d' :: rest, mark⟩ =
      .inr (.closed stop, some ⟨rest, m⟩) := by
  obtain ⟨m, skipped⟩ := Cursor.skipSpace_gap blank (c := '\x7d') rfl rest mark
  exact ⟨_, _, by simp only [nextKey, skipped]; rfl⟩

theorem Listed.length_pos {first : Bool} {as : List α} {text : List Char}
    (listed : Listed S close first as text) : 0 < text.length := by
  induction listed <;> simp only [List.length_append, List.length_cons] <;> omega

theorem Ahead.length_pos {text : List Char} (ahead : Ahead text) : 0 < text.length := by
  obtain ⟨c, rest, rfl, -⟩ := ahead
  exact Nat.succ_pos _

theorem Ahead.append {text : List Char} (ahead : Ahead text) (more : List Char) :
    Ahead (text ++ more) := by
  obtain ⟨c, rest, rfl, solid⟩ := ahead
  exact ⟨c, rest ++ more, rfl, solid⟩

/-- The text is read as the value, inside `depth` arrays and objects and whatever stands around. -/
def ReadsBack (depth : Nat) (v : Json) (text : List Char) : Prop :=
  ∀ fuel gap rest mark, 2 * text.length ≤ fuel → Gap gap → Behind rest →
    ∃ tree m, readValue fuel depth ⟨gap ++ (text ++ rest), mark⟩ = (tree, some ⟨rest, m⟩) ∧
      Shows v tree

variable {depth : Nat} {first : Bool} {cur : Cursor} {fuel : Nat} {rest : List Char}

/-- The items are read to the closing bracket. -/
def ItemsRead (values : List Json) (rest : List Char)
    (read : List (Item Tree) × Ending × Option Cursor) : Prop :=
  ∃ items stop m, read = (items, .closed stop, some ⟨rest, m⟩) ∧
    List.Forall₂ (fun v i => Shows v i.value) values items

theorem readItems_cons {v : Json} {text others : List Char} {start : Mark} {values : List Json}
    (starts : nextItem first cur = .inl ⟨text ++ (others ++ rest), start⟩)
    (back : ReadsBack depth v text) (enough : 2 * text.length ≤ fuel)
    (behind : Behind (others ++ rest))
    (read_others : ∀ mark,
      ItemsRead values rest (readItems fuel depth false ⟨others ++ rest, mark⟩)) :
    ItemsRead (v :: values) rest (readItems (fuel + 1) depth first cur) := by
  obtain ⟨tree, m, read, shows⟩ := back fuel [] (others ++ rest) start enough gap_nil behind
  obtain ⟨items, stop, m', read_others, shown⟩ := read_others m
  let closing := closeArray ⟨others ++ rest, m⟩
  refine ⟨⟨tree, closing.1, closing.2⟩ :: items, stop, m', ?_, .cons shows shown⟩
  rw [List.nil_append] at read
  simp only [readItems, starts, read, read_others, closing]

theorem readItems_listed {V : Json → List Char → Prop}
    (spells : ∀ v text, V v text → Ahead text ∧ ReadsBack depth v text)
    {values : List Json} {text : List Char} (listed : Listed V ']' first values text)
    (enough : 2 * text.length ≤ fuel) (mark : Mark) :
    ItemsRead values rest (readItems fuel depth first ⟨text ++ rest, mark⟩) := by
  induction listed generalizing fuel mark with
  | @closed first gap blank =>
    obtain ⟨fuel, rfl⟩ := Nat.exists_eq_add_of_lt (show 0 < fuel by simp at enough; omega)
    obtain ⟨stop, m, closed⟩ := nextItem_closed first blank rest mark
    refine ⟨[], stop, m, ?_, .nil⟩
    rw [readItems, List.append_assoc, List.singleton_append, closed]
  | @first v values gap text others blank spelled listed ih =>
    obtain ⟨ahead, back⟩ := spells v text spelled
    simp only [List.length_append] at enough
    have some_text := ahead.length_pos
    have some_others := listed.length_pos
    obtain ⟨fuel, rfl⟩ := Nat.exists_eq_add_of_lt (show 0 < fuel by omega)
    obtain ⟨m, starts⟩ := nextItem_first blank (ahead.append (others ++ rest)) mark
    rw [List.append_assoc, List.append_assoc]
    exact readItems_cons starts back (by omega) (listed.behind (.inl rfl) rest)
      fun mark => ih (by omega) mark
  | @next v values gap text others blank spelled listed ih =>
    obtain ⟨ahead, back⟩ := spells v text spelled
    simp only [List.length_append, List.length_cons] at enough
    obtain ⟨fuel, rfl⟩ := Nat.exists_eq_add_of_lt (show 0 < fuel by omega)
    obtain ⟨m, starts⟩ := nextItem_next blank (ahead.append (others ++ rest)) mark
    rw [List.cons_append, List.append_assoc, List.append_assoc]
    exact readItems_cons starts back (by omega) (listed.behind (.inl rfl) rest)
      fun mark => ih (by omega) mark

/-- The members are read to the closing bracket. -/
def MembersRead (values : List (String × Json)) (rest : List Char)
    (read : List (Member Tree) × Ending × Option Cursor) : Prop :=
  ∃ members stop m, read = (members, .closed stop, some ⟨rest, m⟩) ∧
    List.Forall₂ (fun v m => m.Named v.1) values members ∧
      List.Forall₂ (fun v m => Shows v.2 m.value) values members

theorem readMembers_cons {key : String} {v : Json} {gap text others : List Char} {start : Mark}
    {values : List (String × Json)}
    (starts : nextKey first cur = .inl
      ⟨'"' :: (key.toList.flatMap escapeChar ++ '"' :: ':' :: (gap ++ (text ++ (others ++ rest)))),
        start⟩)
    (blank : Gap gap) (back : ReadsBack depth v text) (enough : 2 * text.length ≤ fuel)
    (behind : Behind (others ++ rest))
    (read_others : ∀ mark,
      MembersRead values rest (readMembers fuel depth false ⟨others ++ rest, mark⟩)) :
    MembersRead ((key, v) :: values) rest (readMembers (fuel + 1) depth first cur) := by
  obtain ⟨k, read_key⟩ := readString_written key (':' :: (gap ++ (text ++ (others ++ rest))))
    (Nat.lt_add_of_pos_right (Nat.succ_pos 1)) (start.past '"')
  obtain ⟨tree, m, read, shows⟩ := back fuel gap (others ++ rest) (k.past ':') enough blank behind
  obtain ⟨members, stop, m', read_others, named, shown⟩ := read_others m
  have colon (rest : List Char) : Cursor.skipSpace ⟨':' :: rest, k⟩ = ⟨':' :: rest, k⟩ := rfl
  let member : Member Tree :=
    ⟨String.ofList key.toList, none, closeObject ⟨':' :: (gap ++ (text ++ (others ++ rest))), k⟩,
      tree, closeObject ⟨others ++ rest, m⟩⟩
  refine ⟨member :: members, stop, m', ?_, .cons ⟨String.ofList_toList, rfl⟩ named,
    .cons shows shown⟩
  rw [readMembers, starts]
  simp only [List.length_cons, Cursor.drop, read_key, colon, read, read_others, member]

theorem writeString_append (key : String) (rest : List Char) :
    (writeString key).toList ++ rest = '"' :: (key.toList.flatMap escapeChar ++ '"' :: rest) := by
  simp [writeString]

theorem readMembers_listed {V : Json → List Char → Prop}
    (back : ∀ v text, V v text → ReadsBack depth v text) {values : List (String × Json)}
    {text : List Char} (listed : Listed (SpellsMember V) '\x7d' first values text)
    (enough : 2 * text.length ≤ fuel) (mark : Mark) :
    MembersRead values rest (readMembers fuel depth first ⟨text ++ rest, mark⟩) := by
  induction listed generalizing fuel mark with
  | @closed first gap blank =>
    obtain ⟨fuel, rfl⟩ := Nat.exists_eq_add_of_lt (show 0 < fuel by simp at enough; omega)
    obtain ⟨stop, m, closed⟩ := nextKey_closed first blank rest mark
    refine ⟨[], stop, m, ?_, .nil, .nil⟩
    rw [readMembers, List.append_assoc, List.singleton_append, closed]
  | @first v values gap text others blank spelled listed ih =>
    obtain ⟨gap', text, blank', spelled, rfl⟩ := spelled
    simp only [List.length_append, List.length_cons] at enough
    obtain ⟨fuel, rfl⟩ := Nat.exists_eq_add_of_lt (show 0 < fuel by omega)
    simp only [List.append_assoc, List.cons_append, writeString_append]
    obtain ⟨m, starts⟩ := nextKey_first blank _ mark
    exact readMembers_cons starts blank' (back _ _ spelled) (by omega)
      (listed.behind (.inr rfl) rest) fun mark => ih (by omega) mark
  | @next v values gap text others blank spelled listed ih =>
    obtain ⟨gap', text, blank', spelled, rfl⟩ := spelled
    simp only [List.length_append, List.length_cons] at enough
    obtain ⟨fuel, rfl⟩ := Nat.exists_eq_add_of_lt (show 0 < fuel by omega)
    simp only [List.append_assoc, List.cons_append, writeString_append]
    obtain ⟨m, starts⟩ := nextKey_next blank _ mark
    exact readMembers_cons starts blank' (back _ _ spelled) (by omega)
      (listed.behind (.inr rfl) rest) fun mark => ih (by omega) mark

end Lists

/-! ### Values -/

theorem head_digit (k : Nat) : ∃ c ds, Nat.toDigits 10 k = c :: ds ∧ Text.isAsciiDigit c := by
  obtain ⟨c, ds, digits⟩ := List.exists_cons_of_ne_nil (Nat.toDigits_ne_nil (n := k) (b := 10))
  exact ⟨c, ds, digits, isAsciiDigit_of_mem (digits ▸ List.mem_cons_self)⟩

theorem isSpace_digit {c : Char} (digit : Text.isAsciiDigit c) : Cursor.isSpace c = false := by
  rw [Bool.eq_false_iff, Ne, Cursor.isSpace_iff]
  rintro (rfl | rfl | rfl | rfl) <;> cases digit

theorem Spells.ahead {n : Nat} {v : Json} {text : List Char} (spelled : Spells n v text) :
    Ahead text := by
  cases v with
  | null =>
    obtain rfl := spells_null.mp spelled
    exact ⟨'n', _, rfl, rfl, by decide, by decide⟩
  | bool b =>
    obtain rfl := spells_bool.mp spelled
    cases b
    · exact ⟨'f', _, rfl, rfl, by decide, by decide⟩
    · exact ⟨'t', _, rfl, rfl, by decide, by decide⟩
  | number x =>
    obtain ⟨k, -, -, rfl⟩ := spells_number.mp spelled
    obtain ⟨c, ds, digits, digit⟩ := head_digit k
    refine ⟨c, ds, digits, isSpace_digit digit, ?_, ?_⟩ <;> rintro rfl <;> cases digit
  | string s =>
    obtain rfl := spells_string.mp spelled
    exact ⟨'"', _, by rw [← List.append_nil (writeString s).toList, writeString_append], rfl,
      by decide, by decide⟩
  | array values =>
    cases n with
    | zero => exact spelled.elim
    | succ n =>
      obtain ⟨rest, rfl, -⟩ := spelled
      exact ⟨'[', rest, rfl, rfl, by decide, by decide⟩
  | object values =>
    cases n with
    | zero => exact spelled.elim
    | succ n =>
      obtain ⟨rest, rfl, -⟩ := spelled
      exact ⟨'\x7b', rest, rfl, rfl, by decide, by decide⟩

variable {depth : Nat} {v : Json} {text : List Char}

/-- Blanks before a value do not matter. -/
theorem ReadsBack.of_ahead (ahead : Ahead text)
    (read : ∀ fuel rest mark, 2 * text.length ≤ fuel + 1 → Behind rest →
      ∃ tree m, readValue (fuel + 1) depth ⟨text ++ rest, mark⟩ = (tree, some ⟨rest, m⟩) ∧
        Shows v tree) : ReadsBack depth v text := by
  intro fuel gap rest mark enough blank behind
  have some_text := ahead.length_pos
  obtain ⟨fuel, rfl⟩ := Nat.exists_eq_add_of_lt (show 0 < fuel by omega)
  obtain ⟨c, more, rfl, solid, -⟩ := ahead
  obtain ⟨m, skipped⟩ := Cursor.skipSpace_gap blank solid (more ++ rest) mark
  have still : Cursor.skipSpace ⟨c :: (more ++ rest), m⟩ = ⟨c :: (more ++ rest), m⟩ := by
    simp [Cursor.skipSpace, Cursor.skipSpace.go, solid]
  obtain ⟨tree, m', read, shows⟩ := read (0 + fuel) rest m enough behind
  refine ⟨tree, m', ?_, shows⟩
  rw [← read, List.cons_append]
  simp only [readValue, skipped, still]

theorem readsBack_null : ReadsBack depth .null "null".toList :=
  .of_ahead ⟨'n', _, rfl, rfl, by decide, by decide⟩ fun _ _ _ _ _ => ⟨_, _, rfl, .null _⟩

theorem readsBack_bool (b : Bool) :
    ReadsBack depth (.bool b) (if b then "true".toList else "false".toList) := by
  cases b with
  | false =>
    exact .of_ahead ⟨'f', _, rfl, rfl, by decide, by decide⟩ fun _ _ _ _ _ => ⟨_, _, rfl, .bool _⟩
  | true =>
    exact .of_ahead ⟨'t', _, rfl, rfl, by decide, by decide⟩ fun _ _ _ _ _ => ⟨_, _, rfl, .bool _⟩

theorem readValue_digit {c : Char} (digit : Text.isAsciiDigit c) (fuel : Nat) (rest : List Char)
    (mark : Mark) :
    readValue (fuel + 1) depth ⟨c :: rest, mark⟩ = readNumber true ⟨c :: rest, mark⟩ := by
  have still : Cursor.skipSpace ⟨c :: rest, mark⟩ = ⟨c :: rest, mark⟩ := by
    simp [Cursor.skipSpace, Cursor.skipSpace.go, isSpace_digit digit]
  rw [readValue]
  simp only [still]
  split
  all_goals (rename_i same; cases same)
  all_goals first
    | exact absurd digit (by decide)
    | rw [if_pos digit]

theorem readsBack_number {k : Nat} (fits : k ≤ largestNatural) :
    ReadsBack depth (.number (.integer k)) (Nat.toDigits 10 k) := by
  obtain ⟨c, ds, digits, digit⟩ := head_digit k
  have ahead : Ahead (Nat.toDigits 10 k) :=
    Spells.ahead (n := 0) (spells_number.mpr ⟨k, fits, rfl, rfl⟩)
  refine .of_ahead ahead fun fuel rest mark _ behind => ?_
  obtain ⟨m, stop, read⟩ := readNumber_toDigits fits behind mark
  refine ⟨_, m, ?_, .number stop⟩
  rw [← read, digits, List.cons_append]
  exact readValue_digit digit fuel (ds ++ rest) mark

theorem readsBack_string (s : String) : ReadsBack depth (.string s) (writeString s).toList := by
  refine .of_ahead (Spells.ahead (n := 0) (spells_string.mpr rfl)) fun fuel rest mark _ _ => ?_
  obtain ⟨m, stop, read⟩ := stringTree_written s rest (mark.past '"')
  refine ⟨_, m, ?_, .string stop⟩
  rw [← read, writeString_append]
  rfl

theorem readsBack_array {V : Json → List Char → Prop} {values : List Json}
    (shallow : depth + 1 ≠ depthLimit)
    (spells : ∀ v text, V v text → Ahead text ∧ ReadsBack (depth + 1) v text)
    (listed : Listed V ']' true values text) :
    ReadsBack depth (.array values) ('[' :: text) := by
  refine .of_ahead ⟨'[', text, rfl, rfl, by decide, by decide⟩ fun fuel rest mark enough _ => ?_
  rw [List.length_cons] at enough
  obtain ⟨items, stop, m, read, shown⟩ :
      ItemsRead values rest (readItems fuel (depth + 1) true ⟨text ++ rest, mark.past '['⟩) :=
    readItems_listed spells listed (by omega) _
  have bracket : readValue (fuel + 1) depth ⟨'[' :: (text ++ rest), mark⟩ =
      let found := readItems fuel (depth + 1) true ⟨text ++ rest, mark.past '['⟩
      (if depth + 1 = depthLimit then
          .strained (.same .recursionLimit (mark.pastByte '[')) (.array mark found.1 found.2.1)
        else .array mark found.1 found.2.1, found.2.2) := rfl
  refine ⟨_, m, ?_, .array mark stop shown⟩
  rw [List.cons_append, bracket, read]
  simp only [if_neg shallow]

theorem readsBack_object {V : Json → List Char → Prop} {values : List (String × Json)}
    (shallow : depth + 1 ≠ depthLimit) (back : ∀ v text, V v text → ReadsBack (depth + 1) v text)
    (listed : Listed (SpellsMember V) '\x7d' true values text) :
    ReadsBack depth (.object values) ('\x7b' :: text) := by
  refine .of_ahead ⟨'\x7b', text, rfl, rfl, by decide, by decide⟩ fun fuel rest mark enough _ => ?_
  rw [List.length_cons] at enough
  obtain ⟨members, stop, m, read, named, shown⟩ :
      MembersRead values rest
        (readMembers fuel (depth + 1) true ⟨text ++ rest, mark.past '\x7b'⟩) :=
    readMembers_listed back listed (by omega) _
  have brace : readValue (fuel + 1) depth ⟨'\x7b' :: (text ++ rest), mark⟩ =
      let found := readMembers fuel (depth + 1) true ⟨text ++ rest, mark.past '\x7b'⟩
      (if depth + 1 = depthLimit then
          .strained (.same .recursionLimit (mark.pastByte '\x7b')) (.object mark found.1 found.2.1)
        else .object mark found.1 found.2.1, found.2.2) := rfl
  refine ⟨_, m, ?_, .object mark stop named shown⟩
  rw [List.cons_append, brace, read]
  simp only [if_neg shallow]

theorem Spells.readsBack_scalar {n : Nat} (spelled : Spells n v text)
    (scalar : ∀ vs, v ≠ .array vs) (scalar' : ∀ ms, v ≠ .object ms) : ReadsBack depth v text := by
  cases v with
  | null => exact spells_null.mp spelled ▸ readsBack_null
  | bool b => exact spells_bool.mp spelled ▸ readsBack_bool b
  | number x =>
    obtain ⟨k, fits, rfl, rfl⟩ := spells_number.mp spelled
    exact readsBack_number fits
  | string s => exact spells_string.mp spelled ▸ readsBack_string s
  | array values => exact absurd rfl (scalar values)
  | object values => exact absurd rfl (scalar' values)

/-- What spells a value is read as the value, if it nests within the limit. -/
theorem Spells.readsBack {n : Nat} (spelled : Spells n v text) (shallow : depth + n < depthLimit) :
    ReadsBack depth v text := by
  induction n generalizing v text depth with
  | zero =>
    cases v with
    | array | object => exact spelled.elim
    | _ => exact spelled.readsBack_scalar nofun nofun
  | succ n ih =>
    cases v with
    | array values =>
      obtain ⟨text, rfl, listed⟩ := spelled
      exact readsBack_array (by omega) (fun v text item => ⟨item.ahead, ih item (by omega)⟩) listed
    | object values =>
      obtain ⟨text, rfl, listed⟩ := spelled
      exact readsBack_object (by omega) (fun v text item => ih item (by omega)) listed
    | _ => exact spelled.readsBack_scalar nofun nofun

/-! ### Texts -/

variable {α : Type} {read : Tree → Decoded α} {a : α}

/-- A text that spells a value is decoded as the value is. -/
theorem decodeText_spelled {n : Nat} {text : String} (spelled : Spells n v text.toList)
    (shallow : n < depthLimit) (reads : Reads read v a) : decodeText read text = .ok a := by
  have back : ReadsBack 0 v text.toList := spelled.readsBack (by omega)
  obtain ⟨tree, m, read_text, shows⟩ :=
    back (2 * text.toList.length + 2) [] [] .start (by omega) gap_nil nofun
  rw [List.append_nil, List.nil_append] at read_text
  have document : Document.read text = ⟨tree, none⟩ := by
    simp only [Document.read, read_text]
    rfl
  simp only [decodeText, document, reads tree shows]
  rfl

theorem decodeText_written {n : Nat} (plain : Plain n v) (shallow : n < depthLimit)
    (reads : Reads read v a) :
    decodeText read v.compact = .ok a ∧ decodeText read v.pretty = .ok a :=
  ⟨decodeText_spelled (spells_compact plain) shallow reads,
    decodeText_spelled (spells_prettyAt plain 0) shallow reads⟩

end RefDoc.Json
