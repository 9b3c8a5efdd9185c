import Mathlib.Data.List.TakeWhile
import RefDoc.Proofs.Text.Split
import RefDoc.Text.Markup

/-!
# Reading markup

Escaped text has none of the characters that delimit tags and values (`plain_escapeMarkup`), and
different texts are escaped differently (`escapeMarkup_inj`). `values` reads off a page what an
attribute is given in its tags. Pieces of a page in which every tag is closed are read each for
itself (`Carries`).
-/

namespace RefDoc.Text

/-! ### Escaped text -/

/-- The text delimits neither a tag nor a value. -/
def Plain (s : String) : Prop := ∀ c ∈ s.toList, c ≠ '<' ∧ c ≠ '>' ∧ c ≠ '"'

instance (s : String) : Decidable (Plain s) := List.decidableBAll _ _

theorem plain_escapeMarkup (s : String) : Plain (escapeMarkup s) := by
  intro c member
  rw [escapeMarkup, String.toList_ofList, List.mem_flatMap] at member
  obtain ⟨d, -, member⟩ := member
  revert c
  unfold escapeMarkupChar
  split
  all_goals simp_all

/-- No written character is the beginning of another. -/
theorem escapeMarkupChar_inj {c d : Char} {rest rest' : List Char}
    (same : escapeMarkupChar c ++ rest = escapeMarkupChar d ++ rest') : c = d ∧ rest = rest' := by
  unfold escapeMarkupChar at same
  split at same <;> split at same <;>
    simp only [List.cons_append, List.nil_append, List.cons.injEq] at same <;> grind

theorem escapeMarkup_inj {s s' : String} : escapeMarkup s = escapeMarkup s' ↔ s = s' := by
  refine ⟨fun same => ?_, congrArg escapeMarkup⟩
  have same : s.toList.flatMap escapeMarkupChar = s'.toList.flatMap escapeMarkupChar := by
    simpa [escapeMarkup] using congrArg String.toList same
  have written (c : Char) : escapeMarkupChar c ≠ [] := by
    unfold escapeMarkupChar
    split <;> simp
  refine String.ext ?_
  generalize s.toList = cs at same
  generalize s'.toList = ds at same
  induction cs generalizing ds with
  | nil =>
    cases ds with
    | nil => rfl
    | cons d ds => exact absurd (List.append_eq_nil_iff.mp same.symm).1 (written d)
  | cons c cs ih =>
    cases ds with
    | nil => exact absurd (List.append_eq_nil_iff.mp same).1 (written c)
    | cons d ds =>
      rw [List.flatMap_cons, List.flatMap_cons] at same
      obtain ⟨rfl, tails⟩ := escapeMarkupChar_inj same
      rw [ih ds tails]

/-! ### Values of an attribute -/

/-- What an attribute is given in a tag that has been cut at its quotes: a value stands behind a
piece that ends with the name of the attribute. -/
def valuesIn (key : List Char) : List (List Char) → List (List Char)
  | front :: value :: rest =>
    if (' ' :: key ++ ['=']).isSuffixOf front then value :: valuesIn key rest
    else valuesIn key rest
  | _ => []

/-- What an attribute is given in a text, tag by tag. -/
def valuesFrom (key : List Char) : List Char → List (List Char)
  | [] => []
  | c :: rest =>
    (if c = '<' then valuesIn key (splitAll (· == '"') (rest.takeWhile (· != '>'))) else []) ++
      valuesFrom key rest

def values (key html : String) : List String :=
  (valuesFrom key.toList html.toList).map String.ofList

/-- What stands in front takes no value away. -/
theorem valuesFrom_append (key front rest : List Char) :
    valuesFrom key rest <:+ valuesFrom key (front ++ rest) := by
  induction front with
  | nil => exact List.suffix_rfl
  | cons c front ih => exact ih.trans (List.suffix_append ..)

/-- The text gives the attribute these values, whatever follows. -/
def Carries (key html : String) (given : List String) : Prop :=
  ∀ rest, valuesFrom key.toList (html.toList ++ rest) =
    given.map String.toList ++ valuesFrom key.toList rest

namespace Carries

variable {key html html' : String} {given given' : List String}

theorem values_eq (carries : Carries key html given) : values key html = given := by
  have whole := carries []
  rw [List.append_nil] at whole
  rw [values, whole, valuesFrom, List.append_nil, List.map_map]
  exact List.map_id'' (fun _ => String.ofList_toList) given

theorem suffix (carries : Carries key html given) (front : String) :
    given <:+ values key (front ++ html) := by
  rw [← carries.values_eq, values, values, String.toList_append]
  exact (valuesFrom_append ..).map _

theorem nil : Carries key "" [] := fun _ => rfl

theorem append (first : Carries key html given) (second : Carries key html' given') :
    Carries key (html ++ html') (given ++ given') := by
  intro rest
  rw [String.toList_append, List.append_assoc, first, second, List.map_append, List.append_assoc]

theorem before (first : Carries key html []) (second : Carries key html' given) :
    Carries key (html ++ html') given :=
  first.append second

theorem behind (second : Carries key html' []) (first : Carries key html given) :
    Carries key (html ++ html') given := by
  simpa only [List.append_nil] using first.append second

theorem within {front back : String} (opens : Carries key front []) (closes : Carries key back [])
    (inner : Carries key html given) : Carries key (front ++ html ++ back) given :=
  closes.behind (opens.before inner)

theorem join {α : Type} {l : List α} {text : α → String} {of : α → List String}
    (each : ∀ a ∈ l, Carries key (text a) (of a)) :
    Carries key (String.join (l.map text)) (l.flatMap of) := by
  induction l with
  | nil => exact nil
  | cons a l ih =>
    obtain ⟨first, each⟩ := List.forall_mem_cons.mp each
    rw [List.map_cons, String.join_cons, List.flatMap_cons]
    exact first.append (ih each)

theorem join_one {α : Type} {l : List α} {text of : α → String}
    (each : ∀ a ∈ l, Carries key (text a) [of a]) :
    Carries key (String.join (l.map text)) (l.map of) := by
  have singly : l.map of = l.flatMap fun a => [of a] := List.map_eq_flatMap
  rw [singly]
  exact join each

end Carries

theorem valuesFrom_free {key cs : List Char} (free : ∀ c ∈ cs, c ≠ '<') (rest : List Char) :
    valuesFrom key (cs ++ rest) = valuesFrom key rest := by
  induction cs with
  | nil => rfl
  | cons c cs ih =>
    obtain ⟨other, free⟩ := List.forall_mem_cons.mp free
    rw [List.cons_append, valuesFrom, if_neg other, List.nil_append, ih free]

theorem Plain.carries {key s : String} (plain : Plain s) : Carries key s [] :=
  valuesFrom_free fun c member => (plain c member).1

theorem carries_escaped (key s : String) : Carries key (escapeMarkup s) [] :=
  (plain_escapeMarkup s).carries

/-- Every tag that is opened is closed. -/
def closed : List Char → Bool
  | [] => true
  | c :: rest => (c != '<' || rest.contains '>') && closed rest

theorem carries_closed {key html : String} {given : List String} (closes : closed html.toList)
    (read : values key html = given) : Carries key html given := by
  intro rest
  subst read
  have back : (values key html).map String.toList = valuesFrom key.toList html.toList := by
    simp [values, Function.comp_def]
  rw [back]
  generalize html.toList = cs at closes
  induction cs with
  | nil => rfl
  | cons c cs ih =>
    obtain ⟨here, closes⟩ := Bool.and_eq_true_iff.mp closes
    rw [List.cons_append, valuesFrom, valuesFrom, ih closes, List.append_assoc]
    by_cases opens : c = '<'
    · have inside : '>' ∈ cs := by simpa [opens] using here
      have stops : (cs.takeWhile (· != '>')).length ≠ cs.length := fun whole => by
        have all := List.takeWhile_eq_self_iff.mp
          ((List.takeWhile_prefix _).eq_of_length whole) '>' inside
        simp at all
      rw [List.takeWhile_append, if_neg stops]
    · simp only [if_neg opens]

theorem carries_unquoted {key html : String} (closes : closed html.toList)
    (unquoted : '"' ∉ html.toList) : Carries key html [] := by
  have none : valuesFrom key.toList html.toList = [] := by
    clear closes
    generalize html.toList = cs at unquoted
    induction cs with
    | nil => rfl
    | cons c cs ih =>
      rw [List.mem_cons, not_or] at unquoted
      have whole : splitAll (· == '"') (cs.takeWhile (· != '>')) = [cs.takeWhile (· != '>')] :=
        splitAll_whole fun d member => beq_eq_false_iff_ne.mpr fun quote =>
          unquoted.2 (quote ▸ (List.takeWhile_prefix _).subset member)
      rw [valuesFrom, whole, ih unquoted.2, valuesIn, ite_self, List.nil_append]
      nofun
  refine carries_closed closes ?_
  rw [values, none, List.map_nil]

section Tags

variable {key front value : String} (plain : Plain front) (plain' : Plain value)

include plain plain'

theorem carries_tag : Carries key ("<" ++ front ++ "\"" ++ value ++ "\">")
    (if (' ' :: key.toList ++ ['=']).isSuffixOf front.toList then [value] else []) := by
  intro rest
  have inner : ∀ c ∈ front.toList ++ '"' :: (value.toList ++ ['"']), c ≠ '<' ∧ c ≠ '>' := by
    intro c member
    simp only [List.mem_append, List.mem_cons, List.not_mem_nil, or_false] at member
    rcases member with member | rfl | member | rfl
    · exact ⟨(plain c member).1, (plain c member).2.1⟩
    · decide
    · exact ⟨(plain' c member).1, (plain' c member).2.1⟩
    · decide
  have whole : ("<" ++ front ++ "\"" ++ value ++ "\">").toList ++ rest =
      '<' :: (front.toList ++ '"' :: (value.toList ++ ['"']) ++ '>' :: rest) := by
    simp
  have read : ((front.toList ++ '"' :: (value.toList ++ ['"'])) ++ '>' :: rest).takeWhile
      (· != '>') = front.toList ++ '"' :: (value.toList ++ ['"']) := by
    rw [List.takeWhile_append_of_pos fun c member => bne_iff_ne.mpr (inner c member).2]
    simp
  have cut : splitAll (· == '"') (front.toList ++ '"' :: (value.toList ++ ['"'])) =
      [front.toList, value.toList, []] := by
    rw [splitAll_append rfl, splitAll_append rfl,
      splitAll_whole fun c member => beq_eq_false_iff_ne.mpr (plain c member).2.2,
      splitAll_whole fun c member => beq_eq_false_iff_ne.mpr (plain' c member).2.2]
    rfl
  rw [whole, valuesFrom, if_pos rfl, read, cut, valuesFrom_free fun c member => (inner c member).1,
    valuesFrom, if_neg (by decide), List.nil_append, valuesIn]
  split <;> rfl

theorem carries_given (named : (' ' :: key.toList ++ ['=']).isSuffixOf front.toList = true) :
    Carries key ("<" ++ front ++ "\"" ++ value ++ "\">") [value] := by
  simpa only [named, if_true] using @carries_tag key front value plain plain'

theorem carries_other (named : (' ' :: key.toList ++ ['=']).isSuffixOf front.toList = false) :
    Carries key ("<" ++ front ++ "\"" ++ value ++ "\">") [] := by
  simpa only [named, Bool.false_eq_true, if_false] using @carries_tag key front value plain plain'

end Tags

end RefDoc.Text
