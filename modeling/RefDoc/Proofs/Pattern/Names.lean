import Mathlib.Data.List.TakeDrop
import RefDoc.Pattern.Match
import RefDoc.Proofs.Text.Tables

/-!
# Patterns of names

A pattern that matches no slash, and to which a slash before a name is like nothing before it, sees
of a path that ends in a given name no more than that name (`Pattern.occursIn_name`).
-/

namespace RefDoc

/-! ### Places -/

theorem length_spots (before : Option Char) (text : List Char) :
    (spots before text).length = text.length + 1 := by
  induction text generalizing before with
  | nil => rfl
  | cons c text ih => simp [spots, ih]

theorem drop_spots (before : Option Char) (front : List Char) (c : Char) (text : List Char) :
    ∃ s, s.after = some c ∧
      (spots before (front ++ c :: text)).drop front.length = s :: spots (some c) text := by
  induction front generalizing before with
  | nil => exact ⟨⟨before, some c⟩, rfl, rfl⟩
  | cons x front ih => exact ih (some x)

theorem take_spots (before : Option Char) (front : List Char) (c : Char) (text : List Char) :
    ∀ s ∈ (spots before (front ++ c :: text)).take (front.length + 1), s.after.isSome := by
  induction front generalizing before with
  | nil => simp [spots]
  | cons x front ih => simpa [spots] using ih (some x)

namespace Marks

theorem length_filter (m : Marks) {ss : List Spot} (p : Spot → Bool)
    (marked : m.length = ss.length) : (m.filter ss p).length = ss.length := by
  simp [filter, marked]

theorem drop_filter (m : Marks) (ss : List Spot) (p : Spot → Bool) (k : Nat) :
    (m.filter ss p).drop k = filter (m.drop k) (ss.drop k) p := List.drop_zipWith

theorem take_filter (m : Marks) (ss : List Spot) (p : Spot → Bool) (k : Nat) :
    (m.filter ss p).take k = filter (m.take k) (ss.take k) p := List.take_zipWith

theorem any_filter (m : Marks) {ss : List Spot} {p : Spot → Bool}
    (fails : ∀ s ∈ ss, p s = false) : (m.filter ss p).any id = false := by
  induction m generalizing ss with
  | nil => rfl
  | cons marked m ih =>
    cases ss with
    | nil => rfl
    | cons s ss =>
      obtain ⟨fails, others⟩ := List.forall_mem_cons.mp fails
      show ((marked && p s) || (Marks.filter m ss p).any id) = false
      rw [fails, ih others, Bool.and_false, Bool.or_false]

theorem length_union {m n : Marks} {k : Nat} (marked : m.length = k) (marked' : n.length = k) :
    (m.union n).length = k := by
  simp [union, marked, marked']

theorem length_times {f : Marks → Marks} {k : Nat}
    (keeps : ∀ m, m.length = k → (f m).length = k) (n : Nat) {m : Marks} (marked : m.length = k) :
    (times f n m).length = k := by
  induction n generalizing m with
  | zero => exact marked
  | succ n ih => exact ih (keeps m marked)

theorem length_upTo {f : Marks → Marks} {k : Nat}
    (keeps : ∀ m, m.length = k → (f m).length = k) (n : Nat) {m : Marks} (marked : m.length = k) :
    (upTo f n m).length = k := by
  induction n generalizing m with
  | zero => exact marked
  | succ n ih =>
    unfold upTo
    dsimp only
    split
    · exact marked
    · exact ih (length_union marked (keeps m marked))

/-- A condition sees what comes before a text at the first place only. -/
theorem filter_spots (m : Marks) {b c : Option Char} (text : List Char) {p : Spot → Bool}
    (blind : ∀ after, p ⟨b, after⟩ = p ⟨c, after⟩) :
    m.filter (spots b text) p = m.filter (spots c text) p := by
  cases m with
  | nil => rfl
  | cons marked m => cases text <;> simp [filter, spots, blind]

end Marks

namespace Pattern

/-- No match crosses a slash, and a slash before a match is like the start of the text. -/
def StaysInName : Pattern → Prop
  | empty => True
  | char set => set.contains '/' = false
  | assertion a => ∀ after, a.holds ⟨some '/', after⟩ = a.holds ⟨none, after⟩
  | seq p q | alt p q => p.StaysInName ∧ q.StaysInName
  | rep _ _ _ => False

variable {q : Pattern}

theorem length_after (q : Pattern) {ss : List Spot} (some : ss ≠ []) {m : Marks}
    (marked : m.length = ss.length) : (q.after ss m).length = ss.length := by
  induction q generalizing m with
  | empty => exact marked
  | char set =>
    have := List.length_pos_iff.mpr some
    simp only [after, Marks.step, List.length_cons, List.length_dropLast,
      Marks.length_filter m _ marked]
    omega
  | assertion a => exact Marks.length_filter m _ marked
  | seq p q ihp ihq => exact ihq (ihp marked)
  | alt p q ihp ihq => exact Marks.length_union (ihp marked) (ihq marked)
  | rep p min max ih =>
    exact Marks.length_upTo (fun _ => ih) _ (Marks.length_times (fun _ => ih) _ marked)

theorem length_after_spots (q : Pattern) (before : Option Char) (text : List Char)
    {m : Marks} (marked : m.length = text.length + 1) :
    (q.after (spots before text) m).length = text.length + 1 := by
  rw [length_after q, length_spots]
  · exact List.ne_nil_of_length_pos (by simp [length_spots])
  · rw [marked, length_spots]

/-- Behind a slash, the matches are those of the text that follows it. -/
theorem drop_after (stays : q.StaysInName) (before : Option Char) (front text : List Char)
    {m : Marks} (marked : m.length = (front ++ '/' :: text).length + 1) :
    (q.after (spots before (front ++ '/' :: text)) m).drop (front.length + 1) =
      q.after (spots none text) (m.drop (front.length + 1)) := by
  obtain ⟨s, slash, onward⟩ := drop_spots before front '/' text
  have behind : (spots before (front ++ '/' :: text)).drop (front.length + 1) =
      spots (some '/') text := by
    rw [← List.drop_drop, onward]
    rfl
  induction q generalizing m with
  | empty => rfl
  | char set =>
    obtain ⟨m₀, split⟩ : ∃ m₀, m.drop front.length = m₀ :: m.drop (front.length + 1) :=
      ⟨_, List.drop_eq_getElem_cons (by simp at marked; omega)⟩
    have stopped : (m.filter (spots before (front ++ '/' :: text))
        fun s => s.after.any set.contains).drop front.length =
        false :: Marks.filter (m.drop (front.length + 1)) (spots none text)
          fun s => s.after.any set.contains := by
      have : set.contains '/' = false := stays
      rw [Marks.drop_filter, onward, split,
        Marks.filter_spots (b := none) (c := some '/') _ _ fun _ => rfl]
      simp [Marks.filter, slash, this]
    rw [after, Marks.step, List.drop_succ_cons, ← List.dropLast_drop_eq_drop_dropLast, stopped,
      List.dropLast_cons_of_ne_nil]
    · rfl
    · refine List.ne_nil_of_length_pos ?_
      rw [Marks.length_filter] <;> simp [length_spots] at marked ⊢
      omega
  | assertion a =>
    rw [after, Marks.drop_filter, behind]
    exact Marks.filter_spots _ _ stays
  | seq p q ihp ihq =>
    rw [after, ihq stays.2 (length_after_spots p _ _ marked), ihp stays.1 marked]
    rfl
  | alt p q ihp ihq =>
    rw [after, Marks.union, List.drop_zipWith, ihp stays.1 marked, ihq stays.2 marked]
    rfl
  | rep => exact stays.elim

/-- A match ends where the text does. -/
def EndsText (p : Pattern) : Prop :=
  ∀ ss m, ∃ m', p.after ss m = Marks.filter m' ss Assertion.textEnd.holds

theorem occursIn_name (stays : q.StaysInName) (ends : q.EndsText) (front text : List Char) :
    q.occursIn (front ++ '/' :: text) = q.occursIn text := by
  let ss := spots none (front ++ '/' :: text)
  obtain ⟨m, ending⟩ := ends ss (ss.map fun _ => true)
  have onward : (q.after ss (ss.map fun _ => true)).drop (front.length + 1) =
      q.after (spots none text) ((spots none text).map fun _ => true) := by
    rw [drop_after stays _ _ _ (by simp [ss, length_spots])]
    refine congrArg _ (List.ext_getElem ?_ ?_) <;> simp [ss, length_spots]
  have unfinished :
      ((q.after ss (ss.map fun _ => true)).take (front.length + 1)).any id = false := by
    rw [ending, Marks.take_filter]
    refine Marks.any_filter _ fun s member => ?_
    obtain ⟨c, next⟩ := Option.isSome_iff_exists.mp (take_spots none front '/' text s member)
    rw [Assertion.holds, next]
    rfl
  show (q.after ss (ss.map fun _ => true)).any id = _
  rw [← List.take_append_drop (front.length + 1) (q.after ss (ss.map fun _ => true)),
    List.any_append, unfinished, onward]
  rfl

theorem staysInName_seqs {ps : List Pattern} (stay : ∀ p ∈ ps, p.StaysInName) :
    (seqs ps).StaysInName := by
  induction ps with
  | nil => trivial
  | cons p ps ih =>
    obtain ⟨first, others⟩ := List.forall_mem_cons.mp stay
    cases ps with
    | nil => exact first
    | cons p' ps => exact ⟨first, ih others⟩

theorem staysInName_anyCase {s : String} (other : '/' ∉ s.toList) : (anyCase s).StaysInName := by
  refine staysInName_seqs (List.forall_mem_map.mpr fun c member => ?_)
  have differs : c ≠ '/' := fun same => other (same ▸ member)
  simp only [StaysInName, CharSet.contains, Text.caseVariants_slash, CharSet.single]
  grind

/-- At a boundary, what has not the property is like the start of the text. -/
theorem any_bne_any {word : Char → Bool} {c : Char} (plain : word c = false)
    (after : Option Char) :
    ((some c).any word != after.any word) = ((none : Option Char).any word != after.any word) := by
  simp [plain]

theorem staysInName_boundary : (assertion (.boundary false)).StaysInName := by
  have bounds (s : Spot) : (Assertion.boundary false).holds s =
      (Assertion.wordSide false s.before != Assertion.wordSide false s.after) := rfl
  have side (side : Option Char) : Assertion.wordSide false side = side.any Text.isWord := rfl
  intro after
  rw [bounds, bounds, side, side, side]
  exact any_bne_any Text.isWord_slash after

theorem staysInName_textEnd : (assertion .textEnd).StaysInName := fun _ => rfl

end Pattern

end RefDoc
