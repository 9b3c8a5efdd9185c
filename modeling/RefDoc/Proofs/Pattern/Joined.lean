import Mathlib.Data.List.Nodup
import RefDoc.Proofs.Pattern.Alternatives
import RefDoc.Proofs.Pattern.Tokens

/-!
# Patterns joined by bars

The texts of patterns, joined by bars, are read like each of them, one behind the other, as long as
every text but the last leaves the flags as it found them (`Pattern.ofText?_joined`): a flag that is
left on holds for the texts behind it too. The texts share the names of their groups and the room
that a pattern may take, so that good patterns may still not go together (`Pattern.Joinable`).
-/

namespace RefDoc.PatternReader

/-! ### Reading to the end -/

namespace Reader

/-- What the reader is behind the text. -/
def readAll? (fuel : Nat) (r : Reader) (cs : List Char) : Option Reader :=
  match r.group.flags.skipSpace cs with
  | [] => some r
  | c :: rest =>
    match fuel with
    | 0 => none
    | fuel + 1 => (r.next? c rest).bind fun (r, rest) => readAll? fuel r rest

variable {r r' : Reader} {cs rest : List Char} {c : Char} {fuel : Nat}

theorem readAll?_of_skipped (fuel : Nat) (skipped : r.group.flags.skipSpace cs = []) :
    readAll? fuel r cs = some r := by
  unfold readAll?
  rw [skipped]

theorem readAll?_nil (fuel : Nat) (r : Reader) : readAll? fuel r [] = some r :=
  readAll?_of_skipped fuel r.group.flags.skipSpace_nil

theorem readAll?_succ (fuel : Nat) (skipped : r.group.flags.skipSpace cs = c :: rest) :
    readAll? (fuel + 1) r cs = (token? r.group.flags c rest).bind fun (t, rest) =>
      (r.take? t).bind fun r => readAll? fuel r rest := by
  rw [readAll?, skipped]
  dsimp only
  rw [next?_eq, Option.bind_assoc]
  refine Option.bind_congr fun ⟨t, rest⟩ _ => ?_
  dsimp only
  rw [Option.bind_map]
  rfl

/-- A reading that takes anything takes a token first. -/
theorem take_of_readAll? (read : readAll? fuel r cs = some r')
    (skipped : r.group.flags.skipSpace cs = c :: rest) :
    ∃ less t after r₁, fuel = less + 1 ∧ token? r.group.flags c rest = some (t, after) ∧
      r.take? t = some r₁ ∧ readAll? less r₁ after = some r' := by
  cases fuel with
  | zero =>
    rw [readAll?, skipped] at read
    cases read
  | succ less =>
    rw [readAll?_succ less skipped] at read
    obtain ⟨⟨t, after⟩, token, read⟩ := Option.bind_eq_some_iff.mp read
    obtain ⟨r₁, taken, read⟩ := Option.bind_eq_some_iff.mp read
    exact ⟨less, t, after, r₁, rfl, token, taken, read⟩

theorem run?_eq (fuel : Nat) (r : Reader) (cs : List Char) :
    run? fuel r cs = (readAll? fuel r cs).bind fun r =>
      if r.outer.isEmpty then some r.group.whole else none := by
  induction fuel generalizing r cs with
  | zero =>
    unfold run? readAll?
    cases r.group.flags.skipSpace cs <;> rfl
  | succ fuel ih =>
    unfold run? readAll?
    cases r.group.flags.skipSpace cs with
    | nil => rfl
    | cons c rest => simp only [ih, Option.bind_assoc, Option.bind_eq_bind]

end Reader

/-! ### Reading behind other texts -/

namespace Group

/-- The group with other branches before its own. -/
def behind (earlier : List Item) (g : Group) : Group := { g with branches := g.branches ++ earlier }

theorem repeatLast?_behind (earlier : List Item) (g : Group) (min : Nat) (max : Option Nat) :
    (g.behind earlier).repeatLast? min max = (g.repeatLast? min max).map (behind earlier) := by
  unfold repeatLast? behind
  cases g.items with
  | nil => rfl
  | cons i rest => by_cases bare : i.bare <;> simp [bare]

/-- All branches in order. -/
def alternatives (g : Group) : List Item := (g.branch :: g.branches).reverse

theorem alternatives_behind (earlier : List Item) (g : Group) :
    (g.behind earlier).alternatives = earlier.reverse ++ g.alternatives := by
  simp [alternatives, behind, branch]

theorem alternatives_ne_nil (g : Group) : g.alternatives ≠ [] := by
  simp [alternatives]

theorem pattern_whole (g : Group) : g.whole.pattern = .alts (g.alternatives.map (·.pattern)) := by
  unfold whole alternatives
  split <;> simp_all [Pattern.alts]

theorem deepest_le {l : List Item} {n : Nat} : deepest l ≤ n ↔ ∀ i ∈ l, i.depth ≤ n := by
  have start (m : Nat) : (l.map (·.depth)).foldl max m ≤ n ↔ m ≤ n ∧ ∀ i ∈ l, i.depth ≤ n := by
    induction l generalizing m with
    | nil => simp
    | cons i l ih =>
      rw [List.map_cons, List.foldl_cons, ih, List.forall_mem_cons, Nat.max_le, and_assoc]
  simpa [deepest] using start 0

theorem deepest_reverse (l : List Item) : deepest l.reverse = deepest l := by
  have same (n : Nat) : deepest l.reverse ≤ n ↔ deepest l ≤ n := by
    simp only [deepest_le, List.mem_reverse]
  exact Nat.le_antisymm ((same _).mpr (Nat.le_refl _)) ((same _).mp (Nat.le_refl _))

theorem depth_whole {g : Group} (several : 1 < g.alternatives.length) :
    g.whole.depth = deepest g.alternatives + 1 := by
  rw [alternatives, deepest_reverse]
  unfold whole
  split
  · rename_i none
    simp [alternatives, none] at several
  · rfl

/-- Branches are put before those of the outermost of the groups. -/
def allBehind (earlier : List Item) : List Group → List Group
  | [] => []
  | g :: gs => (if gs.isEmpty then g.behind earlier else g) :: allBehind earlier gs

end Group

/-- The names of groups that a token opens. -/
def Token.names : Token → List String
  | openNamed name => [name]
  | _ => []

namespace Reader

/-- The reader that stands behind other texts, with their branches and names of groups. -/
def behind (earlier : List Item) (taken : List String) (r : Reader) : Reader :=
  { group := if r.outer.isEmpty then r.group.behind earlier else r.group
    outer := Group.allBehind earlier r.outer
    names := r.names ++ taken }

variable (earlier : List Item) (taken : List String)

@[simp] theorem flags_behind (r : Reader) :
    (r.behind earlier taken).group.flags = r.group.flags := by
  unfold behind
  dsimp only
  split <;> rfl

variable {r r₁ r' : Reader} {t : Token}

/-- What becomes of a token behind other texts, where it may not take one of their names. -/
theorem take?_behind (took : r.take? t = some r') :
    r'.names = t.names ++ r.names ∧
      (r.behind earlier taken).take? t =
        if t.names.any taken.contains then none else some (r'.behind earlier taken) := by
  obtain ⟨g, outer, names⟩ := r
  cases t with
  | openGroup flags =>
    cases took
    exact ⟨rfl, rfl⟩
  | openNamed name =>
    unfold take? at took
    dsimp only at took
    split at took
    · cases took
    · rename_i fresh
      cases took
      refine ⟨rfl, ?_⟩
      have known : (names ++ taken).contains name = taken.contains name := by
        have other : name ∉ names := by simpa using fresh
        simp [other]
      simp only [take?, flags_behind, Token.names, List.any_cons, List.any_nil, Bool.or_false]
      simp only [behind, known]
      rfl
  | setFlags flags | bar | part p depth =>
    cases took
    refine ⟨rfl, ?_⟩
    cases outer <;> rfl
  | closeGroup =>
    cases outer with
    | nil => cases took
    | cons parent gs =>
      cases took
      refine ⟨rfl, ?_⟩
      cases gs <;> rfl
  | repeated min max =>
    obtain ⟨g', repeated, rfl⟩ := Option.map_eq_some_iff.mp took
    refine ⟨rfl, ?_⟩
    cases outer with
    | nil =>
      have repeated' := congrArg (Option.map (Group.behind earlier)) repeated
      rw [← Group.repeatLast?_behind] at repeated'
      exact congrArg (Option.map _) repeated'
    | cons parent gs => exact congrArg (Option.map _) repeated

/-- What may follow a text whose reading ended: nothing, or a bar that no comment swallows. -/
def Ends (r : Reader) (tail : List Char) : Prop :=
  tail = [] ∨ r.group.flags.spaced = false ∧ ∃ more, tail = '|' :: more

theorem readAll?_of_ends {cs tail : List Char} (ends : r.Ends tail)
    (skipped : r.group.flags.skipSpace cs = []) (fuel : Nat) :
    readAll? fuel (r.behind earlier taken) (cs ++ tail) =
      readAll? fuel (r.behind earlier taken) tail := by
  obtain rfl | ⟨unspaced, -⟩ := ends
  · rw [List.append_nil, readAll?_nil, readAll?_of_skipped]
    rwa [flags_behind]
  · rw [PatternFlags.skipSpace, unspaced] at skipped
    rw [show cs = [] from skipped, List.nil_append]

theorem token?_of_ends {f : PatternFlags} {c : Char} {cs rest tail : List Char} {fuel : Nat}
    (token : token? f c cs = some (t, rest)) (took : r.take? t = some r₁)
    (read : readAll? fuel r₁ rest = some r') (same : r.group.flags = f) (ends : r'.Ends tail) :
    token? f c (cs ++ tail) = some (t, rest ++ tail) := by
  obtain rfl | ⟨unspaced, more, rfl⟩ := ends
  · simpa using token
  · refine token?_append token ?_ more
    by_cases left : rest = []
    · subst left same
      rw [readAll?_nil] at read
      cases read
      refine .inr (Bool.eq_false_iff.mpr fun spaced => ?_)
      rw [← flags_of_take? took spaced, unspaced] at spaced
      cases spaced
    · exact .of_ne_nil left

/-- A text is read alike behind others, up to its end or to the next bar. -/
theorem readAll?_behind {fuel : Nat} {cs tail : List Char} (read : readAll? fuel r cs = some r')
    (ends : r'.Ends tail) :
    ∃ left names, r'.names = names ++ r.names ∧ ∀ more earlier taken,
      readAll? (fuel + more) (r.behind earlier taken) (cs ++ tail) =
        if names.any taken.contains then none
        else readAll? (left + more) (r'.behind earlier taken) tail := by
  -- Token by token: each is read alike (`token?_of_ends`), and so is what becomes of it.
  induction fuel using Nat.strongRecOn generalizing r cs with
  | ind fuel ih =>
    cases skipped : r.group.flags.skipSpace cs with
    | nil =>
      rw [readAll?_of_skipped fuel skipped] at read
      cases read
      exact ⟨fuel, [], rfl, fun more earlier taken =>
        readAll?_of_ends earlier taken ends skipped (fuel + more)⟩
    | cons c rest =>
      obtain ⟨less, t, after, r₁, rfl, token, took, read⟩ := take_of_readAll? read skipped
      obtain ⟨left, names, named, onward⟩ := ih less (Nat.lt_succ_self less) read
      refine ⟨left, names ++ t.names, ?_, fun more earlier taken => ?_⟩
      · rw [named, (take?_behind [] [] took).1, List.append_assoc]
      have skipped' : (r.behind earlier taken).group.flags.skipSpace (cs ++ tail) =
          c :: (rest ++ tail) := by
        rw [flags_behind, PatternFlags.skipSpace_cons_append skipped]
      rw [show less + 1 + more = less + more + 1 by omega, readAll?_succ _ skipped', flags_behind,
        token?_of_ends token took read rfl ends, Option.bind_some]
      dsimp only
      rw [(take?_behind earlier taken took).2, List.any_append]
      by_cases clash : t.names.any taken.contains
      · simp [clash]
      · simp [clash, onward]

end Reader

end RefDoc.PatternReader

namespace RefDoc.Pattern

open PatternReader PatternReader.Reader

/-! ### Texts of patterns -/

/-- The reader at the end of a text. -/
def reader? (text : String) : Option Reader := readAll? text.toList.length {} text.toList

/-- The alternatives of a text. -/
def alternatives (text : String) : List Item := (reader? text).elim [] (·.group.alternatives)

/-- How deeply a text is nested. -/
def depth (text : String) : Nat := (reader? text).elim 0 (·.group.whole.depth)

/-- How deeply the alternatives of a text are nested. -/
def nesting (text : String) : Nat := Group.deepest (alternatives text)

/-- The names of the groups in a text. -/
def groupNames (text : String) : List String := (reader? text).elim [] (·.names)

/-- The flags in force at the end of a text. -/
def flagsAfter (text : String) : PatternFlags := (reader? text).elim {} (·.group.flags)

/-- The room that the pattern of a text takes. -/
def room (text : String) : Nat := (ofText? text).elim 0 weight

/-- The pattern of a text occurs among characters. -/
def Occurs (text : String) (cs : List Char) : Bool := (ofText? text).any (·.occursIn cs)

/-- The text is read to its end, where no group is left open. -/
def Closed (text : String) : Prop := ∃ r, reader? text = some r ∧ r.outer = []

variable {text : String} {texts : List String} {q : Pattern}

theorem ofText?_eq (text : String) : ofText? text = (reader? text).bind fun r =>
    if r.outer = [] ∧ r.group.whole.depth ≤ depthLimit ∧ r.group.whole.pattern.weight ≤ weightLimit
    then some r.group.whole.pattern else none := by
  simp only [ofText?, run?_eq, Option.bind_eq_bind, Option.bind_assoc]
  refine Option.bind_congr fun r _ => ?_
  cases r.outer <;> simp

theorem ofText?_eq_some :
    ofText? text = some q ↔ Closed text ∧ depth text ≤ depthLimit ∧ q.weight ≤ weightLimit ∧
      q = alts ((alternatives text).map (·.pattern)) := by
  rw [ofText?_eq, Closed, depth, alternatives]
  cases reader? text with
  | none => simp
  | some r =>
    simp only [Option.bind_some, Option.elim_some, Option.some_inj, exists_eq_left',
      ← Group.pattern_whole]
    grind

theorem depth_eq (several : 1 < (alternatives text).length) : depth text = nesting text + 1 := by
  unfold depth nesting alternatives at *
  cases read : reader? text with
  | none => simp [read] at several
  | some r =>
    rw [read] at several
    exact Group.depth_whole several

theorem alternatives_ne_nil (closed : Closed text) : alternatives text ≠ [] := by
  obtain ⟨r, read, -⟩ := closed
  unfold alternatives
  rw [read]
  exact r.group.alternatives_ne_nil

/-! ### Texts joined by bars -/

def joined (texts : List String) : List Char := ['|'].intercalate (texts.map String.toList)

theorem joined_cons (t u : String) (us : List String) :
    joined (t :: u :: us) = t.toList ++ '|' :: joined (u :: us) := by
  simp [joined]

theorem toList_intercalate_bar (texts : List String) :
    ("|".intercalate texts).toList = joined texts := String.toList_intercalate

/-- No name of a group is among the given ones or comes in two of the texts. -/
def Apart (taken : List String) (texts : List String) : Prop :=
  (taken :: texts.map groupNames).Pairwise List.Disjoint

theorem apart_cons {taken : List String} :
    Apart taken (text :: texts) ↔
      taken.Disjoint (groupNames text) ∧ Apart (groupNames text ++ taken) texts := by
  simp only [Apart, List.map_cons, List.pairwise_cons, List.forall_mem_cons,
    List.disjoint_append_left]
  constructor
  · rintro ⟨⟨apart, before⟩, after, others⟩
    exact ⟨apart, fun l member => ⟨after l member, before l member⟩, others⟩
  · rintro ⟨apart, both, others⟩
    exact ⟨⟨apart, fun l member => (both l member).2⟩, fun l member => (both l member).1, others⟩

/-- A text behind others. -/
theorem readAll?_text {r : Reader} (read : reader? text = some r) {tail : List Char}
    (ends : r.Ends tail) :
    ∃ left, ∀ more earlier taken,
      readAll? (text.toList.length + more) (behind earlier taken {}) (text.toList ++ tail) =
        if (groupNames text).any taken.contains then none
        else readAll? (left + more) (r.behind earlier taken) tail := by
  obtain ⟨left, names, named, onward⟩ := readAll?_behind read ends
  have same : groupNames text = names := by
    rw [groupNames, read]
    exact named.trans (List.append_nil names)
  exact ⟨left, same ▸ onward⟩

/-- Behind a bar that follows a text, the next one begins. -/
theorem readAll?_bar {r : Reader} (closed : r.outer = []) (plain : r.group.flags = {})
    (fuel : Nat) (earlier : List Item) (taken : List String) (cs : List Char) :
    readAll? (fuel + 1) (r.behind earlier taken) ('|' :: cs) =
      readAll? fuel (behind (r.group.alternatives.reverse ++ earlier) (r.names ++ taken) {})
        cs := by
  obtain ⟨⟨flags, items, branches⟩, outer, names⟩ := r
  cases closed
  cases plain
  simp only [Group.alternatives, List.reverse_reverse]
  rfl

theorem any_contains {names taken : List String} :
    names.any taken.contains = true ↔ ¬ taken.Disjoint names := by
  simp [List.Disjoint, and_comm]

/-- Texts that leave the flags as they are, but for the last, are read one behind the other. -/
theorem readAll?_joined (given : texts ≠ []) (closed : ∀ t ∈ texts, Closed t)
    (plain : ∀ t ∈ texts.dropLast, flagsAfter t = {}) (more : Nat) (earlier : List Item)
    (taken : List String) :
    let read := readAll? ((joined texts).length + more) (behind earlier taken {}) (joined texts)
    (Apart taken texts → ∃ r, read = some r ∧ r.outer = [] ∧
      r.group.alternatives = earlier.reverse ++ texts.flatMap alternatives) ∧
    (¬ Apart taken texts → read = none) := by
  induction texts generalizing more earlier taken with
  | nil => exact absurd rfl given
  | cons t ts ih =>
    obtain ⟨⟨r, read, outer⟩, others⟩ := List.forall_mem_cons.mp closed
    have own : alternatives t = r.group.alternatives := by rw [alternatives, read]; rfl
    have names : groupNames t = r.names := by rw [groupNames, read]; rfl
    have clashes (clash : (groupNames t).any taken.contains) : ¬ Apart taken (t :: ts) :=
      fun apart => any_contains.mp clash (apart_cons.mp apart).1
    cases ts with
    | nil =>
      obtain ⟨left, onward⟩ := readAll?_text read (.inl rfl)
      simp only [List.append_nil] at onward
      simp only [joined, List.map_cons, List.map_nil, List.intercalate_singleton, onward]
      by_cases clash : (groupNames t).any taken.contains
      · exact ⟨fun apart => absurd apart (clashes clash), fun _ => if_pos clash⟩
      · have apart : Apart taken [t] :=
          apart_cons.mpr ⟨not_not.mp (any_contains.not.mp clash), List.pairwise_singleton _ _⟩
        rw [if_neg clash, readAll?_nil]
        refine ⟨fun _ => ⟨_, rfl, by rw [behind, outer]; rfl, ?_⟩, fun other => absurd apart other⟩
        simp [behind, outer, Group.alternatives_behind, own]
    | cons u us =>
      have unflagged : r.group.flags = {} := by
        have := plain t (by simp)
        rwa [flagsAfter, read] at this
      have ends : r.Ends ('|' :: joined (u :: us)) := .inr ⟨by rw [unflagged], _, rfl⟩
      obtain ⟨left, onward⟩ := readAll?_text read ends
      have length : (joined (t :: u :: us)).length + more =
          t.toList.length + ((joined (u :: us)).length + 1 + more) := by
        rw [joined_cons, List.length_append, List.length_cons]
        omega
      dsimp only
      rw [length, joined_cons, onward]
      by_cases clash : (groupNames t).any taken.contains
      · exact ⟨fun apart => absurd apart (clashes clash), fun _ => if_pos clash⟩
      · have free := not_not.mp (any_contains.not.mp clash)
        obtain ⟨reads, fails⟩ := ih (by simp) others (fun v member => plain v (by simp [member]))
          (left + more) (r.group.alternatives.reverse ++ earlier) (r.names ++ taken)
        rw [if_neg clash, apart_cons, names,
          show left + ((joined (u :: us)).length + 1 + more) =
            (joined (u :: us)).length + (left + more) + 1 by omega,
          readAll?_bar outer unflagged]
        refine ⟨fun apart => ?_, fun other => fails fun apart => other ⟨names ▸ free, apart⟩⟩
        obtain ⟨r', read', closed', whole⟩ := reads apart.2
        refine ⟨r', read', closed', ?_⟩
        simp [whole, own]

theorem reader?_joined (given : texts ≠ []) (closed : ∀ t ∈ texts, Closed t)
    (plain : ∀ t ∈ texts.dropLast, flagsAfter t = {}) :
    (Apart [] texts → Closed ("|".intercalate texts) ∧
      alternatives ("|".intercalate texts) = texts.flatMap alternatives) ∧
    (¬ Apart [] texts → ¬ Closed ("|".intercalate texts)) := by
  obtain ⟨reads, fails⟩ := readAll?_joined given closed plain 0 [] []
  have read : reader? ("|".intercalate texts) =
      readAll? ((joined texts).length + 0) (behind [] [] {}) (joined texts) := by
    rw [reader?, toList_intercalate_bar]
    rfl
  simp only [Closed, alternatives, read]
  refine ⟨fun apart => ?_, fun clash => ?_⟩
  · obtain ⟨r, same, closed, whole⟩ := reads apart
    rw [same]
    exact ⟨⟨r, rfl, closed⟩, by simpa using whole⟩
  · rw [fails clash]
    rintro ⟨r, ⟨⟩, -⟩

/-! ### Patterns of several texts -/

/-- Any of the alternatives of the texts. -/
def anyOf (texts : List String) : Pattern := alts ((texts.flatMap alternatives).map (·.pattern))

theorem closed_of_isSome (valid : ∀ t ∈ texts, (ofText? t).isSome) : ∀ t ∈ texts, Closed t := by
  intro t member
  obtain ⟨q, read⟩ := Option.isSome_iff_exists.mp (valid t member)
  exact (ofText?_eq_some.mp read).1

theorem length_le_alternatives (closed : ∀ t ∈ texts, Closed t) :
    texts.length ≤ (texts.flatMap alternatives).length := by
  induction texts with
  | nil => exact Nat.le_refl 0
  | cons t ts ih =>
    obtain ⟨first, others⟩ := List.forall_mem_cons.mp closed
    have := List.length_pos_iff.mpr (alternatives_ne_nil first)
    have := ih others
    simp only [List.flatMap_cons, List.length_append, List.length_cons]
    omega

theorem flatMap_alternatives_ne_nil (given : texts ≠ []) (closed : ∀ t ∈ texts, Closed t) :
    (texts.flatMap alternatives).map (·.pattern) ≠ [] := by
  have := List.length_pos_iff.mpr given
  have := length_le_alternatives closed
  exact List.ne_nil_of_length_pos (by rw [List.length_map]; omega)

theorem occursIn_anyOf (given : texts ≠ []) (valid : ∀ t ∈ texts, (ofText? t).isSome)
    (cs : List Char) : (anyOf texts).occursIn cs = texts.any (Occurs · cs) := by
  have each (t : String) (member : t ∈ texts) :
      Occurs t cs = true ↔ ∃ i ∈ alternatives t, i.pattern.occursIn cs := by
    obtain ⟨q, read⟩ := Option.isSome_iff_exists.mp (valid t member)
    obtain ⟨closed, -, -, whole⟩ := ofText?_eq_some.mp read
    rw [Occurs, read, Option.any_some, whole,
      occursIn_alts (by simpa using alternatives_ne_nil closed)]
    simp only [List.mem_map, exists_exists_and_eq_and]
  rw [Bool.eq_iff_iff, anyOf, List.any_eq_true,
    occursIn_alts (flatMap_alternatives_ne_nil given (closed_of_isSome valid))]
  simp only [List.mem_map, exists_exists_and_eq_and, List.mem_flatMap]
  constructor
  · rintro ⟨i, ⟨t, member, own⟩, occurs⟩
    exact ⟨t, member, (each t member).mpr ⟨i, own, occurs⟩⟩
  · rintro ⟨t, member, occurs⟩
    obtain ⟨i, own, occurs⟩ := (each t member).mp occurs
    exact ⟨i, ⟨t, member, own⟩, occurs⟩

theorem weight_anyOf (given : texts ≠ []) (valid : ∀ t ∈ texts, (ofText? t).isSome) :
    (anyOf texts).weight = (texts.map room).sum + 32 * (texts.length - 1) := by
  have total (ts : List String) (valid : ∀ t ∈ ts, (ofText? t).isSome) :
      ((ts.flatMap alternatives).map fun i => i.pattern.weight + 32).sum =
        (ts.map room).sum + 32 * ts.length := by
    induction ts with
    | nil => rfl
    | cons t ts ih =>
      obtain ⟨first, others⟩ := List.forall_mem_cons.mp valid
      obtain ⟨q, read⟩ := Option.isSome_iff_exists.mp first
      obtain ⟨closed, -, -, whole⟩ := ofText?_eq_some.mp read
      have own : room t = q.weight := by rw [room, read]; rfl
      have some : (alternatives t).map (·.pattern) ≠ [] := by
        simpa using alternatives_ne_nil closed
      have weighed := weight_alts some
      rw [← whole, List.map_map] at weighed
      simp only [Function.comp_def] at weighed
      rw [List.flatMap_cons, List.map_append, List.sum_append, ih others, List.map_cons,
        List.sum_cons, List.length_cons, own]
      omega
  have weighed := weight_alts (flatMap_alternatives_ne_nil given (closed_of_isSome valid))
  rw [List.map_map] at weighed
  simp only [Function.comp_def, total texts valid] at weighed
  have := List.length_pos_iff.mpr given
  rw [anyOf]
  omega

/-- Joined texts are nested once more than the deepest alternative of theirs. -/
theorem depth_joined (several : 1 < texts.length) (closed : ∀ t ∈ texts, Closed t)
    (whole : alternatives text = texts.flatMap alternatives) (n : Nat) :
    depth text ≤ n ↔ ∀ t ∈ texts, nesting t < n := by
  have more : 1 < (alternatives text).length := by
    have := length_le_alternatives closed
    rw [whole]
    omega
  have deep (m : Nat) : nesting text ≤ m ↔ ∀ t ∈ texts, nesting t ≤ m := by
    simp only [nesting, whole, Group.deepest_le, List.mem_flatMap]
    grind
  cases n with
  | zero =>
    obtain ⟨t, member⟩ := List.exists_mem_of_length_pos (Nat.lt_trans Nat.zero_lt_one several)
    simpa [depth_eq more] using ⟨t, member⟩
  | succ n =>
    rw [depth_eq more, Nat.add_le_add_iff_right, deep]
    simp only [Nat.lt_succ_iff]

/-- The texts go together: no name of a group comes in two of them, and together they are neither
too large nor nested too deeply. -/
structure Joinable (texts : List String) : Prop where
  names : (texts.map groupNames).Pairwise List.Disjoint
  size : (texts.map room).sum + 32 * (texts.length - 1) ≤ weightLimit
  depth : 1 < texts.length → ∀ t ∈ texts, nesting t < depthLimit

/-- **Joined patterns.** Texts that are patterns and, but for the last, leave the flags as they are
make a pattern if they go together, and it occurs where one of theirs does. -/
theorem ofText?_joined (given : texts ≠ []) (valid : ∀ t ∈ texts, (ofText? t).isSome)
    (plain : ∀ t ∈ texts.dropLast, flagsAfter t = {}) :
    (Joinable texts → ∃ q, ofText? ("|".intercalate texts) = some q ∧
      ∀ cs, q.occursIn cs = texts.any (Occurs · cs)) ∧
    (¬ Joinable texts → ofText? ("|".intercalate texts) = none) := by
  have closed := closed_of_isSome valid
  obtain ⟨reads, fails⟩ := reader?_joined given closed plain
  have apart : Apart [] texts ↔ (texts.map groupNames).Pairwise List.Disjoint := by
    simp [Apart]
  have size := weight_anyOf given valid
  have deep (whole : alternatives ("|".intercalate texts) = texts.flatMap alternatives) :
      depth ("|".intercalate texts) ≤ depthLimit ↔
        (1 < texts.length → ∀ t ∈ texts, nesting t < depthLimit) := by
    by_cases several : 1 < texts.length
    · rw [depth_joined several closed whole]
      simp [several]
    · obtain ⟨t, rfl⟩ : ∃ t, texts = [t] := by
        obtain ⟨t, ts, rfl⟩ := List.exists_cons_of_ne_nil given
        exact ⟨t, by simpa using several⟩
      obtain ⟨q, read⟩ := Option.isSome_iff_exists.mp (valid t (by simp))
      simpa using (ofText?_eq_some.mp read).2.1
  constructor
  · rintro ⟨names, size', deep'⟩
    obtain ⟨closed, whole⟩ := reads (apart.mpr names)
    refine ⟨anyOf texts, ofText?_eq_some.mpr ⟨closed, (deep whole).mpr deep', size ▸ size', ?_⟩,
      occursIn_anyOf given valid⟩
    rw [whole]
    rfl
  · intro unfit
    refine Option.eq_none_iff_forall_ne_some.mpr fun q read => unfit ?_
    obtain ⟨closed, deep', size', same⟩ := ofText?_eq_some.mp read
    have names : Apart [] texts := by_contra fun clash => fails clash closed
    have whole := (reads names).2
    rw [whole] at same
    subst same
    exact ⟨apart.mp names, size ▸ size', (deep whole).mp deep'⟩

end RefDoc.Pattern
