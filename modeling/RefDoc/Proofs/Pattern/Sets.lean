import RefDoc.Proofs.Pattern.Escapes

/-!
# Sets before a bar

A set in brackets is read alike where a bar and more text follow (`bracketed?_append`). What stands
behind its last bracket is not looked at, and no name of a set goes on across a bar.
-/

namespace RefDoc.PatternReader

open Text

variable {f : PatternFlags}

/-! ### Sets -/

/-- A named ASCII set behind its colon. -/
def asciiSetIn? (f : PatternFlags) (negated : Bool) (body : List Char) :
    Option (CharSet × List Char) :=
  match body.dropWhile (· ≠ ':') with
  | ':' :: ']' :: after =>
    (asciiSets.lookup (body.takeWhile (· ≠ ':'))).map fun ranges =>
      (if negated then .compl (f.fold (.ranges ranges)) else f.fold (.ranges ranges), after)
  | _ => none

/-- A set begins with a caret if it is negated. -/
def caret : List Char → Bool × List Char
  | '^' :: rest => (true, rest)
  | body => (false, body)

theorem asciiSet?_colon (body : List Char) :
    asciiSet? f (':' :: body) = asciiSetIn? f (caret body).1 (caret body).2 := by
  have found (negated : Bool) (body : List Char) :
      (do
        let ':' :: ']' :: after := body.dropWhile (· ≠ ':') | none
        let s := f.fold (.ranges (← asciiSets.lookup (body.takeWhile (· ≠ ':'))))
        some (if negated then .compl s else s, after)) = asciiSetIn? f negated body := by
    unfold asciiSetIn?
    split
    · cases asciiSets.lookup (body.takeWhile (· ≠ ':')) <;> rfl
    · rfl
  exact found (caret body).1 (caret body).2

theorem caret_append (body more : List Char) :
    caret (body ++ '|' :: more) = ((caret body).1, (caret body).2 ++ '|' :: more) := by
  unfold caret
  cases body with
  | nil => rfl
  | cons c body =>
    by_cases hat : c = '^'
    · subst hat
      rfl
    · simp [hat]

/-- No name of a set goes on across a bar. -/
theorem lookup_asciiSets {name : List Char} (bar : '|' ∈ name) : asciiSets.lookup name = none := by
  cases found : asciiSets.lookup name with
  | none => rfl
  | some ranges =>
    obtain ⟨l, l', split, -⟩ := List.lookup_eq_some_iff.mp found
    have plain : ∀ e ∈ asciiSets, '|' ∉ e.1 := by decide
    exact absurd bar (plain (name, ranges) (by simp [split]))

theorem asciiSetIn?_append (negated : Bool) (body more : List Char) :
    asciiSetIn? f negated (body ++ '|' :: more) =
      (asciiSetIn? f negated body).map fun (s, after) => (s, after ++ '|' :: more) := by
  unfold asciiSetIn?
  cases dropped : body.dropWhile (· ≠ ':') with
  | nil =>
    have bar : '|' ∈ (body ++ '|' :: more).takeWhile (· ≠ ':') := by
      have whole := List.takeWhile_append_dropWhile (p := (· ≠ ':')) (l := body)
      rw [dropped, List.append_nil] at whole
      rw [List.takeWhile_append, whole, if_pos rfl]
      simp
    rw [lookup_asciiSets bar]
    split <;> rfl
  | cons c rest =>
    obtain ⟨taken, dropped'⟩ := span_append dropped ('|' :: more)
    rw [taken, dropped']
    cases rest with
    | nil => split <;> simp_all
    | cons d rest =>
      by_cases closes : c = ':' ∧ d = ']'
      · obtain ⟨rfl, rfl⟩ := closes
        cases asciiSets.lookup (body.takeWhile (· ≠ ':')) <;> rfl
      · have unclosed (l : List Char) (ranges : List Char → Option (CharSet × List Char)) :
            (match c :: d :: l with
              | ':' :: ']' :: after => ranges after
              | _ => none) = none := by
          split
          · simp_all
          · rfl
        rw [List.cons_append, unclosed _ fun _ => _, unclosed]
        rfl

theorem asciiSet?_append (cs more : List Char) :
    asciiSet? f (cs ++ '|' :: more) =
      (asciiSet? f cs).map fun (s, after) => (s, after ++ '|' :: more) := by
  by_cases colon : cs.head? = some ':'
  · obtain ⟨body, rfl⟩ := List.head?_eq_some_iff.mp colon
    rw [List.cons_append, asciiSet?_colon, asciiSet?_colon, caret_append]
    exact asciiSetIn?_append _ _ _
  · have plain (cs : List Char) (other : cs.head? ≠ some ':') : asciiSet? f cs = none := by
      unfold asciiSet?
      split
      · exact absurd rfl other
      · rfl
    rw [plain cs colon, plain]
    · rfl
    · cases cs with
      | nil => simp
      | cons c cs => simpa using colon

/-- Every hyphen takes a step, and there are enough of these. -/
theorem leadingHyphens_append {fuel fuel' : Nat} {o o' : OpenSet} {cs rest : List Char}
    (read : leadingHyphens f fuel o cs = (o', rest)) (left : rest ≠ []) (enough : cs.length ≤ fuel)
    {more : List Char} (enough' : (cs ++ more).length ≤ fuel') :
    leadingHyphens f fuel' o (cs ++ more) = (o', rest ++ more) := by
  induction fuel generalizing fuel' o cs with
  | zero =>
    obtain rfl : cs = [] := by simpa using enough
    cases read
    exact absurd rfl left
  | succ fuel ih =>
    cases cs with
    | nil =>
      cases read
      exact absurd rfl left
    | cons c cs =>
      obtain ⟨fuel', rfl⟩ : ∃ n, fuel' = n + 1 := ⟨fuel' - 1, by simp at enough'; omega⟩
      by_cases hyphen : c = '-'
      · subst hyphen
        have kept : f.skipSpace cs ≠ [] := by
          intro empty
          rw [leadingHyphens, empty] at read
          cases fuel <;> cases read <;> exact left rfl
        have shorter := f.length_skipSpace_le cs
        simp only [List.length_cons, List.cons_append, List.length_append] at enough enough'
        rw [List.cons_append, leadingHyphens, PatternFlags.skipSpace_append (.of_ne_nil kept)]
        exact ih read (by omega) (by simp; omega)
      · have stays (fuel : Nat) (cs : List Char) :
            leadingHyphens f fuel o (c :: cs) = (o, c :: cs) := by
          unfold leadingHyphens
          split
          · rename_i same
            exact absurd (List.cons.inj same).1 hyphen
          · rfl
        rw [stays] at read
        cases read
        exact stays _ _

/-- What comes behind the hyphens of a set that begins with `first`. -/
def behindHyphens? (f : PatternFlags) (first : Option Char) (o : OpenSet) (after : List Char) :
    Option (OpenSet × List Char) :=
  match after with
  | [] => none
  | ']' :: rest =>
    if first = some ']' then
      if (f.skipSpace rest).isEmpty then none else some (o.add (.single ']'), f.skipSpace rest)
    else some (o, after)
  | _ => some (o, after)

theorem behindHyphens?_append {first : Option Char} {o o' : OpenSet} {after rest : List Char}
    (read : behindHyphens? f first o after = some (o', rest)) (more : List Char) :
    behindHyphens? f first o (after ++ more) = some (o', rest ++ more) := by
  unfold behindHyphens? at read
  split at read
  · cases read
  · rename_i rest'
    rw [List.cons_append, behindHyphens?]
    split at read
    · rename_i closes
      split at read
      · cases read
      · rename_i left
        cases read
        have kept : f.skipSpace rest' ≠ [] := by simpa using left
        rw [if_pos closes, PatternFlags.skipSpace_append (.of_ne_nil kept), if_neg (by simp [kept])]
    · rename_i apart
      cases read
      rw [if_neg apart, List.cons_append]
  · rename_i given other
    cases read
    obtain ⟨c, rest', rfl⟩ := List.exists_cons_of_ne_nil given
    have plain : c ≠ ']' := fun same => other rest' (by rw [same])
    unfold behindHyphens?
    split
    · rename_i same
      cases same
    · rename_i same
      exact absurd (List.cons.inj same).1 plain
    · rfl

/-- A set behind its bracket and the caret. -/
def openIn? (f : PatternFlags) (negated : Bool) (cs : List Char) : Option (OpenSet × List Char) :=
  behindHyphens? f cs.head? (leadingHyphens f cs.length { negated } cs).1
    (leadingHyphens f cs.length { negated } cs).2

/-- Whether a set is negated, and what it begins with. -/
def opening (f : PatternFlags) (cs : List Char) : Bool × List Char :=
  match f.skipSpace cs with
  | '^' :: rest => (true, f.skipSpace rest)
  | cs => (false, cs)

theorem openSet?_eq (cs : List Char) :
    openSet? f cs = openIn? f (opening f cs).1 (opening f cs).2 := rfl

theorem opening_append {cs : List Char} (left : (opening f cs).2 ≠ []) (more : List Char) :
    opening f (cs ++ more) = ((opening f cs).1, (opening f cs).2 ++ more) := by
  unfold opening at left ⊢
  cases skipped : f.skipSpace cs with
  | nil =>
    rw [skipped] at left
    exact absurd rfl left
  | cons c rest =>
    rw [PatternFlags.skipSpace_cons_append skipped]
    rw [skipped] at left
    by_cases hat : c = '^'
    · subst hat
      have kept : f.skipSpace rest ≠ [] := left
      simp only [PatternFlags.skipSpace_append (.of_ne_nil kept)]
    · simp [hat]

theorem ne_nil_of_openIn {negated : Bool} {cs : List Char} {o : OpenSet × List Char}
    (read : openIn? f negated cs = some o) : cs ≠ [] := by
  rintro rfl
  cases read

theorem openIn?_append {negated : Bool} {cs rest : List Char} {o : OpenSet}
    (read : openIn? f negated cs = some (o, rest)) (more : List Char) :
    openIn? f negated (cs ++ more) = some (o, rest ++ more) := by
  obtain ⟨c, cs, rfl⟩ := List.exists_cons_of_ne_nil (ne_nil_of_openIn read)
  unfold openIn? at read ⊢
  have left : (leadingHyphens f (c :: cs).length { negated } (c :: cs)).2 ≠ [] := by
    intro empty
    rw [empty] at read
    cases read
  rw [leadingHyphens_append rfl left (Nat.le_refl _) (Nat.le_refl _)]
  exact behindHyphens?_append read more

theorem openSet?_append {cs rest : List Char} {o : OpenSet}
    (read : openSet? f cs = some (o, rest)) (more : List Char) :
    openSet? f (cs ++ more) = some (o, rest ++ more) := by
  rw [openSet?_eq] at read
  rw [openSet?_eq, opening_append (ne_nil_of_openIn read)]
  exact openIn?_append read more

/-- The range between two items, with what is left behind it. -/
def between? (f : PatternFlags) (first last : Primitive) (rest : List Char) :
    Option (CharSet × List Char) :=
  match first, last with
  | .literal a _, .literal b _ =>
    if b < a || (!f.unicode && 0x80 ≤ b.toNat) then none else some (.range a b, rest)
  | _, _ => none

/-- What comes behind a hyphen: the other end of a range, unless the hyphen is an item itself. -/
def rangeTo? (f : PatternFlags) (first : Primitive) (rest behind : List Char) :
    Option (CharSet × List Char) :=
  match behind with
  | [] => none
  | ']' :: _ | '-' :: _ => do some (← itemSet? f first, rest)
  | behind => do
    let (last, rest) ← setItem? f behind
    between? f first last rest

/-- What comes behind the first item. -/
def rangeFrom? (f : PatternFlags) (first : Primitive) (rest : List Char) :
    Option (CharSet × List Char) :=
  match rest with
  | '-' :: more => rangeTo? f first rest (f.skipSpace more)
  | [] => none
  | rest => do some (← itemSet? f first, rest)

theorem setRange?_eq (cs : List Char) : setRange? f cs =
    (setItem? f cs).bind fun (first, rest) => rangeFrom? f first (f.skipSpace rest) := rfl

theorem between?_eq_some {first last : Primitive} {rest rest' : List Char} {s : CharSet}
    (read : between? f first last rest = some (s, rest')) :
    rest' = rest ∧ ∀ more, between? f first last more = some (s, more) := by
  unfold between? at read ⊢
  split at read
  · split at read
    · cases read
    · rename_i fits
      cases read
      exact ⟨rfl, fun more => by simp only [if_neg fits]⟩
  · cases read

theorem rangeTo?_append {first : Primitive} {rest behind rest' : List Char} {s : CharSet}
    (read : rangeTo? f first rest behind = some (s, rest')) (left : rest' ≠ []) (more : List Char) :
    rangeTo? f first (rest ++ '|' :: more) (behind ++ '|' :: more) =
      some (s, rest' ++ '|' :: more) := by
  unfold rangeTo? at read
  split at read
  · cases read
  · obtain ⟨t, item, same⟩ := Option.bind_eq_some_iff.mp read
    cases same
    simp [rangeTo?, item]
  · obtain ⟨t, item, same⟩ := Option.bind_eq_some_iff.mp read
    cases same
    simp [rangeTo?, item]
  · rename_i given noBracket noHyphen
    obtain ⟨⟨last, rest₂⟩, item, range⟩ := Option.bind_eq_some_iff.mp read
    obtain ⟨rfl, between⟩ := between?_eq_some range
    have onward := local_setItem item (.of_ne_nil left) more
    obtain ⟨c, behind, rfl⟩ := List.exists_cons_of_ne_nil given
    rw [List.cons_append] at onward ⊢
    rw [rangeTo?.eq_4, onward]
    · exact between _
    · simp
    · exact fun _ same => noBracket _ (by rw [(List.cons.inj same).1])
    · exact fun _ same => noHyphen _ (by rw [(List.cons.inj same).1])

theorem rangeFrom?_append {first : Primitive} {rest rest' : List Char} {s : CharSet}
    (read : rangeFrom? f first rest = some (s, rest')) (left : rest' ≠ []) (more : List Char) :
    rangeFrom? f first (rest ++ '|' :: more) = some (s, rest' ++ '|' :: more) := by
  unfold rangeFrom? at read
  split at read
  · rename_i behind
    have kept : f.skipSpace behind ≠ [] := by
      intro empty
      rw [empty] at read
      cases read
    rw [List.cons_append, rangeFrom?, PatternFlags.skipSpace_append (.of_ne_nil kept)]
    exact rangeTo?_append read left more
  · cases read
  · rename_i noHyphen given
    obtain ⟨t, item, same⟩ := Option.bind_eq_some_iff.mp read
    cases same
    obtain ⟨c, rest, rfl⟩ := List.exists_cons_of_ne_nil left
    rw [List.cons_append, rangeFrom?.eq_3]
    · rw [item]
      rfl
    · exact fun _ same => noHyphen _ (by rw [(List.cons.inj same).1])
    · simp

theorem setRange?_append {cs rest : List Char} {s : CharSet}
    (read : setRange? f cs = some (s, rest)) (left : rest ≠ []) (more : List Char) :
    setRange? f (cs ++ '|' :: more) = some (s, rest ++ '|' :: more) := by
  rw [setRange?_eq] at read ⊢
  obtain ⟨⟨first, behind⟩, item, range⟩ := Option.bind_eq_some_iff.mp read
  have kept : f.skipSpace behind ≠ [] := by
    intro empty
    dsimp only at range
    rw [empty] at range
    cases range
  have keeps : f.Keeps behind := .of_ne_nil fun empty => kept (by rw [empty, f.skipSpace_nil])
  rw [local_setItem item keeps more, Option.bind_some]
  dsimp only at range ⊢
  rw [PatternFlags.skipSpace_append (.of_ne_nil kept)]
  exact rangeFrom?_append range left more

/-- One step in a bracketed set, and what comes next. -/
def setsStep? (f : PatternFlags)
    (next : OpenSet → List OpenSet → List Char → Option (CharSet × Nat × List Char))
    (o : OpenSet) (outer : List OpenSet) (cs : List Char) : Option (CharSet × Nat × List Char) :=
  match cs with
  | [] => none
  | '[' :: rest =>
    match asciiSet? f rest with
    | some (s, after) => next (o.add s) outer after
    | none => do
      let (inner, after) ← openSet? f rest
      next inner (o :: outer) after
  | ']' :: rest =>
    match outer with
    | [] => some (o.close f, o.depth + 1, rest)
    | parent :: outer =>
      let parent := { parent.add (o.close f) with depth := max parent.depth (o.depth + 1) }
      next parent outer rest
  | '&' :: '&' :: rest => next (o.operator f .intersection) outer rest
  | '-' :: '-' :: rest => next (o.operator f .difference) outer rest
  | '~' :: '~' :: rest => next (o.operator f .symmetricDifference) outer rest
  | cs => do
    let (s, after) ← setRange? f cs
    next (o.add s) outer after

theorem setsFrom?_succ (fuel : Nat) (o : OpenSet) (outer : List OpenSet) (cs : List Char) :
    setsFrom? f (fuel + 1) o outer cs =
      setsStep? f (setsFrom? f fuel) o outer (f.skipSpace cs) := by
  rw [setsFrom?.eq_2]
  rfl

theorem setsFrom?_nil (fuel : Nat) (o : OpenSet) (outer : List OpenSet) :
    setsFrom? f fuel o outer [] = none := by
  cases fuel with
  | zero => rfl
  | succ fuel =>
    rw [setsFrom?_succ, f.skipSpace_nil]
    rfl

/-- No doubled sign is made up of one before the bar and the bar. -/
theorem doubled_append {c d : Char} {rest more : List Char} (bar : d ≠ '|')
    (alone : ∀ l, c :: rest = d :: d :: l → False) (l : List Char) :
    c :: (rest ++ '|' :: more) = d :: d :: l → False := by
  intro same
  cases rest with
  | nil => exact bar (List.cons.inj (List.cons.inj same).2).1.symm
  | cons e rest =>
    obtain ⟨rfl, same⟩ := List.cons.inj same
    obtain ⟨rfl, -⟩ := List.cons.inj same
    exact alone _ rfl

/-- What a step gives before the end of the text it gives before a bar. -/
theorem setsStep?_append
    {next next' : OpenSet → List OpenSet → List Char → Option (CharSet × Nat × List Char)}
    {more : List Char} (ends : ∀ o outer, next o outer [] = none)
    (onward : ∀ {o outer cs s depth rest}, next o outer cs = some (s, depth, rest) →
      next' o outer (cs ++ '|' :: more) = some (s, depth, rest ++ '|' :: more))
    {o : OpenSet} {outer : List OpenSet} {cs rest : List Char} {s : CharSet} {depth : Nat}
    (read : setsStep? f next o outer cs = some (s, depth, rest)) :
    setsStep? f next' o outer (cs ++ '|' :: more) = some (s, depth, rest ++ '|' :: more) := by
  unfold setsStep? at read
  split at read
  · cases read
  · rename_i rest'
    rw [List.cons_append, setsStep?, asciiSet?_append]
    split at read
    · rename_i named
      simp only [named, Option.map_some]
      exact onward read
    · rename_i unnamed
      obtain ⟨⟨inner, after⟩, opened, read⟩ := Option.bind_eq_some_iff.mp read
      simp only [unnamed, Option.map_none, openSet?_append opened]
      exact onward read
  · split at read
    · cases read
      rfl
    · exact onward read
  · exact onward read
  · exact onward read
  · exact onward read
  · rename_i given noOpen noClose noAnd noMinus noTilde
    obtain ⟨⟨t, after⟩, range, goesOn⟩ := Option.bind_eq_some_iff.mp read
    dsimp only at goesOn
    have left : after ≠ [] := by
      rintro rfl
      rw [ends] at goesOn
      cases goesOn
    obtain ⟨c, rest', rfl⟩ := List.exists_cons_of_ne_nil given
    have range' := setRange?_append range left more
    rw [List.cons_append] at range' ⊢
    rw [setsStep?.eq_8, range']
    · exact onward goesOn
    · simp
    · exact fun _ same => noOpen _ (by rw [(List.cons.inj same).1])
    · exact fun _ same => noClose _ (by rw [(List.cons.inj same).1])
    · exact doubled_append (by decide) noAnd
    · exact doubled_append (by decide) noMinus
    · exact doubled_append (by decide) noTilde

/-- Every set that is closed is closed before the bar. -/
theorem setsFrom?_append {fuel fuel' : Nat} {o : OpenSet} {outer : List OpenSet}
    {cs rest : List Char} {s : CharSet} {depth : Nat}
    (read : setsFrom? f fuel o outer cs = some (s, depth, rest)) (enough : fuel ≤ fuel')
    (more : List Char) :
    setsFrom? f fuel' o outer (cs ++ '|' :: more) = some (s, depth, rest ++ '|' :: more) := by
  induction fuel generalizing fuel' o outer cs s depth rest with
  | zero => cases read
  | succ fuel ih =>
    obtain ⟨fuel', rfl⟩ : ∃ n, fuel' = n + 1 := ⟨fuel' - 1, by omega⟩
    rw [setsFrom?_succ] at read
    have left : f.skipSpace cs ≠ [] := by
      intro empty
      rw [empty] at read
      cases read
    rw [setsFrom?_succ, PatternFlags.skipSpace_append (.of_ne_nil left)]
    exact setsStep?_append (setsFrom?_nil fuel)
      (fun read => ih read (Nat.le_of_succ_le_succ enough)) read

theorem bracketed?_append {cs rest : List Char} {s : CharSet} {depth : Nat}
    (read : bracketed? f cs = some (s, depth, rest)) (more : List Char) :
    bracketed? f (cs ++ '|' :: more) = some (s, depth, rest ++ '|' :: more) := by
  obtain ⟨⟨o, after⟩, opened, read⟩ := Option.bind_eq_some_iff.mp read
  obtain ⟨⟨t, d, rest'⟩, sets, read⟩ := Option.bind_eq_some_iff.mp read
  dsimp only at sets read
  unfold bracketed?
  rw [openSet?_append opened, Option.bind_eq_bind, Option.bind_some]
  dsimp only
  rw [setsFrom?_append sets (by simp) more]
  split at read
  · cases read
  · rename_i fits
    cases read
    exact if_neg fits

end RefDoc.PatternReader
