import RefDoc.Proofs.Pattern.Sets

/-!
# Tokens of patterns

The reader of patterns goes by tokens: what it takes from the text at once depends on the flags in
force alone (`token?`), and what becomes of it on the groups that are open (`Reader.take?`); one
after the other they are a step of the reader (`Reader.next?_eq`). A token is the same where a bar
and more text follow (`token?_append`).
-/

namespace RefDoc.PatternReader

open Text

variable {f : PatternFlags}

/-! ### Flags, names and counts -/

theorem dropWhile_append_of_ne_nil {p : Char → Bool} {cs : List Char}
    (left : cs.dropWhile p ≠ []) (more : List Char) :
    (cs ++ more).dropWhile p = cs.dropWhile p ++ more := by
  rw [List.dropWhile_append, if_neg (by simpa using left)]

theorem flags?_append {g g' : PatternFlags} {seen cs rest : List Char} {opens : Bool}
    (read : flags? g seen cs = some (g', opens, rest)) (more : List Char) :
    flags? g seen (cs ++ more) = some (g', opens, rest ++ more) := by
  induction cs generalizing g seen with
  | nil => cases read
  | cons c cs ih =>
    rw [List.cons_append]
    unfold flags? at read ⊢
    split at read
    · rename_i ends
      rw [if_pos ends]
      split at read
      · cases read
      · rename_i fits
        cases read
        rw [if_neg fits]
    · rename_i goesOn
      rw [if_neg goesOn]
      split at read
      · cases read
      · rename_i fresh
        rw [if_neg fresh]
        split at read
        · rename_i hyphen
          rw [if_pos hyphen]
          exact ih read
        · rename_i letter
          rw [if_neg letter]
          obtain ⟨g', set, read⟩ := Option.bind_eq_some_iff.mp read
          rw [set]
          exact ih read

theorem local_groupName : Local (fun _ => True) groupName? := by
  intro cs name rest read _ more
  unfold groupName? at read ⊢
  split at read
  · rename_i c name' d rest' taken dropped
    obtain ⟨taken', dropped'⟩ := span_append dropped ('|' :: more)
    rw [taken', dropped', taken]
    split at read
    · rename_i named
      cases read
      simp only [if_pos named]
    · cases read
  · cases read

theorem count?_eq (cs : List Char) : count? f cs =
    (decimal? ((shown f (cs.dropWhile isBlank)).takeWhile isAsciiDigit)).bind fun n =>
      if n < 0x100000000 then
        some (n, f.skipSpace (((cs.dropWhile isBlank).dropWhile fun c =>
          isAsciiDigit c || (f.spaced && isBlank c)).dropWhile isBlank))
      else none := rfl

theorem local_count : Local (· ≠ []) (count? f) := by
  intro cs n rest read left more
  rw [count?_eq] at read ⊢
  obtain ⟨m, decimal, read⟩ := Option.bind_eq_some_iff.mp read
  split at read
  · rename_i small
    cases read
    have kept : ((cs.dropWhile isBlank).dropWhile fun c =>
        isAsciiDigit c || (f.spaced && isBlank c)).dropWhile isBlank ≠ [] :=
      fun empty => left (by rw [empty, f.skipSpace_nil])
    have after : (cs.dropWhile isBlank).dropWhile
        (fun c => isAsciiDigit c || (f.spaced && isBlank c)) ≠ [] :=
      fun empty => kept (by rw [empty]; rfl)
    obtain ⟨c, behind, digits⟩ := List.exists_cons_of_ne_nil after
    have start : cs.dropWhile isBlank ≠ [] := fun empty => by
      rw [empty] at digits
      cases digits
    obtain ⟨taken, dropped⟩ := shown_append digits ('|' :: more)
    rw [dropWhile_append_of_ne_nil start, taken, dropped, decimal, Option.bind_some, if_pos small,
      ← List.cons_append, ← digits, dropWhile_append_of_ne_nil kept,
      PatternFlags.skipSpace_append (.of_ne_nil left)]
  · cases read

theorem count?_nil {n : Nat} {rest : List Char} (read : count? f [] = some (n, rest)) :
    rest = [] := by
  rw [count?_eq] at read
  obtain ⟨m, -, read⟩ := Option.bind_eq_some_iff.mp read
  split at read
  · cases read
    exact f.skipSpace_nil
  · cases read

/-- The upper bound of a repetition, if there is one. -/
def upper? (f : PatternFlags) (min : Nat) (cs : List Char) :
    Option (Nat × Option Nat × List Char) :=
  match cs with
  | '\x7d' :: rest => some (min, none, f.skipSpace rest)
  | rest => do
    let (max, cs) ← count? f rest
    let '\x7d' :: rest := cs | none
    if max < min then none else some (min, some max, f.skipSpace rest)

/-- What comes behind the lower bound of a repetition. -/
def bounds? (f : PatternFlags) (min : Nat) (cs : List Char) :
    Option (Nat × Option Nat × List Char) :=
  match cs with
  | '\x7d' :: rest => some (min, some min, f.skipSpace rest)
  | ',' :: rest => upper? f min (f.skipSpace rest)
  | _ => none

theorem counts?_eq (cs : List Char) :
    counts? f cs = (count? f (f.skipSpace cs)).bind fun (min, cs) => bounds? f min cs := rfl

theorem upper?_append {cs rest : List Char} {least m : Nat} {n : Option Nat}
    (read : upper? f least cs = some (m, n, rest)) (keeps : f.Keeps rest) (more : List Char) :
    upper? f least (cs ++ '|' :: more) = some (m, n, rest ++ '|' :: more) := by
  unfold upper? at read
  split at read
  · cases read
    rw [List.cons_append, upper?, PatternFlags.skipSpace_append keeps]
  · rename_i given
    obtain ⟨⟨most, after⟩, count, read⟩ := Option.bind_eq_some_iff.mp read
    dsimp only at read
    split at read
    · rename_i behind
      split at read
      · cases read
      · rename_i fits
        cases read
        have onward := local_count count (by simp) more
        have left : cs ≠ [] := by
          rintro rfl
          cases count?_nil count
        obtain ⟨c, cs, rfl⟩ := List.exists_cons_of_ne_nil left
        rw [List.cons_append] at onward ⊢
        rw [upper?.eq_2, onward]
        · simp [fits, PatternFlags.skipSpace_append keeps]
        · exact fun _ same => given _ (by rw [(List.cons.inj same).1])
    · cases read

theorem bounds?_append {cs rest : List Char} {least m : Nat} {n : Option Nat}
    (read : bounds? f least cs = some (m, n, rest)) (keeps : f.Keeps rest) (more : List Char) :
    bounds? f least (cs ++ '|' :: more) = some (m, n, rest ++ '|' :: more) := by
  unfold bounds? at read
  split at read
  · cases read
    rw [List.cons_append, bounds?, PatternFlags.skipSpace_append keeps]
  · rename_i behind
    have left : f.skipSpace behind ≠ [] := by
      intro empty
      rw [empty, upper?] at read
      · obtain ⟨⟨most, after⟩, count, read⟩ := Option.bind_eq_some_iff.mp read
        obtain rfl := count?_nil count
        cases read
      · simp
    rw [List.cons_append, bounds?, PatternFlags.skipSpace_append (.of_ne_nil left)]
    exact upper?_append read keeps more
  · cases read

theorem counts?_append {cs rest : List Char} {m : Nat} {n : Option Nat}
    (read : counts? f cs = some (m, n, rest)) (keeps : f.Keeps rest) (more : List Char) :
    counts? f (cs ++ '|' :: more) = some (m, n, rest ++ '|' :: more) := by
  rw [counts?_eq] at read ⊢
  obtain ⟨⟨least, after⟩, first, read⟩ := Option.bind_eq_some_iff.mp read
  dsimp only at read
  have left : after ≠ [] := by
    rintro rfl
    cases read
  have start : f.skipSpace cs ≠ [] := by
    intro empty
    rw [empty] at first
    exact left (count?_nil first)
  rw [PatternFlags.skipSpace_append (.of_ne_nil start), local_count first left more,
    Option.bind_some]
  exact bounds?_append read keeps more

/-! ### Tokens -/

/-- What is taken from the text at once. -/
inductive Token where
  | openGroup (flags : PatternFlags)
  | openNamed (name : String)
  | setFlags (flags : PatternFlags)
  | closeGroup
  | bar
  | part (pattern : Pattern) (depth : Nat)
  | repeated (min : Nat) (max : Option Nat)

/-- The flags in force behind a token. Those behind a group are not told by the token. -/
def Token.flags (f : PatternFlags) : Token → PatternFlags
  | openGroup flags | setFlags flags => flags
  | closeGroup => {}
  | openNamed _ | bar | part _ _ | repeated _ _ => f

def named? (cs : List Char) : Option (Token × List Char) :=
  (groupName? cs).map fun (name, rest) => (.openNamed name, rest)

def flagged? (f : PatternFlags) (cs : List Char) : Option (Token × List Char) :=
  (flags? f [] cs).map fun (flags, opens, rest) =>
    (if opens then .openGroup flags else .setFlags flags, rest)

/-- What an opening parenthesis begins, blanks behind it skipped. -/
def opening? (f : PatternFlags) : List Char → Option (Token × List Char)
  | '?' :: '=' :: _ | '?' :: '!' :: _ | '?' :: '<' :: '=' :: _ | '?' :: '<' :: '!' :: _ => none
  | '?' :: 'P' :: '<' :: rest | '?' :: '<' :: rest => named? rest
  | '?' :: rest => flagged? f rest
  | cs => some (.openGroup f, cs)

def token? (f : PatternFlags) (c : Char) (rest : List Char) : Option (Token × List Char) :=
  match c with
  | '(' => opening? f (f.skipSpace rest)
  | ')' => some (.closeGroup, rest)
  | '|' => some (.bar, rest)
  | '[' => (bracketed? f rest).map fun (s, depth, rest) => (.part (.char s) depth, rest)
  | '?' => some (.repeated 0 (some 1), skipLazy rest)
  | '*' => some (.repeated 0 none, skipLazy rest)
  | '+' => some (.repeated 1 none, skipLazy rest)
  | '\x7b' => (counts? f rest).map fun (min, max, rest) => (.repeated min max, skipLazy rest)
  | '.' => (ofPrimitive? f (.set (dot f))).map fun p => (.part p 0, rest)
  | '^' => some (.part (.assertion (lineStart f)) 0, rest)
  | '$' => some (.part (.assertion (lineEnd f)) 0, rest)
  | '\\' => (escape? f rest).bind fun (p, rest) =>
    (ofPrimitive? f p).map fun p => (.part p 0, rest)
  | c => (ofPrimitive? f (.literal c false)).map fun p => (.part p 0, rest)

namespace Reader

/-- What becomes of a token. -/
def take? (r : Reader) : Token → Option Reader
  | .openGroup flags => some (r.openGroup flags)
  | .openNamed name =>
    if r.names.contains name then none
    else some { r.openGroup r.group.flags with names := name :: r.names }
  | .setFlags flags =>
    some { r with group := { r.group with flags }.push { pattern := .empty, bare := true } }
  | .closeGroup => r.closeGroup?
  | .bar => some { r with group := r.group.nextBranch }
  | .part pattern depth => some (r.push { pattern, depth })
  | .repeated min max => (r.group.repeatLast? min max).map fun group => { r with group }

theorem parenthesis?_eq (r : Reader) (cs : List Char) :
    r.parenthesis? cs = (opening? r.group.flags (r.group.flags.skipSpace cs)).bind
      fun (t, rest) => (r.take? t).map (·, rest) := by
  have named (cs : List Char) :
      r.openNamed? cs = (named? cs).bind fun (t, rest) => (r.take? t).map (·, rest) := by
    unfold openNamed? named?
    cases groupName? cs with
    | none => rfl
    | some found =>
      simp only [Option.bind_eq_bind, Option.bind_some, Option.map_some, take?]
      split <;> rfl
  have flagged (cs : List Char) :
      (do
        let (flags, opens, rest) ← flags? r.group.flags [] cs
        if opens then some (r.openGroup flags, rest)
        else
          let group := { r.group with flags }.push { pattern := .empty, bare := true }
          some ({ r with group }, rest)) =
        (flagged? r.group.flags cs).bind fun (t, rest) => (r.take? t).map (·, rest) := by
    unfold flagged?
    cases flags? r.group.flags [] cs with
    | none => rfl
    | some found =>
      obtain ⟨flags, opens, rest⟩ := found
      cases opens <;> rfl
  unfold parenthesis? opening?
  simp only [named]
  generalize r.group.flags.skipSpace cs = cs
  split
  case h_7 => exact (flagged _).trans (by simp [*])
  all_goals simp [*, take?]

theorem repeat?_eq (r : Reader) (min : Nat) (max : Option Nat) (rest : List Char) :
    r.repeat? min max rest = (r.take? (.repeated min max)).map (·, skipLazy rest) := by
  simp only [repeat?, take?]
  cases r.group.repeatLast? min max <;> rfl

theorem next?_eq (r : Reader) (c : Char) (rest : List Char) :
    r.next? c rest = (token? r.group.flags c rest).bind
      fun (t, rest) => (r.take? t).map (·, rest) := by
  have pushed (p : Option Pattern) (rest : List Char) :
      (do some (r.push { pattern := ← p }, rest)) =
        (p.map fun p => (Token.part p 0, rest)).bind
          fun (t, rest) => (r.take? t).map (·, rest) := by
    cases p <;> rfl
  unfold next? token?
  dsimp only
  split
  case h_1 => exact r.parenthesis?_eq rest
  case h_2 => exact (show _ = (r.closeGroup?).map (·, rest) by cases r.closeGroup? <;> rfl)
  case h_3 => rfl
  case h_4 => cases bracketed? r.group.flags rest <;> rfl
  case h_5 | h_6 | h_7 => exact r.repeat?_eq _ _ rest
  case h_8 =>
    cases counts? r.group.flags rest with
    | none => rfl
    | some found => exact r.repeat?_eq _ _ _
  case h_9 => exact pushed _ rest
  case h_10 | h_11 => rfl
  case h_12 =>
    cases escape? r.group.flags rest with
    | none => rfl
    | some found => exact pushed _ _
  case h_13 => exact (pushed _ rest).trans (by simp [*])

/-- The flags in force behind a token, unless a group was closed. -/
theorem flags_of_take? {r r' : Reader} {t : Token} (taken : r.take? t = some r')
    (spaced : (t.flags r.group.flags).spaced = true) :
    r'.group.flags = t.flags r.group.flags := by
  cases t with
  | openGroup flags | setFlags flags | bar | part p depth =>
    cases taken
    rfl
  | openNamed name =>
    unfold take? at taken
    dsimp only at taken
    split at taken
    · cases taken
    · cases taken
      rfl
  | closeGroup => cases spaced
  | repeated min max =>
    obtain ⟨group, repeated, rfl⟩ := Option.map_eq_some_iff.mp taken
    unfold Group.repeatLast? at repeated
    split at repeated
    · split at repeated
      · cases repeated
      · cases repeated
        rfl
    · cases repeated

end Reader

/-! ### Tokens before a bar -/

theorem skipLazy_append (cs more : List Char) :
    skipLazy (cs ++ '|' :: more) = skipLazy cs ++ '|' :: more := by
  cases cs with
  | nil => rfl
  | cons c cs =>
    by_cases lazy : c = '?'
    · subst lazy
      rfl
    · simp [skipLazy, lazy]

theorem local_named : Local (fun _ => True) named? := by
  intro cs t rest read kept more
  obtain ⟨⟨name, after⟩, read, same⟩ := Option.map_eq_some_iff.mp read
  cases same
  rw [named?, local_groupName read kept more]
  rfl

theorem local_flagged : Local (fun _ => True) (flagged? f) := by
  intro cs t rest read _ more
  obtain ⟨⟨flags, opens, after⟩, read, same⟩ := Option.map_eq_some_iff.mp read
  cases same
  rw [flagged?, flags?_append read]
  rfl

theorem local_opening : Local (fun _ => True) (opening? f) := by
  intro cs t rest read kept more
  unfold opening? at read
  split at read
  case h_1 | h_2 | h_3 | h_4 => cases read
  case h_5 => exact local_named read kept more
  case h_6 after noAhead noBehind =>
    obtain ⟨c, after, rfl⟩ : ∃ c l, after = c :: l := by
      cases after with
      | nil => cases read
      | cons c l => exact ⟨c, l, rfl⟩
    have onward := local_named read kept more
    rw [List.cons_append] at onward
    simp only [List.cons_append]
    rw [opening?.eq_6, onward]
    · exact fun _ same => noAhead _ (by rw [(List.cons.inj same).1])
    · exact fun _ same => noBehind _ (by rw [(List.cons.inj same).1])
  case h_7 after noAhead noBehind _ _ noPython noName =>
    obtain ⟨c, after, rfl⟩ : ∃ c l, after = c :: l := by
      cases after with
      | nil => cases read
      | cons c l => exact ⟨c, l, rfl⟩
    have onward := local_flagged read kept more
    have noName' : c ≠ '<' := fun same => noName after (by rw [same])
    rw [List.cons_append] at onward
    simp only [List.cons_append]
    rw [opening?.eq_7, onward]
    · exact fun _ same => noAhead _ (by rw [(List.cons.inj same).1])
    · exact fun _ same => noBehind _ (by rw [(List.cons.inj same).1])
    · exact fun _ same => noName' (List.cons.inj same).1
    · exact fun _ same => noName' (List.cons.inj same).1
    · intro l same
      cases after with
      | nil => cases (List.cons.inj same).2
      | cons d after =>
        obtain ⟨rfl, behind⟩ := List.cons.inj same
        exact noPython after (by rw [(List.cons.inj behind).1])
    · exact fun _ same => noName' (List.cons.inj same).1
  case h_8 plain =>
    cases read
    have group (cs : List Char) (plain : cs.head? ≠ some '?') :
        opening? f cs = some (.openGroup f, cs) := by
      unfold opening?
      split
      all_goals first | rfl | exact absurd rfl plain
    refine group _ ?_
    cases cs with
    | nil => simp
    | cons c cs => simpa using fun same : c = '?' => plain cs (by rw [same])

/-- A token is read alike with a bar and more text behind it. -/
theorem token?_append {c : Char} {cs rest : List Char} {t : Token}
    (read : token? f c cs = some (t, rest)) (keeps : (t.flags f).Keeps rest) (more : List Char) :
    token? f c (cs ++ '|' :: more) = some (t, rest ++ '|' :: more) := by
  have pushed {p : Option Pattern} {rest : List Char} (left : List Char)
      (read : p.map (fun p => (Token.part p 0, rest)) = some (t, left)) :
      left = rest ∧ t.flags f = f ∧
        p.map (fun p => (Token.part p 0, rest ++ '|' :: more)) =
          some (t, left ++ '|' :: more) := by
    obtain ⟨p, rfl, same⟩ := Option.map_eq_some_iff.mp read
    cases same
    exact ⟨rfl, rfl, rfl⟩
  unfold token? at read ⊢
  split at read
  case h_1 =>
    have start : f.Keeps (f.skipSpace cs) := by
      by_cases empty : f.skipSpace cs = []
      · rw [empty] at read
        cases read
        rwa [empty]
      · exact .of_ne_nil empty
    rw [PatternFlags.skipSpace_append start]
    exact local_opening read trivial more
  case h_2 | h_3 | h_10 | h_11 =>
    cases read
    rfl
  case h_4 =>
    obtain ⟨⟨s, depth, after⟩, set, same⟩ := Option.map_eq_some_iff.mp read
    cases same
    rw [bracketed?_append set more]
    rfl
  case h_5 | h_6 | h_7 =>
    cases read
    rw [skipLazy_append]
  case h_8 =>
    obtain ⟨⟨min, max, after⟩, counts, same⟩ := Option.map_eq_some_iff.mp read
    cases same
    have keeps' : f.Keeps after := keeps.before fun empty => by rw [empty]; rfl
    rw [counts?_append counts keeps' more, Option.map_some]
    dsimp only
    rw [skipLazy_append]
  case h_9 =>
    obtain ⟨rfl, -, read⟩ := pushed rest read
    exact read
  case h_13 =>
    obtain ⟨rfl, -, read⟩ := pushed rest read
    simp [*]
  case h_12 =>
    obtain ⟨⟨p, after⟩, escape, read⟩ := Option.bind_eq_some_iff.mp read
    obtain ⟨rfl, same, read⟩ := pushed rest read
    rw [same] at keeps
    rw [local_escape escape keeps more]
    exact read

end RefDoc.PatternReader
