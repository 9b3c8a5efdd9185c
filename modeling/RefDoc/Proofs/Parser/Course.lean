import Mathlib.Data.List.Forall2
import RefDoc.Proofs.Parser.Signals

/-!
# The course of a parse

What is seen of a parse has a fixed form: of a comment (`SeenBlock`), of the text of a file
(`SeenSource`) and of a list of files (`SeenFiles`). A parse is followed from one file to the next
(`Course`), each step of it an equation about `Parser.parseFrom`; what is seen on its course has
that form (`Course.seenFiles`).
-/

namespace RefDoc

variable {σ : Type}

namespace Parser

/-- What is seen of a comment: that it was found, and the doclet if the comment as it was left makes
one. -/
inductive SeenBlock (file : Path) (b : Comment.Block) : List Signal → Prop
  | bare {comment : String} : docletAt? comment file b = none →
      SeenBlock file b [.commentFound (String.ofList b.text) file b.line comment]
  | doclet {comment : String} {d left : Doclet} : docletAt? comment file b = some d →
      SeenBlock file b
        [.commentFound (String.ofList b.text) file b.line comment, .newDoclet d left]

/-- What is seen of the text of a file: its comments in order, between its beginning and its end. -/
inductive SeenSource (file : Path) (text : String) : List Signal → Prop
  | intro {comments : List (List Signal)} :
      List.Forall₂ (SeenBlock file) (Comment.blocks text.toList) comments →
      SeenSource file text (.fileBegin file :: comments.flatten ++ [.fileComplete file])

/-- What is seen of the files of a list, from number `i + 1` on: which of them are parsed, and which
are not reached. -/
inductive SeenFiles (total : Nat) :
    Nat → List Path → List Signal → List Path → List Path → Prop
  | ended {i : Nat} : SeenFiles total i [] [] [] []
  | stopped {i : Nat} {file : Path} {rest : List Path} :
      SeenFiles total i (file :: rest) [.asked true] [] (file :: rest)
  | skipped {i : Nat} {file : Path} {rest parsed unreached : List Path} {e : Event}
      {seen : List Signal} :
      SeenFiles total (i + 1) rest seen parsed unreached →
      SeenFiles total i (file :: rest) (.asked false :: .taken file (.error e) :: seen) parsed
        unreached
  | parsed {i : Nat} {file : Path} {rest parsed unreached : List Path} {text : String}
      {source seen : List Signal} :
      SeenSource file text source → SeenFiles total (i + 1) rest seen parsed unreached →
      SeenFiles total i (file :: rest)
        (.asked false :: .taken file (.ok text) :: source ++ .parsed file (i + 1) total :: seen)
        (file :: parsed) unreached

/-! ### One file -/

theorem shows_parseBlock (p : Parser σ) (file : Path) (c : Collection) (b : Comment.Block) :
    Shows (p.witnessed.parseBlock file c b) (p.attached.parseBlock file c b) fun c' seen =>
      SeenBlock file b seen ∧ c'.doclets = c.doclets ++ seen.filterMap Signal.doclet? := by
  rw [parseBlock, parseBlock, witnessed_fireCommentFound, attached_fireCommentFound]
  refine (shows_told _ _).bind fun comment seen here => ?_
  subst here
  simp only [witnessed_standard, attached_standard, Bool.not_true, Bool.false_eq_true, if_false]
  cases made : docletAt? comment file b with
  | none => exact shows_pure ⟨.bare made, (List.append_nil _).symm⟩
  | some d =>
    dsimp only
    rw [witnessed_fireNewDoclet, attached_fireNewDoclet]
    refine (shows_told _ _).bind fun left seen here => ?_
    subst here
    exact shows_pure ⟨.doclet made, rfl⟩

theorem shows_parseBlocks (p : Parser σ) (file : Path) (blocks : List Comment.Block)
    (c : Collection) :
    Shows (blocks.foldlM (p.witnessed.parseBlock file) c)
      (blocks.foldlM (p.attached.parseBlock file) c) fun c' seen =>
        (∃ comments, List.Forall₂ (SeenBlock file) blocks comments ∧ seen = comments.flatten) ∧
          c'.doclets = c.doclets ++ seen.filterMap Signal.doclet? := by
  induction blocks generalizing c with
  | nil => exact shows_pure ⟨⟨[], .nil, rfl⟩, by simp⟩
  | cons b rest ih =>
    rw [List.foldlM_cons, List.foldlM_cons]
    refine (p.shows_parseBlock file c b).bind fun c₁ seen ⟨block, doclets⟩ => ?_
    refine (ih c₁).mono fun c₂ more ⟨⟨comments, others, same⟩, doclets'⟩ => ?_
    refine ⟨⟨seen :: comments, .cons block others, by rw [same, List.flatten_cons]⟩, ?_⟩
    rw [doclets', doclets, List.filterMap_append, List.append_assoc]

theorem shows_parseSource (p : Parser σ) (file : Path) (text : String) (c : Collection) :
    Shows (p.witnessed.parseSource file text c) (p.attached.parseSource file text c) fun c' seen =>
      SeenSource file text seen ∧ c'.doclets = c.doclets ++ seen.filterMap Signal.doclet? := by
  refine (shows_told _ _).bind fun _ first begun => ?_
  refine (p.shows_parseBlocks file _ c).bind fun c₁ seen ⟨⟨comments, blocks, same⟩, doclets⟩ => ?_
  refine (shows_told _ _).bind fun _ last ended => ?_
  subst begun same ended
  refine shows_pure ⟨.intro blocks, ?_⟩
  simp [doclets, Signal.doclet?, List.filterMap_cons]

/-! ### Step by step -/

/-- Where a parse is between two files. -/
structure Moment (σ : Type) where
  desk : Desk σ
  signals : List Signal := []
  logged : List Event := []
  doclets : Collection := .empty

namespace Moment

def scene (m : Moment σ) : Desk (Witness σ) := m.desk.watched m.signals m.logged

/-- The moment after something was seen and done. -/
def next (m : Moment σ) (seen : List Signal) (done : Collection × Desk σ × List Event) : Moment σ :=
  { desk := done.2.1
    signals := m.signals ++ seen
    logged := m.logged ++ done.2.2
    doclets := done.1 }

/-- What is seen before something is done. -/
abbrev seeing (m : Moment σ) (seen : List Signal) : Moment σ :=
  m.next seen (m.doclets, m.desk, [])

theorem scene_seeing (m : Moment σ) (seen : List Signal) :
    (m.seeing seen).scene = m.desk.watched (m.signals ++ seen) m.logged := by
  rw [seeing, next, List.append_nil]
  rfl

end Moment

variable {p : Parser σ} {stop : Desk (Witness σ) → Bool} {encoding : Encoding} {total i : Nat}
  {m m' : Moment σ} {file : Path} {text : String} {files rest parsed unreached : List Path}
  {e : Event}

theorem parseFile_run_error {q : Parser σ} {d : Desk σ} {c : Collection}
    (source : readSource d.files encoding file = .error e) :
    (q.parseFile encoding file c).run d = (none, d, [e]) := by
  have found : readSource (Act.files.run d).1 encoding file = .error e := source
  rw [parseFile, Act.bind_run, found]
  rfl

theorem parseFile_run_ok {q : Parser σ} {d : Desk σ} {c : Collection}
    (source : readSource d.files encoding file = .ok text) :
    (q.parseFile encoding file c).run d =
      (some ((q.parseSource file text c).run d).1, ((q.parseSource file text c).run d).2.1,
        ((q.parseSource file text c).run d).2.2) := by
  have found : readSource (Act.files.run d).1 encoding file = .ok text := source
  rw [parseFile, Act.bind_run, found]
  show (_, _, [] ++ (((q.parseSource file text c).run d).2.2 ++ [])) = _
  simp only [List.nil_append, List.append_nil]
  rfl

theorem effect_parseFile_error (before : List Signal)
    (source : readSource m.desk.files encoding file = .error e) :
    (p.witnessed.parseFile encoding file m.doclets).heard.effect (m.seeing before).scene =
      (none, (m.next before (m.doclets, m.desk, [e])).scene) := by
  have run : (p.witnessed.parseFile encoding file m.doclets).run
      (m.desk.watched (m.signals ++ before) m.logged) = _ := parseFile_run_error source
  rw [Moment.scene_seeing, Act.effect, heard_run, run]
  rfl

theorem effect_parseFile_ok (before : List Signal)
    (source : readSource m.desk.files encoding file = .ok text) :
    ∃ seen, (p.witnessed.parseFile encoding file m.doclets).heard.effect (m.seeing before).scene =
        (some ((p.attached.parseSource file text m.doclets).run m.desk).1,
          (m.next (before ++ seen)
            ((p.attached.parseSource file text m.doclets).run m.desk)).scene) ∧
      SeenSource file text seen ∧
      ((p.attached.parseSource file text m.doclets).run m.desk).1.doclets =
        m.doclets.doclets ++ seen.filterMap Signal.doclet? := by
  obtain ⟨seen, shown, holds⟩ :=
    p.shows_parseSource file text m.doclets m.desk (m.signals ++ before) m.logged
  refine ⟨seen, ?_, holds⟩
  have run : (p.witnessed.parseFile encoding file m.doclets).run
      (m.desk.watched (m.signals ++ before) m.logged) = _ := parseFile_run_ok source
  rw [Moment.scene_seeing, Act.effect, heard_run, run, shown, List.append_assoc]
  rfl

theorem effect_stop (m : Moment σ) :
    (Watch.witness stop encoding).stop.effect m.scene =
      (stop m.scene, (m.seeing [.asked (stop m.scene)]).scene) := by
  rw [Moment.scene_seeing]
  rfl

theorem effect_parseFrom_stopped (answer : stop m.scene = true) :
    (p.witnessed.parseFrom (.witness stop encoding) encoding total i m.doclets
        (file :: rest)).effect m.scene =
      ((m.doclets, false),
        (m.next [.asked true] (m.doclets, m.desk, [stoppedEvent (rest.length + 1)])).scene) := by
  rw [parseFrom, Act.effect_bind, effect_stop, answer, Moment.scene_seeing]
  rfl

/-- Where the check lets the parse go on, the file is taken up. -/
theorem effect_parseFrom_taken (answer : stop m.scene = false) :
    (p.witnessed.parseFrom (.witness stop encoding) encoding total i m.doclets
        (file :: rest)).effect m.scene =
      ((p.witnessed.parseFile encoding file m.doclets).heard >>= fun
        | none =>
          p.witnessed.parseFrom (.witness stop encoding) encoding total (i + 1) m.doclets rest
        | some c => do
          Act.tell (.parsed file (i + 1) total)
          p.witnessed.parseFrom (.witness stop encoding) encoding total (i + 1) c rest).effect
        (m.seeing [.asked false, .taken file (readSource m.desk.files encoding file)]).scene := by
  have both (s t : Signal) : m.signals ++ [s, t] = m.signals ++ [s] ++ [t] := List.append_cons ..
  rw [parseFrom, Act.effect_bind, effect_stop, answer, Moment.scene_seeing, Moment.scene_seeing,
    both]
  rfl

theorem effect_parseFrom_skipped (answer : stop m.scene = false)
    (source : readSource m.desk.files encoding file = .error e) :
    (p.witnessed.parseFrom (.witness stop encoding) encoding total i m.doclets
        (file :: rest)).effect m.scene =
      (p.witnessed.parseFrom (.witness stop encoding) encoding total (i + 1) m.doclets rest).effect
        (m.next [.asked false, .taken file (.error e)] (m.doclets, m.desk, [e])).scene := by
  rw [effect_parseFrom_taken answer, Act.effect_bind, effect_parseFile_error _ source, source]

/-- What is seen of a file from where it is taken up to where it is parsed. -/
def seenParsed (file : Path) (text : String) (seen : List Signal) (position total : Nat) :
    List Signal :=
  [.asked false, .taken file (.ok text)] ++ seen ++ [.parsed file position total]

theorem effect_parseFrom_parsed (answer : stop m.scene = false)
    (source : readSource m.desk.files encoding file = .ok text) :
    ∃ seen, (p.witnessed.parseFrom (.witness stop encoding) encoding total i m.doclets
          (file :: rest)).effect m.scene =
        (p.witnessed.parseFrom (.witness stop encoding) encoding total (i + 1)
          ((p.attached.parseSource file text m.doclets).run m.desk).1 rest).effect
          (m.next (seenParsed file text seen (i + 1) total)
            ((p.attached.parseSource file text m.doclets).run m.desk)).scene ∧
      SeenSource file text seen ∧
      ((p.attached.parseSource file text m.doclets).run m.desk).1.doclets =
        m.doclets.doclets ++ seen.filterMap Signal.doclet? := by
  obtain ⟨seen, parsed, holds⟩ := effect_parseFile_ok
    [.asked false, .taken file (.ok text)] source
  refine ⟨seen, ?_, holds⟩
  rw [effect_parseFrom_taken answer, Act.effect_bind, source, parsed, seenParsed, Moment.next,
    Moment.next, ← List.append_assoc _ _ [_]]
  rfl

/-! ### The whole list -/

/-- How the files of a list are parsed one after another: each step, and in the end which files were
parsed and which were not reached. -/
inductive Course (p : Parser σ) (stop : Desk (Witness σ) → Bool) (encoding : Encoding)
    (total : Nat) : Nat → Moment σ → List Path → Moment σ → List Path → List Path → Prop
  | ended {i : Nat} {m : Moment σ} : Course p stop encoding total i m [] m [] []
  | stopped {i : Nat} {m : Moment σ} {file : Path} {rest : List Path} :
      stop m.scene = true →
      Course p stop encoding total i m (file :: rest)
        (m.next [.asked true] (m.doclets, m.desk, [stoppedEvent (rest.length + 1)]))
        [] (file :: rest)
  | skipped {i : Nat} {m m' : Moment σ} {file : Path} {rest parsed unreached : List Path}
      {e : Event} :
      stop m.scene = false → readSource m.desk.files encoding file = .error e →
      Course p stop encoding total (i + 1)
        (m.next [.asked false, .taken file (.error e)] (m.doclets, m.desk, [e]))
        rest m' parsed unreached →
      Course p stop encoding total i m (file :: rest) m' parsed unreached
  | parsed {i : Nat} {m m' : Moment σ} {file : Path} {rest parsed unreached : List Path}
      {text : String} {done : Collection × Desk σ × List Event} {seen : List Signal} :
      stop m.scene = false → readSource m.desk.files encoding file = .ok text →
      (p.attached.parseSource file text m.doclets).run m.desk = done →
      SeenSource file text seen →
      done.1.doclets = m.doclets.doclets ++ seen.filterMap Signal.doclet? →
      Course p stop encoding total (i + 1) (m.next (seenParsed file text seen (i + 1) total) done)
        rest m' parsed unreached →
      Course p stop encoding total i m (file :: rest) m' (file :: parsed) unreached

/-- A parse takes its course. -/
theorem course_parseFrom (m : Moment σ) (files : List Path) :
    ∃ m' parsed unreached, Course p stop encoding total i m files m' parsed unreached ∧
      (p.witnessed.parseFrom (.witness stop encoding) encoding total i m.doclets files).effect
        m.scene = ((m'.doclets, unreached.isEmpty), m'.scene) := by
  induction files generalizing i m with
  | nil => exact ⟨m, [], [], .ended, rfl⟩
  | cons file rest ih =>
    cases answer : stop m.scene with
    | true => exact ⟨_, [], file :: rest, .stopped answer, effect_parseFrom_stopped answer⟩
    | false =>
      cases source : readSource m.desk.files encoding file with
      | error e =>
        obtain ⟨m', parsed, unreached, course, result⟩ := ih (m.next _ _)
        exact ⟨m', parsed, unreached, .skipped answer source course,
          (effect_parseFrom_skipped answer source).trans result⟩
      | ok text =>
        obtain ⟨seen, same, source_seen, doclets⟩ := effect_parseFrom_parsed answer source
        obtain ⟨m', parsed, unreached, course, result⟩ := ih (m.next _ _)
        exact ⟨m', file :: parsed, unreached,
          .parsed answer source rfl source_seen doclets course, same.trans result⟩

end Parser

end RefDoc
