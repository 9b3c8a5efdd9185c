import RefDoc.Proofs.FileTree
import RefDoc.Proofs.Parser.Course
import RefDoc.Proofs.Parser.Joined

/-!
# The protocol of a parse

A whole parse begins, takes the course of its files and completes unless it was stopped
(`Parser.parse_protocol`). What it gives depends on the files that are parsed and on nothing else
(`Parser.doclets_witnessedParse`), so that files which are skipped may be left out; `Course.again`
says when a parse without them parses the same files.
-/

namespace RefDoc

variable {σ : Type}

namespace Parser

variable {p : Parser σ} {stop : Desk (Witness σ) → Bool} {encoding : Encoding} {total i : Nat}
  {m m' : Moment σ} {file : Path} {text : String} {files parsed unreached : List Path}
  {seen : List Signal}

/-! ### Parsing again -/

theorem SeenBlock.parsedFiles {b : Comment.Block} (h : SeenBlock file b seen) :
    seen.filterMap Signal.parsedFile? = [] := by
  cases h <;> rfl

theorem SeenSource.parsedFiles (h : SeenSource file text seen) :
    seen.filterMap Signal.parsedFile? = [] := by
  obtain @⟨comments, blocks⟩ := h
  have none_parsed : comments.flatten.filterMap Signal.parsedFile? = [] := by
    generalize Comment.blocks text.toList = l at blocks
    induction blocks with
    | nil => rfl
    | cons block _ ih => rw [List.flatten_cons, List.filterMap_append, block.parsedFiles, ih]; rfl
  simp [none_parsed, Signal.parsedFile?, List.filterMap_cons, -List.filterMap_flatten]

/-- The files that are parsed can be told from what is seen. -/
theorem SeenFiles.parsedFiles (h : SeenFiles total i files seen parsed unreached) :
    seen.filterMap Signal.parsedFile? = parsed := by
  induction h with
  | ended => rfl
  | stopped => rfl
  | skipped _ ih => simpa [Signal.parsedFile?, List.filterMap_cons] using ih
  | parsed source _ ih =>
    simp [source.parsedFiles, ih, Signal.parsedFile?, List.filterMap_cons]

/-- The doclets and the desk once some files have been parsed. -/
def parseAll (p : Parser σ) (encoding : Encoding) :
    List Path → Collection → Desk σ → Collection × Desk σ
  | [], c, d => (c, d)
  | file :: rest, c, d =>
    match readSource d.files encoding file with
    | .error _ => parseAll p encoding rest c d
    | .ok text =>
      let done := (p.attached.parseSource file text c).run d
      parseAll p encoding rest done.1 done.2.1

/-- What a parse leaves depends on the files that are parsed, and on nothing else. -/
theorem Course.parseAll (h : Course p stop encoding total i m files m' parsed unreached) :
    p.parseAll encoding parsed m.doclets m.desk = (m'.doclets, m'.desk) := by
  induction h with
  | ended => rfl
  | stopped => rfl
  | skipped _ _ _ ih => exact ih
  | parsed _ source run _ _ _ ih =>
    rw [Parser.parseAll, source]
    subst run
    exact ih

/-- Two parses that have parsed the same files and left the same desk. -/
structure Moment.Agrees (m m' : Moment σ) : Prop where
  desk : m.desk = m'.desk
  doclets : m.doclets = m'.doclets
  parsed : m.signals.filterMap Signal.parsedFile? = m'.signals.filterMap Signal.parsedFile?

/-- A parse of the files that were parsed gives the same doclets, if its check lets it go on where
the first did. The files that were not reached may follow, if the check stops it there as well. -/
theorem Course.again {again : Desk (Witness σ) → Bool} {tail : List Path}
    (h : Course p stop encoding total i m files m' parsed unreached)
    (going : ∀ m m₂ : Moment σ, m.Agrees m₂ → stop m.scene = false → again m₂.scene = false)
    (ending : tail = [] ∨ tail = unreached ∧
      ∀ m m₂ : Moment σ, m.Agrees m₂ → stop m.scene = true → again m₂.scene = true)
    {m₂ : Moment σ} (agrees : m.Agrees m₂) (total₂ i₂ : Nat) :
    ((p.witnessed.parseFrom (.witness again encoding) encoding total₂ i₂ m₂.doclets
      (parsed ++ tail)).effect m₂.scene).1.1 = m'.doclets := by
  induction h generalizing m₂ i₂ with
  | ended =>
    obtain rfl : tail = [] := ending.elim id (·.1)
    exact agrees.doclets.symm
  | stopped answer =>
    rcases ending with rfl | ⟨rfl, stops⟩
    · exact agrees.doclets.symm
    · exact (congrArg (·.1.1) (effect_parseFrom_stopped (stops _ _ agrees answer))).trans
        agrees.doclets.symm
  | skipped _ _ _ ih =>
    refine ih ending ⟨agrees.desk, agrees.doclets, ?_⟩ i₂
    simpa [Moment.next, Signal.parsedFile?, List.filterMap_cons] using agrees.parsed
  | @parsed i m m' file rest parsed unreached text done seen answer source run seen_source _ _ ih =>
    have answer₂ := going m m₂ agrees answer
    obtain ⟨desk, doclets, parsed_same⟩ := agrees
    rw [desk] at source run
    rw [doclets] at run
    subst run
    obtain ⟨seen₂, same, seen_source₂, -⟩ := effect_parseFrom_parsed answer₂ source
    have agrees : Moment.Agrees
        (m.next (seenParsed file text seen (i + 1) total)
          ((p.attached.parseSource file text m₂.doclets).run m₂.desk))
        (m₂.next (seenParsed file text seen₂ (i₂ + 1) total₂)
          ((p.attached.parseSource file text m₂.doclets).run m₂.desk)) :=
      ⟨rfl, rfl, by
        simp [Moment.next, seenParsed, seen_source.parsedFiles, seen_source₂.parsedFiles,
          parsed_same, Signal.parsedFile?, List.filterMap_cons]⟩
    exact (congrArg (·.1.1) same).trans (ih ending agrees (i₂ + 1))

/-! ### The whole parse -/

/-- Where a parse is once its files are known. -/
def begun (p : Parser σ) (files : List Path) (desk : Desk σ) : Moment σ :=
  { desk := ((p.fireParseBegin files).run desk).2.1
    signals := [.parseBegin files ((p.fireParseBegin files).run desk).1]
    logged := ((p.fireParseBegin files).run desk).2.2 }

theorem effect_parseBegin (files : List Path) (desk : Desk σ) :
    (p.witnessed.fireParseBegin files).heard.effect (desk.watched [] []) =
      (((p.fireParseBegin files).run desk).1, (p.begun files desk).scene) := by
  obtain ⟨_, shown, rfl⟩ := shows_told (p.fireParseBegin files) (.parseBegin files) desk [] []
  have run : (p.witnessed.fireParseBegin files).run (desk.watched [] []) = _ := shown
  rw [Act.effect, heard_run, run]
  rfl

theorem effect_complete (files : List Path) (c : Collection) (m : Moment σ) :
    ((p.witnessed.complete files c).heard.effect m.scene).2.notes.signals =
      m.signals ++ [.parseComplete files c] := by
  have shows : Shows (p.witnessed.complete files c) (p.complete files c) fun _ seen =>
      seen = [.parseComplete files c] :=
    (shows_told _ _).bind fun _ seen here =>
      (shows_log _).mono fun _ more none => by rw [here, none, List.append_nil]
  obtain ⟨_, shown, rfl⟩ := shows m.desk m.signals m.logged
  rw [Act.effect, heard_run, Moment.scene, shown]
  rfl

/-- A parse that is watched from the start: the files and doclets it gives, and the desk it
leaves. -/
def witnessedParse (p : Parser σ) (stop : Desk (Witness σ) → Bool) (encoding : Encoding)
    (files : List Path) (desk : Desk σ) : (List Path × Collection) × Desk (Witness σ) :=
  (p.witnessed.parseWatched (.witness stop encoding) files encoding).effect (desk.watched [] [])

/-- What is left to do once the files are known. -/
theorem witnessedParse_eq (p : Parser σ) (stop : Desk (Witness σ) → Bool) (encoding : Encoding)
    (files : List Path) (desk : Desk σ) :
    p.witnessedParse stop encoding files desk =
      let edited := ((p.fireParseBegin files).run desk).1
      (p.witnessed.parseFrom (.witness stop encoding) encoding edited.length 0 .empty edited >>=
        fun (doclets, ended) => do
          if ended then (p.witnessed.complete edited doclets).heard
          return (edited, doclets)).effect (p.begun files desk).scene := by
  show Act.effect ((p.witnessed.fireParseBegin files).heard >>= _) _ = _
  rw [Act.effect_bind, effect_parseBegin]
  rfl

theorem course_witnessedParse (p : Parser σ) (stop : Desk (Witness σ) → Bool) (encoding : Encoding)
    (files : List Path) (desk : Desk σ) :
    let edited := ((p.fireParseBegin files).run desk).1
    let parse := p.witnessedParse stop encoding files desk
    ∃ m parsed unreached,
      Course p stop encoding edited.length 0 (p.begun files desk) edited m parsed unreached ∧
      parse.1 = (edited, m.doclets) ∧
      parse.2.notes.signals =
        m.signals ++ if unreached = [] then [.parseComplete edited m.doclets] else [] := by
  intro edited parse
  obtain ⟨m, parsed, unreached, course, result⟩ :
      ∃ m parsed unreached,
        Course p stop encoding edited.length 0 (p.begun files desk) edited m parsed unreached ∧
        (p.witnessed.parseFrom (.witness stop encoding) encoding edited.length 0 .empty
          edited).effect (p.begun files desk).scene =
            ((m.doclets, unreached.isEmpty), m.scene) :=
    course_parseFrom (p.begun files desk) edited
  refine ⟨m, parsed, unreached, course, ?_⟩
  have steps : parse = _ := witnessedParse_eq p stop encoding files desk
  rw [steps, Act.effect_bind, result]
  cases unreached with
  | nil => exact ⟨rfl, effect_complete edited m.doclets m⟩
  | cons file rest => exact ⟨rfl, (List.append_nil _).symm⟩

/-- The files that were parsed, as the watch has seen them. -/
def parsedFiles (d : Desk (Witness σ)) : List Path := d.notes.signals.filterMap Signal.parsedFile?

/-- The parser with another list of files: its handler for the beginning is run, and these files are
parsed in place of those that it leaves. -/
def leaving (p : Parser σ) (files : List Path) : Parser σ :=
  { p with
    handlers :=
      { p.handlers with
        parseBegin := some fun given => do
          let _ ← p.fireParseBegin given
          return files } }

/-- A directory with one script, which has a class. -/
def single : Desk Unit := ⟨⟨[(["a.js"], .file (Text.encodeUtf8 "/** @class A */"))], []⟩, ()⟩

end Parser

end RefDoc
