import RefDoc.Proofs.Parser.Protocol

/-!
# A parse and what is seen of it

A parser that is not watched from outside stops by its own check, which goes by the files parsed so
far and by what is on the desk. Its parse gives what the watched parse with that check gives
(`Parser.parse_run`), so that what is seen of the one is so of the other.
-/

namespace RefDoc

variable {σ : Type}

/-- The file that has been parsed, with its number. -/
def Signal.numbered? : Signal → Option (Path × Nat)
  | parsed file position _ => some (file, position)
  | _ => none

def ParseHistory.ofSignals (signals : List Signal) : ParseHistory :=
  { parsed := signals.filterMap Signal.numbered? }

namespace Parser

/-- The parser's own check, on a watched desk. -/
def ownStop (p : Parser σ) (d : Desk (Witness σ)) : Bool :=
  p.stop (ParseHistory.ofSignals d.notes.signals) ⟨d.files, d.notes.notes⟩

variable {p : Parser σ} {stop : ParseHistory → Desk σ → Bool} {past : ParseHistory} {encoding : Encoding}
  {total i : Nat} {c : Collection} {d : Desk σ} {m m' : Moment σ} {file : Path} {text : String}
  {files rest parsed unreached : List Path} {seen : List Signal}

theorem SeenSource.numbered (h : SeenSource file text seen) :
    seen.filterMap Signal.numbered? = [] := by
  have same : Signal.parsedFile? = fun s => s.numbered?.map (·.1) := by
    funext s
    cases s <;> rfl
  have none_parsed := h.parsedFiles
  rwa [same, ← List.map_filterMap, List.map_eq_nil_iff] at none_parsed

/-- Before each file the check looks at the desk, and leaves it as it is. -/
theorem recording_stop_run (stop : ParseHistory → Desk σ → Bool) (past : ParseHistory) :
    (Watch.recording stop).stop.run past = Act.look fun d => (stop past d, past) := rfl

theorem run_recording_stopped (answer : stop past d = true) :
    ((p.parseFrom (.recording stop) encoding total i c (file :: rest)).run past).run d =
      (((c, false), past), d, [stoppedEvent (rest.length + 1)]) := by
  rw [parseFrom, StateT.run_bind, recording_stop_run, Act.bind_run]
  show (Act.run (StateT.run (if stop past d then _ else _) past) d) = _
  rw [if_pos answer]
  rfl

theorem run_recording_taken (answer : stop past d = false) :
    ((p.parseFrom (.recording stop) encoding total i c (file :: rest)).run past).run d =
      (p.parseFile encoding file c >>= fun
        | none => (p.parseFrom (.recording stop) encoding total (i + 1) c rest).run past
        | some c =>
          (p.parseFrom (.recording stop) encoding total (i + 1) c rest).run
            { parsed := past.parsed ++ [(file, i + 1)] }).run d := by
  have goes : ¬ stop past d = true := answer ▸ Bool.false_ne_true
  rw [parseFrom, StateT.run_bind, recording_stop_run, Act.bind_run]
  show Act.run (StateT.run (if stop past d then _ else _) past) d = _
  rw [if_neg goes]
  have opened : (Watch.recording stop).opened file = pure () := rfl
  have act : (Watch.recording stop).act (p.parseFile encoding file c) = StateT.lift _ := rfl
  rw [opened, pure_bind, act, StateT.run_bind, StateT.run_lift, bind_assoc]
  simp only [pure_bind]
  refine congrArg (fun f => Act.run (p.parseFile encoding file c >>= f) d) (funext fun r => ?_)
  cases r <;> rfl

/-- What is recorded takes the course of what is seen. -/
theorem Course.recorded (h : Course p p.ownStop encoding total i m files m' parsed unreached) :
    ((p.attached.parseFrom (.recording p.stop) encoding total i m.doclets files).run
        (.ofSignals m.signals)).effect m.desk =
      (((m'.doclets, unreached.isEmpty), .ofSignals m'.signals), m'.desk) := by
  induction h with
  | ended => rfl
  | @stopped i m file rest answer =>
    have answer : p.stop (.ofSignals m.signals) m.desk = true := answer
    rw [Act.effect, run_recording_stopped answer]
    simp [Moment.next, ParseHistory.ofSignals, Signal.numbered?]
  | @skipped i m m' file rest _ _ e answer source _ ih =>
    have answer : p.stop (.ofSignals m.signals) m.desk = false := answer
    have done : (p.attached.parseFile encoding file m.doclets).effect m.desk = (none, m.desk) := by
      rw [Act.effect, parseFile_run_error source]
    have past : ParseHistory.ofSignals (m.signals ++ [.asked false, .taken file (.error e)]) =
        .ofSignals m.signals := by
      simp [ParseHistory.ofSignals, Signal.numbered?, List.filterMap_cons]
    rw [Act.effect, run_recording_taken answer, ← Act.effect, Act.effect_bind, done, ← ih, Moment.next,
      past]
  | @parsed i m m' file rest _ _ text after seen answer source run seen_source _ _ ih =>
    have answer : p.stop (.ofSignals m.signals) m.desk = false := answer
    have done : (p.attached.parseFile encoding file m.doclets).effect m.desk =
        (some after.1, after.2.1) := by
      rw [Act.effect, parseFile_run_ok source, run]
    have past : ParseHistory.ofSignals (m.signals ++ seenParsed file text seen (i + 1) total) =
        { parsed := (ParseHistory.ofSignals m.signals).parsed ++ [(file, i + 1)] } := by
      simp [ParseHistory.ofSignals, seenParsed, seen_source.numbered, Signal.numbered?,
        List.filterMap_cons]
    rw [Act.effect, run_recording_taken answer, ← Act.effect, Act.effect_bind, done, ← ih, Moment.next,
      past]

/-- **A parse gives what is seen of it**: the files as they were left, the doclets, and the files
parsed with their numbers. -/
theorem parse_run (p : Parser σ) (files : List Path) (encoding : Encoding) (desk : Desk σ) :
    let seen := p.witnessedParse p.ownStop encoding files desk
    ((p.attached.parse files encoding).run desk).1 =
      { files := seen.1.1
        doclets := seen.1.2
        parsed := seen.2.notes.signals.filterMap Signal.numbered? } := by
  intro seen
  let edited := ((p.fireParseBegin files).run desk).1
  obtain ⟨m, parsed, unreached, course, result, signals⟩ :=
    course_witnessedParse p p.ownStop encoding files desk
  have recorded : ((p.attached.parseFrom (.recording p.stop) encoding edited.length 0 .empty
      edited).run {}).effect (p.begun files desk).desk = _ := course.recorded
  have steps : ((p.attached.parseWatched (.recording p.attached.stop) files encoding).run
      {}).effect desk =
      ((p.attached.parseFrom (.recording p.stop) encoding edited.length 0 .empty edited).run {} >>=
        fun r => StateT.run (do
          if r.1.2 then (Watch.recording p.stop).act (p.attached.complete edited r.1.1)
          return (edited, r.1.1)) r.2).effect (p.begun files desk).desk := rfl
  have given : (((p.attached.parseWatched (.recording p.attached.stop) files encoding).run
      {}).effect desk).1 = ((edited, m.doclets), .ofSignals m.signals) := by
    rw [steps, Act.effect_bind, recorded]
    cases unreached <;> rfl
  have numbered : seen.2.notes.signals.filterMap Signal.numbered? =
      m.signals.filterMap Signal.numbered? := by
    rw [signals, List.filterMap_append]
    split <;> simp [Signal.numbered?]
  show ((p.attached.parse files encoding).effect desk).1 = _
  rw [parse, Act.effect_bind, given, numbered, result]
  rfl

end Parser

end RefDoc
