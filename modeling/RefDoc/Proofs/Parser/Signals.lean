import RefDoc.Parser.Basic

/-!
# Watching a parse

A parse is watched by handlers of its own: each does what the handler of the parser does and notes
the event, with what it was given and what it left. The watch also notes what the stop check answers
and what is found where a file is to be read. `Shows` says that an action on a watched desk does
what another does on the bare desk, and what is noted meanwhile.
-/

namespace RefDoc

/-- What can be seen of a parse. -/
inductive Signal where
  | parseBegin (given left : List Path)
  /-- The stop check has answered. -/
  | asked (answer : Bool)
  /-- A file is taken up; its text, or what is logged because there is none. -/
  | taken (file : Path) (text : Except Event String)
  | fileBegin (file : Path)
  | commentFound (given : String) (file : Path) (line : Nat) (left : String)
  | newDoclet (given left : Doclet)
  | fileComplete (file : Path)
  /-- A file has been parsed; its number, and how many there are. -/
  | parsed (file : Path) (position total : Nat)
  | parseComplete (files : List Path) (doclets : Collection)

namespace Signal

/-- The new doclet as its handler left it. -/
def doclet? : Signal → Option Doclet
  | newDoclet _ left => some left
  | _ => none

def parsedFile? : Signal → Option Path
  | parsed file _ _ => some file
  | _ => none

end Signal

/-- Notes beside which a parse is watched. -/
structure Witness (σ : Type) where
  notes : σ
  signals : List Signal := []
  /-- What the parse has logged. -/
  logged : List Event := []

variable {σ α β : Type}

/-- The desk with a watch on it, which has seen that much. -/
def Desk.watched (d : Desk σ) (signals : List Signal) (logged : List Event) : Desk (Witness σ) :=
  ⟨d.files, { notes := d.notes, signals, logged }⟩

namespace Act

/-- The action, which leaves the watch alone. -/
def unseen (a : Act σ α) : Act (Witness σ) α := fun d =>
  let (v, after, log) := a ⟨d.files, d.notes.notes⟩
  (v, after.watched d.notes.signals d.notes.logged, log)

def tell (s : Signal) : Act (Witness σ) Unit :=
  Act.note fun w => { w with signals := w.signals ++ [s] }

/-- The action, with a signal of what it gave. -/
def told (a : Act σ α) (signal : α → Signal) : Act (Witness σ) α := do
  let v ← a.unseen
  Act.tell (signal v)
  return v

/-- The action; what it logs is noted. -/
def heard (a : Act (Witness σ) α) : Act (Witness σ) α := do
  let (v, log) ← a.listen
  Act.note fun w => { w with logged := w.logged ++ log }
  return v

end Act

namespace Parser

/-- The parser with the standard handlers. -/
def attached (p : Parser σ) : Parser σ := { p with standard := true }

/-- The parser with the standard handlers, all of whose events are seen. -/
def witnessed (p : Parser σ) : Parser (Witness σ) where
  handlers :=
    { parseBegin := some fun files => (p.fireParseBegin files).told (.parseBegin files)
      fileBegin := some fun file => (p.fireFileBegin file).told fun _ => .fileBegin file
      commentFound := some fun comment file line =>
        (p.fireCommentFound comment file line).told (.commentFound comment file line)
      newDoclet := some fun d => (p.fireNewDoclet d).told (.newDoclet d)
      fileComplete := some fun file => (p.fireFileComplete file).told fun _ => .fileComplete file
      parseComplete := some fun files doclets =>
        (p.fireParseComplete files doclets).told fun _ => .parseComplete files doclets }
  standard := true
  config := p.config

variable (p : Parser σ)

theorem attached_standard : p.attached.standard = true := rfl

theorem witnessed_standard : p.witnessed.standard = true := rfl

theorem attached_fireCommentFound : p.attached.fireCommentFound = p.fireCommentFound := rfl

theorem attached_fireNewDoclet : p.attached.fireNewDoclet = p.fireNewDoclet := rfl

theorem witnessed_fireCommentFound (comment : String) (file : Path) (line : Nat) :
    p.witnessed.fireCommentFound comment file line =
      (p.fireCommentFound comment file line).told (.commentFound comment file line) := rfl

theorem witnessed_fireNewDoclet (d : Doclet) :
    p.witnessed.fireNewDoclet d = (p.fireNewDoclet d).told (.newDoclet d) := rfl

end Parser

/-- The stop check may go by all that is on the desk, seen or logged. -/
def Watch.witness (stop : Desk (Witness σ) → Bool) (encoding : Encoding) :
    Watch (Witness σ) (Act (Witness σ)) where
  act := Act.heard
  stop := do
    let answer : Bool ← fun d => (stop d, d, [])
    Act.tell (.asked answer)
    return answer
  opened file := do Act.tell (.taken file (Parser.readSource (← Act.files) encoding file))
  parsed file i total := Act.tell (.parsed file i total)

/-! ### What an action does -/

/-- What an action gives and the desk it leaves. -/
def Act.effect (a : Act σ α) (d : Desk σ) : α × Desk σ := ((a.run d).1, (a.run d).2.1)

theorem Act.effect_bind (a : Act σ α) (f : α → Act σ β) (d : Desk σ) :
    (a >>= f).effect d = (f (a.effect d).1).effect (a.effect d).2 := rfl

/-! ### What is seen of an action -/

/-- On a watched desk `a` does what `b` does on the bare one, and what is seen of it is so. -/
def Shows (a : Act (Witness σ) α) (b : Act σ α) (P : α → List Signal → Prop) : Prop :=
  ∀ (d : Desk σ) (signals : List Signal) (logged : List Event), ∃ seen,
    a.run (d.watched signals logged) =
      ((b.run d).1, (b.run d).2.1.watched (signals ++ seen) logged, (b.run d).2.2) ∧
    P (b.run d).1 seen

variable {P : α → List Signal → Prop} {Q : β → List Signal → Prop}

theorem shows_pure {v : α} (seen : P v []) : Shows (pure v) (pure v : Act σ α) P :=
  fun d signals logged => ⟨[], by simp, seen⟩

theorem Shows.mono {a : Act (Witness σ) α} {b : Act σ α} {P' : α → List Signal → Prop}
    (h : Shows a b P) (weaker : ∀ v seen, P v seen → P' v seen) : Shows a b P' := by
  intro d signals logged
  obtain ⟨seen, run, holds⟩ := h d signals logged
  exact ⟨seen, run, weaker _ _ holds⟩

theorem Shows.bind {a : Act (Witness σ) α} {b : Act σ α} {f : α → Act (Witness σ) β}
    {g : α → Act σ β} (first : Shows a b P)
    (next : ∀ v seen, P v seen → Shows (f v) (g v) fun w more => Q w (seen ++ more)) :
    Shows (a >>= f) (b >>= g) Q := by
  intro d signals logged
  obtain ⟨seen, run, holds⟩ := first d signals logged
  obtain ⟨more, run', holds'⟩ := next _ _ holds (b.run d).2.1 (signals ++ seen) logged
  refine ⟨seen ++ more, ?_, holds'⟩
  rw [Act.bind_run, Act.bind_run, run]
  simp only [run', List.append_assoc]

theorem shows_told (a : Act σ α) (signal : α → Signal) :
    Shows (a.told signal) a fun v seen => seen = [signal v] := by
  intro d signals logged
  refine ⟨[signal (a.run d).1], ?_, rfl⟩
  show (_, _, (a.run d).2.2 ++ ([] ++ [])) = _
  simp only [List.append_nil]
  rfl

theorem shows_log (e : Event) :
    Shows (Act.log e) (Act.log e : Act σ Unit) fun _ seen => seen = [] :=
  fun d signals logged => ⟨[], by rw [List.append_nil]; rfl, rfl⟩

theorem heard_run (a : Act (Witness σ) α) (d : Desk (Witness σ)) :
    a.heard.run d =
      ((a.run d).1,
        ⟨(a.run d).2.1.files,
          { (a.run d).2.1.notes with logged := (a.run d).2.1.notes.logged ++ (a.run d).2.2 }⟩,
        (a.run d).2.2) := by
  show (_, _, (a.run d).2.2 ++ ([] ++ [])) = _
  simp only [List.append_nil]
  rfl

end RefDoc
