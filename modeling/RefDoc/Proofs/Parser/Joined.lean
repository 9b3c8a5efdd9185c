import RefDoc.Parser.Basic
import RefDoc.Proofs.Comment.Joined
import RefDoc.Proofs.Doclet.Index

/-!
# Doclets of texts behind each other

A parser without listeners adds the doclets of a text and does nothing else (`parseSource_unheard`).
Those of two texts behind each other are the doclets of the first and then those of the second,
further down by the lines of the first (`parsing_local`).
-/

namespace RefDoc

open Text Comment

/-- The doclet when `count` lines are put in front of it. -/
def Doclet.lowered (count : Nat) (d : Doclet) : Doclet :=
  { d with origin := d.origin.map fun o => { o with line := o.line + count } }

namespace Parser

variable {σ : Type} {p : Parser σ}

/-- Comments become doclets, and nobody listens. -/
structure Unheard (p : Parser σ) : Prop where
  standard : p.standard = true
  bare : p.handlers = {}

/-- The doclets of the comments of a text as they are written. -/
def docletsOf (file : Path) (source : List Char) : List Doclet :=
  (blocks source).filterMap fun b => docletAt? (String.ofList b.text) file b

theorem parseBlock_unheard (unheard : p.Unheard) (file : Path) (c : Collection) (b : Block) :
    p.parseBlock file c b = pure (c.pushAll (docletAt? (String.ofList b.text) file b).toList) := by
  simp only [parseBlock, fireCommentFound, fireNewDoclet, unheard.standard, unheard.bare, pure_bind]
  cases docletAt? (String.ofList b.text) file b <;> rfl

theorem parseSource_unheard (unheard : p.Unheard) (file : Path) (source : String) (c : Collection) :
    p.parseSource file source c = pure (c.pushAll (docletsOf file source.toList)) := by
  have loop (bs : List Block) (c : Collection) : bs.foldlM (p.parseBlock file) c =
      pure (c.pushAll (bs.filterMap fun b => docletAt? (String.ofList b.text) file b)) := by
    induction bs generalizing c with
    | nil => rfl
    | cons b bs ih =>
      rw [List.foldlM_cons, parseBlock_unheard unheard, pure_bind, ih, List.filterMap_cons]
      cases docletAt? (String.ofList b.text) file b <;> rfl
  simp only [parseSource, fireFileBegin, fireFileComplete, unheard.bare, pure_bind, loop, docletsOf]

theorem parseFile_unheard (unheard : p.Unheard) {encoding : Encoding} {file : Path} {text : String}
    {desk : Desk σ} (source : readSource desk.files encoding file = .ok text) (c : Collection) :
    (p.parseFile encoding file c).run desk =
      (some (c.pushAll (docletsOf file text.toList)), desk, []) := by
  have seen : (Act.files : Act σ FileTree).run desk = (desk.files, desk, []) := rfl
  rw [parseFile, Act.bind_run, seen]
  simp only [source, parseSource_unheard unheard, pure_bind]
  rfl

theorem docletAt?_lowered (comment : String) (file : Path) (b : Block) (count : Nat) :
    docletAt? comment file (b.lowered count) =
      (docletAt? comment file b).map (Doclet.lowered count) := by
  rw [docletAt?, docletAt?, Option.map_map]
  rfl

theorem filterMap_lowered (file : Path) (bs : List Block) (count : Nat) :
    ((bs.map (Block.lowered count)).filterMap fun b => docletAt? (String.ofList b.text) file b) =
      (bs.filterMap fun b => docletAt? (String.ofList b.text) file b).map
        (Doclet.lowered count) := by
  rw [List.filterMap_map, List.map_filterMap]
  exact congrArg (bs.filterMap ·) (funext fun b => docletAt?_lowered _ file b count)

/-- **Parsing is local.** Behind a text that ends with a newline, ends each comment that is reached
and has code behind each, another text is parsed as if it stood alone, but for its lines, and the
first as if nothing followed. -/
theorem parsing_local (unheard : p.Unheard) {front : String} (ends : EndsLine front.toList)
    (closed : ∀ n, Reached front.toList n → OpensAt front.toList n → Ended front.toList n)
    (followed : ∀ b ∈ blocks front.toList, b.next.isSome) (back : String) (file : Path) :
    blocks (front ++ back).toList = blocks front.toList ++
        (blocks back.toList).map (Block.lowered (countNewlines front.toList)) ∧
      ∃ ds ds', (∀ c, p.parseSource file front c = pure (c.pushAll ds)) ∧
        (∀ c, p.parseSource file back c = pure (c.pushAll ds')) ∧
        ∀ c, p.parseSource file (front ++ back) c =
          pure (c.pushAll (ds ++ ds'.map (Doclet.lowered (countNewlines front.toList)))) := by
  have both := blocks_append ends closed followed back.toList
  rw [← String.toList_append] at both
  refine ⟨both, _, _, parseSource_unheard unheard file front,
    parseSource_unheard unheard file back, fun c => ?_⟩
  rw [parseSource_unheard unheard, docletsOf, both, List.filterMap_append, filterMap_lowered]
  rfl

/-- A text with an empty comment and a comment with code behind it, in front of one that opens a
comment and does not end it. -/
theorem parsing_local_area :
    let front := "/**/\n/** Area. */\nlet area = 1;\n"
    let back := "/** Side. */ let side = 2; /** Open"
    let p : Parser Unit := { standard := true }
    p.Unheard ∧ EndsLine front.toList ∧
      (∀ n, Reached front.toList n → OpensAt front.toList n → Ended front.toList n) ∧
      (∀ b ∈ blocks front.toList, b.next.isSome) ∧
      blocks (front ++ back).toList = [⟨"Area.".toList, 2, some "let area = 1;".toList⟩,
        ⟨"Side.".toList, 4, some "let side = 2; /** Open".toList⟩] ∧
      ∃ ds ds', (∀ c, p.parseSource ⟨"a.js"⟩ front c = pure (c.pushAll ds)) ∧
        (∀ c, p.parseSource ⟨"a.js"⟩ back c = pure (c.pushAll ds')) ∧
        ∀ c, p.parseSource ⟨"a.js"⟩ (front ++ back) c =
          pure (c.pushAll (ds ++ ds'.map (Doclet.lowered 3))) := by
  intro front back p
  have unheard : p.Unheard := ⟨rfl, rfl⟩
  have ends : EndsLine front.toList :=
    .inr ⟨"/**/\n/** Area. */\nlet area = 1;".toList, by decide⟩
  have closed (n) (_ : Reached front.toList n) (opens : OpensAt front.toList n) :
      Ended front.toList n := by
    have ended : Ended front.toList 5 := ⟨15, by decide, "\nlet area = 1;\n".toList, by decide⟩
    refine ended.earlier (Nat.le_of_not_lt fun behind => ?_)
    have length : front.toList.length = 32 := by decide
    have inside : n + 3 ≤ front.toList.length := opens.1.length_le (by decide)
    obtain ⟨slash, star, -⟩ := (standsAt_pattern_cons.mp opens.1).imp_right
      standsAt_pattern_cons.mp
    have last : ∀ n < 30, 5 < n → front.toList[n]? = some '/' →
        front.toList[n + 1]? ≠ some '*' := by
      decide
    exact last n (by omega) behind slash star
  have found : blocks front.toList = [⟨"Area.".toList, 2, some "let area = 1;".toList⟩] := by
    decide +kernel
  have found' : blocks back.toList =
      [⟨"Side.".toList, 1, some "let side = 2; /** Open".toList⟩] := by
    decide +kernel
  have followed : ∀ b ∈ blocks front.toList, b.next.isSome := by
    rw [found]
    exact fun b member => List.mem_singleton.mp member ▸ rfl
  have lines : countNewlines front.toList = 3 := by decide
  have both := parsing_local unheard ends closed followed back ⟨"a.js"⟩
  rw [lines, found, found'] at both
  exact ⟨unheard, ends, closed, followed, both⟩

end Parser

end RefDoc
