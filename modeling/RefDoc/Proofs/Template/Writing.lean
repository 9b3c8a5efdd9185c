import RefDoc.Proofs.Desk
import RefDoc.Proofs.FileTree.Entries
import RefDoc.Template.Basic

/-!
# Writing pages

A page that is written takes its place, and its draft is gone (`settle`); where writing fails, at
most the draft has changed. What pages leave of a tree (`Published`) are their whole texts.
-/

namespace RefDoc

namespace Page

/-- The name a page is written under first. -/
def draftName (p : Page) : String := s!".{p.file}.tmp"

/-- The name of the page is one in a directory, and no draft's. -/
structure Placed (p : Page) : Prop where
  entry : IsEntry p.file
  undotted : p.file.toList.head? ≠ some '.'

theorem toList_draftName (p : Page) :
    p.draftName.toList = '.' :: (p.file.toList ++ ".tmp".toList) := by
  simp [draftName, toString]

theorem Placed.draft_entry {p : Page} (placed : p.Placed) : IsEntry p.draftName := by
  have chars := p.toList_draftName
  have long (s : String) (short : s.toList.length ≤ 2) : p.draftName ≠ s := by
    rintro rfl
    rw [chars] at short
    simp at short
  refine ⟨long "" (by decide), ⟨long "." (by decide), long ".." (by decide)⟩, ?_⟩
  rw [chars]
  simpa using placed.entry.whole

theorem Placed.ne_draftName {p : Page} (placed : p.Placed) (p' : Page) :
    p.file ≠ p'.draftName := by
  intro same
  apply placed.undotted
  rw [same, toList_draftName]
  rfl

/-- The place of the page in the directory at `dest`. -/
def place (dest : Place) (p : Page) : Place := dest ++ [p.file]

/-- The place of its draft. -/
def draftPlace (dest : Place) (p : Page) : Place := dest ++ [p.draftName]

theorem Placed.place_ne {p : Page} (placed : p.Placed) (dest : Place) (p' : Page) :
    p.place dest ≠ p'.draftPlace dest := fun same =>
  placed.ne_draftName p' (List.cons.inj (List.append_cancel_left same)).1

end Page

namespace FileTree

/-- There is nothing, or a file. -/
def Loose (t : FileTree) (q : Place) : Prop :=
  t.at? q = none ∨ ∃ bytes, t.at? q = some (.file bytes)

namespace Loose

variable {t : FileTree} {q : Place} (loose : t.Loose q)

include loose

theorem file {node : FileNode} (stands : t.at? q = some node) : ∃ bytes, node = .file bytes := by
  rcases loose with free | ⟨bytes, file⟩
  · simp [free] at stands
  · exact ⟨bytes, Option.some.inj (stands.symm.trans file)⟩

theorem not_directory : t.at? q ≠ some .directory := fun stands => by
  obtain ⟨_, ⟨⟩⟩ := loose.file stands

theorem not_link (target : Path) : t.at? q ≠ some (.link target) := fun stands => by
  obtain ⟨_, ⟨⟩⟩ := loose.file stands

end Loose

end FileTree

open FileTree

/-! ### The bytes of a text -/

namespace Text

theorem toList_loop (bytes : ByteArray) (i : Nat) (front : List UInt8) :
    ByteArray.toList.loop bytes i front = front.reverse ++ bytes.data.toList.drop i := by
  fun_induction ByteArray.toList.loop bytes i front with
  | case1 i front inside ih =>
    have inside' : i < bytes.data.toList.length := inside
    rw [ih, List.drop_eq_getElem_cons inside', List.reverse_cons, List.append_assoc]
    show _ = front.reverse ++ ([_] ++ _)
    congr 3
    exact getElem!_pos bytes.data i inside
  | case2 i front behind =>
    have behind' : bytes.data.toList.length ≤ i := Nat.le_of_not_lt behind
    rw [List.drop_of_length_le behind', List.append_nil]

theorem encodeUtf8_inj {s s' : String} : encodeUtf8 s = encodeUtf8 s' ↔ s = s' := by
  refine ⟨fun same => ?_, congrArg encodeUtf8⟩
  have data (s : String) : encodeUtf8 s = s.toByteArray.data.toList :=
    toList_loop s.toByteArray 0 []
  rw [data, data] at same
  exact String.toByteArray_inj.mp (ByteArray.ext (Array.toList_inj.mp same))

end Text

/-! ### One page -/

theorem Attempt.changeFiles_run {σ : Type} (path : Path)
    (change : FileTree → Except FileFault FileTree) (desk : Desk σ) :
    (changeFiles path change).run.run desk =
      match change desk.files with
      | .ok files => (.ok (), { desk with files }, [])
      | .error e => (.error (.file path e), desk, []) := rfl

theorem Attempt.tryFiles_run {σ : Type} (path : Path)
    (change : FileTree → Except FileFault Unit × FileTree) (desk : Desk σ) :
    (tryFiles path change).run.run desk =
      ((change desk.files).1.mapError (.file path),
        { desk with files := (change desk.files).2 }, []) := rfl

namespace Page

variable {σ : Type} {dir : Path} {dest : Place} {p : Page} {t : FileTree}

def node (p : Page) : FileNode := .file (Text.encodeUtf8 p.text)

theorem at?_drafted (node : FileNode) (q : Place) :
    (t.put (p.draftPlace dest) node).at? q =
      if q = p.draftPlace dest then some node else t.at? q :=
  at?_put (by simp [draftPlace]) node q

/-- The tree in which the page has been written and moved to its place. -/
def written (dest : Place) (p : Page) (t : FileTree) : FileTree :=
  ((t.put (p.draftPlace dest) p.node).remove (p.draftPlace dest)).put (p.place dest) p.node

/-- What is at `q` when the page has been written, if `node` was there before. -/
def settle (dest q : Place) (node : Option FileNode) (p : Page) : Option FileNode :=
  if q = p.place dest then some p.node else if q = p.draftPlace dest then none else node

theorem at?_written (q : Place) : (p.written dest t).at? q = settle dest q (t.at? q) p := by
  have below : p.place dest ≠ [] := by simp [place]
  have below' : p.draftPlace dest ≠ [] := by simp [draftPlace]
  rw [written, at?_put below, at?_remove below', at?_drafted, settle]
  by_cases draft : q = p.draftPlace dest <;> simp [draft]

section Steps

variable (notes : σ)

/-- Where there is no directory, nothing is written. -/
theorem write_blocked (placed : p.Placed) (closed : ∀ place, ¬ t.Opens dir place) :
    ∃ e, (Page.write dir p).run.run ⟨t, notes⟩ = (.error e, ⟨t, notes⟩, []) := by
  obtain ⟨e, failed⟩ :=
    writeText_of_closed placed.entry placed.draft_entry closed p.text
  have failed : t.writeText (p.draft dir) p.text = .error e := failed
  refine ⟨.file (p.draft dir) e, ?_⟩
  simp only [Page.write, Attempt.bind_run, Attempt.changeFiles_run, failed]

theorem loose_draft (unlinked : ∀ target, t.at? (p.draftPlace dest) ≠ some (.link target))
    (free : t.at? (p.draftPlace dest) ≠ some .directory) : t.Loose (p.draftPlace dest) := by
  cases stands : t.at? (p.draftPlace dest) with
  | none => exact .inl stands
  | some node =>
    cases node with
    | file bytes => exact .inr ⟨bytes, stands⟩
    | directory => exact absurd stands free
    | link target => exact absurd stands (unlinked target)

theorem writeText_draft (placed : p.Placed) (opens : t.Opens dir dest)
    (unlinked : ∀ target, t.at? (p.draftPlace dest) ≠ some (.link target)) :
    t.writeText (p.draft dir) p.text =
      if t.at? (p.draftPlace dest) = some .directory then .error .isDirectory
      else .ok (t.put (p.draftPlace dest) p.node) :=
  have leads : t.Leads (p.draft dir) dest p.draftName :=
    (leads_withFileName placed.entry placed.draft_entry).mpr opens
  leads.writeText placed.draft_entry.proper unlinked p.text

/-- The draft is in nobody's way. -/
theorem opens_draft (opens : t.Opens dir dest) (loose : t.Loose (p.draftPlace dest))
    (node : FileNode) : (t.put (p.draftPlace dest) node).Opens dir dest := by
  obtain ⟨links, enters⟩ := opens
  refine ⟨links, enters.kept fun q there stands solid => ?_⟩
  rw [at?_drafted, if_neg, stands]
  rintro rfl
  obtain ⟨bytes, rfl⟩ := loose.file stands
  exact solid bytes rfl

theorem rename_draft (placed : p.Placed)
    (opens : (t.put (p.draftPlace dest) p.node).Opens dir dest) :
    (t.put (p.draftPlace dest) p.node).rename (p.draft dir) (p.target dir) =
      if t.at? (p.place dest) = some .directory then .error .isDirectory
      else .ok (p.written dest t) := by
  have leads : (t.put (p.draftPlace dest) p.node).Leads (p.draft dir) dest p.draftName :=
    (leads_withFileName placed.entry placed.draft_entry).mpr opens
  have leads' : (t.put (p.draftPlace dest) p.node).Leads (p.target dir) dest p.file :=
    (leads_join placed.entry).mpr opens
  have there : (t.put (p.draftPlace dest) p.node).at? (p.draftPlace dest) = some p.node := by
    rw [at?_drafted, if_pos rfl]
  have apart : (t.put (p.draftPlace dest) p.node).at? (p.place dest) = t.at? (p.place dest) := by
    rw [at?_drafted, if_neg (placed.place_ne dest p)]
  rw [← apart]
  exact rename_of_leads leads leads' placed.draft_entry.proper placed.entry.proper there

/-- What writing a page does, where no link is in the way of its draft. -/
theorem write_run (placed : p.Placed) (opens : t.Opens dir dest)
    (unlinked : ∀ target, t.at? (p.draftPlace dest) ≠ some (.link target)) :
    (Page.write dir p).run.run ⟨t, notes⟩ =
      if t.at? (p.draftPlace dest) = some .directory then
        (.error (.file (p.draft dir) .isDirectory), ⟨t, notes⟩, [])
      else if t.at? (p.place dest) = some .directory then
        (.error (.file (p.target dir) .isDirectory), ⟨t.put (p.draftPlace dest) p.node, notes⟩, [])
      else
        (.ok (), ⟨p.written dest t, notes⟩, [.debug "wrote output file"
          [("file", (p.target dir).text), ("size", toString p.text.utf8ByteSize)]]) := by
  have drafted := writeText_draft placed opens unlinked
  simp only [Page.write, Attempt.bind_run, Attempt.changeFiles_run, drafted]
  by_cases taken : t.at? (p.draftPlace dest) = some .directory
  · simp only [if_pos taken]
  · have opens' := opens_draft opens (loose_draft unlinked taken) p.node
    simp only [if_neg taken, rename_draft placed opens']
    by_cases taken' : t.at? (p.place dest) = some .directory
    · simp only [if_pos taken', List.append_nil]
    · simp only [if_neg taken', List.nil_append, Attempt.log_run]

/-- Where a link to a file is in the place of the draft, the page is written to that file, and the
link is moved to the place of the page. -/
theorem write_linked (placed : p.Placed) (opens : t.Opens dir dest) {target : Path}
    (link : t.at? (p.draftPlace dest) = some (.link target)) {q : Place} {bytes : Text.Bytes}
    (found : t.locate true (p.draft dir) = .ok (.node q (.file bytes)))
    (file : t.at? q = some (.file bytes)) (solid : t.at? (p.place dest) ≠ some .directory) :
    (Page.write dir p).run.run ⟨t, notes⟩ =
      (.ok (), ⟨((t.put q p.node).remove (p.draftPlace dest)).put (p.place dest) (.link target),
        notes⟩, [.debug "wrote output file"
          [("file", (p.target dir).text), ("size", toString p.text.utf8ByteSize)]]) := by
  have below : q ≠ [] := by
    rintro rfl
    cases file
  have at_put (q' : Place) := at?_put (t := t) below p.node q'
  have written : t.writeText (p.draft dir) p.text = .ok (t.put q p.node) := by
    rw [writeText, found]
    rfl
  have moved : (t.put q p.node).rename (p.draft dir) (p.target dir) =
      .ok (((t.put q p.node).remove (p.draftPlace dest)).put (p.place dest) (.link target)) := by
    have opens' : (t.put q p.node).Opens dir dest := by
      obtain ⟨links, enters⟩ := opens
      refine ⟨links, enters.kept fun q' node stands other => ?_⟩
      rw [at_put, if_neg, stands]
      rintro rfl
      rw [file] at stands
      cases stands
      exact other bytes rfl
    have there : (t.put q p.node).at? (dest ++ [p.draftName]) = some (.link target) := by
      rw [at_put, if_neg]
      · exact link
      · rintro rfl
        rw [draftPlace, file] at link
        cases link
    have free : (t.put q p.node).at? (dest ++ [p.file]) ≠ some .directory := by
      rw [at_put]
      split
      · nofun
      · exact solid
    have leads : (t.put q p.node).Leads (p.draft dir) dest p.draftName :=
      (leads_withFileName placed.entry placed.draft_entry).mpr opens'
    have leads' : (t.put q p.node).Leads (p.target dir) dest p.file :=
      (leads_join placed.entry).mpr opens'
    exact (rename_of_leads leads leads' placed.draft_entry.proper placed.entry.proper there).trans
      (if_neg free)
  simp only [Page.write, Attempt.bind_run, Attempt.changeFiles_run, written, moved,
    List.nil_append, Attempt.log_run]

end Steps

end Page

/-! ### What pages leave of a tree -/

/-- Apart from drafts, every place holds what it held or the whole text of a page that goes there;
directories stay, and so do links where drafts would be. -/
structure Published (dest : Place) (pages : List Page) (t t' : FileTree) : Prop where
  home : t'.home = t.home
  places (q : Place) : t'.at? q = t.at? q ∨
    (∃ p ∈ pages, q = p.place dest ∧ t.at? q ≠ some .directory ∧ t'.at? q = some p.node) ∨
    ∃ p ∈ pages, q = p.draftPlace dest ∧ t.Loose q ∧ t'.Loose q

namespace Published

variable {dest : Place} {dir : Path} {pages : List Page} {t t' t'' : FileTree}

theorem refl : Published dest pages t t := ⟨rfl, fun _ => .inl rfl⟩

theorem trans (placed : ∀ p ∈ pages, p.Placed) (first : Published dest pages t t')
    (second : Published dest pages t' t'') : Published dest pages t t'' := by
  refine ⟨second.home.trans first.home, fun q => ?_⟩
  rcases second.places q with
    same | ⟨p, member, goes, solid, holds⟩ | ⟨p, member, beside, was, loose⟩
  · simpa only [same, Loose] using first.places q
  · rcases first.places q with same | ⟨p', member', goes', solid', -⟩ | ⟨p', member', beside', -, -⟩
    · exact .inr (.inl ⟨p, member, goes, same ▸ solid, holds⟩)
    · exact .inr (.inl ⟨p, member, goes, solid', holds⟩)
    · exact absurd (goes.symm.trans beside') ((placed p member).place_ne dest p')
  · rcases first.places q with same | ⟨p', member', goes', -, -⟩ | ⟨p', member', beside', was', -⟩
    · exact .inr (.inr ⟨p, member, beside, by rwa [Loose, ← same], loose⟩)
    · exact absurd (goes'.symm.trans beside) ((placed p' member').place_ne dest p)
    · exact .inr (.inr ⟨p, member, beside, was', loose⟩)

theorem refiled (published : Published dest pages t t') : Refiled t t' := by
  refine ⟨published.home, fun q => ?_⟩
  rcases published.places q with same | ⟨p, -, -, solid, holds⟩ | ⟨p, -, -, was, free' | file'⟩
  · exact .inl same
  · exact .inr (.inl ⟨solid, _, holds⟩)
  · rcases was with free | file
    · exact .inl (free'.trans free.symm)
    · exact .inr (.inr ⟨file, free'⟩)
  · exact .inr (.inl ⟨was.not_directory, file'⟩)

/-- Where a draft would be there is a link only if there was one. -/
theorem unlinked (published : Published dest pages t t') {q : Place}
    (unlinked : ∀ target, t.at? q ≠ some (.link target)) (target : Path) :
    t'.at? q ≠ some (.link target) := fun link =>
  unlinked target (published.refiled.link link)

/-- Pages still go where they went, or nowhere. -/
theorem opens (published : Published dest pages t t') (opens : t.Opens dir dest) {place : Place}
    (opens' : t'.Opens dir place) : place = dest := by
  obtain ⟨links, enters⟩ := opens'
  have start : t'.origin dir = t.origin dir := by rw [origin, published.home, origin]
  rw [start] at enters
  exact opens.eq ⟨links, enters.of_refiled published.refiled⟩

theorem of_draft {p : Page} (member : p ∈ pages) (loose : t.Loose (p.draftPlace dest)) :
    Published dest pages t (t.put (p.draftPlace dest) p.node) := by
  refine ⟨rfl, fun q => ?_⟩
  have drafted : (t.put (p.draftPlace dest) p.node).at? q = _ := Page.at?_drafted p.node q
  by_cases beside : q = p.draftPlace dest
  · rw [if_pos beside] at drafted
    exact .inr (.inr ⟨p, member, beside, beside ▸ loose, .inr ⟨_, drafted⟩⟩)
  · rw [if_neg beside] at drafted
    exact .inl drafted

theorem of_written {p : Page} (member : p ∈ pages) (loose : t.Loose (p.draftPlace dest))
    (solid : t.at? (p.place dest) ≠ some .directory) :
    Published dest pages t (p.written dest t) := by
  refine ⟨rfl, fun q => ?_⟩
  have written : (p.written dest t).at? q = _ := Page.at?_written q
  unfold Page.settle at written
  by_cases goes : q = p.place dest
  · rw [if_pos goes] at written
    exact .inr (.inl ⟨p, member, goes, goes ▸ solid, written⟩)
  · by_cases beside : q = p.draftPlace dest
    · rw [if_neg goes, if_pos beside] at written
      exact .inr (.inr ⟨p, member, beside, beside ▸ loose, .inl written⟩)
    · rw [if_neg goes, if_neg beside] at written
      exact .inl written

end Published

/-! ### Runs -/

section Runs

variable {σ : Type} {dest : Place} {dir : Path} {all pages : List Page}
  {made t : FileTree} {p : Page}

/-- One page is written or not, but not in part. -/
theorem write_published (notes : σ) (placed : p.Placed) (placed_all : ∀ p ∈ all, p.Placed)
    (member : p ∈ all) (opens : made.Opens dir dest)
    (unlinked : ∀ target, made.at? (p.draftPlace dest) ≠ some (.link target))
    (published : Published dest all made t) :
    ∃ result t' log, (Page.write dir p).run.run ⟨t, notes⟩ = (result, ⟨t', notes⟩, log) ∧
      Published dest all made t' ∧
        (result = .ok () → ∀ q, t'.at? q = Page.settle dest q (t.at? q) p) := by
  by_cases reached : ∃ place, t.Opens dir place
  · obtain ⟨place, opens'⟩ := reached
    obtain rfl := published.opens opens opens'
    have unlinked' := published.unlinked unlinked
    rw [Page.write_run notes placed opens' unlinked']
    by_cases taken : t.at? (p.draftPlace place) = some .directory
    · rw [if_pos taken]
      exact ⟨_, _, _, rfl, published, nofun⟩
    · have loose := Page.loose_draft unlinked' taken
      rw [if_neg taken]
      by_cases taken' : t.at? (p.place place) = some .directory
      · rw [if_pos taken']
        exact ⟨_, _, _, rfl, published.trans placed_all (.of_draft member loose), nofun⟩
      · rw [if_neg taken']
        exact ⟨_, _, _, rfl, published.trans placed_all (.of_written member loose taken'),
          fun _ => Page.at?_written⟩
  · have closed (place : Place) (opens' : t.Opens dir place) : False := reached ⟨place, opens'⟩
    obtain ⟨e, blocked⟩ := Page.write_blocked notes placed closed
    exact ⟨_, _, _, blocked, published, nofun⟩

theorem forM_write_cons : (p :: pages).forM (Page.write dir : Page → Attempt σ Unit) =
    Page.write dir p >>= fun _ => pages.forM (Page.write dir) := rfl

theorem forM_write_published (notes : σ) (placed_all : ∀ p ∈ all, p.Placed)
    (opens : made.Opens dir dest)
    (unlinked : ∀ p ∈ all, ∀ target, made.at? (p.draftPlace dest) ≠ some (.link target))
    (members : ∀ p ∈ pages, p ∈ all) (published : Published dest all made t) :
    ∃ result t' log, (pages.forM (Page.write dir)).run.run ⟨t, notes⟩ = (result, ⟨t', notes⟩, log) ∧
      Published dest all made t' ∧
        (result = .ok () → ∀ q, t'.at? q = pages.foldl (Page.settle dest q) (t.at? q)) := by
  induction pages generalizing t with
  | nil => exact ⟨.ok (), t, [], rfl, published, fun _ _ => rfl⟩
  | cons p pages ih =>
    obtain ⟨member, members⟩ := List.forall_mem_cons.mp members
    obtain ⟨result, t', log, run, published', settled⟩ :=
      write_published notes (placed_all p member) placed_all member opens
        (unlinked p member) published
    rw [forM_write_cons, Attempt.bind_run, run]
    cases result with
    | error e => exact ⟨_, _, _, rfl, published', nofun⟩
    | ok =>
      obtain ⟨result, t'', more, run', published'', settled'⟩ := ih members published'
      dsimp only
      rw [run']
      refine ⟨_, _, _, rfl, published'', fun ok q => ?_⟩
      rw [settled' ok, settled rfl, List.foldl_cons]

theorem forM_write_closed (notes : σ) (placed : ∀ p ∈ pages, p.Placed)
    (closed : ∀ place, ¬ t.Opens dir place) :
    ∃ result log, (pages.forM (Page.write dir)).run.run ⟨t, notes⟩ = (result, ⟨t, notes⟩, log) ∧
      (result = .ok () → pages = []) := by
  cases pages with
  | nil => exact ⟨_, _, rfl, fun _ => rfl⟩
  | cons p pages =>
    obtain ⟨e, blocked⟩ := Page.write_blocked notes (placed p List.mem_cons_self) closed
    refine ⟨.error e, [], ?_, nofun⟩
    rw [forM_write_cons, Attempt.bind_run, blocked]

/-! ### Writing again -/

theorem loose_written {q : Place} (loose : t.Loose q) : (p.written dest t).Loose q := by
  have written : (p.written dest t).at? q = _ := Page.at?_written q
  unfold Page.settle at written
  split at written
  · exact .inr ⟨_, written⟩
  · split at written
    · exact .inl written
    · simpa only [Loose, written] using loose

/-- Pages take the place of files. -/
theorem opens_written (opens : t.Opens dir dest) (loose : t.Loose (p.place dest))
    (loose' : t.Loose (p.draftPlace dest)) : (p.written dest t).Opens dir dest := by
  obtain ⟨links, enters⟩ := opens
  refine ⟨links, enters.kept fun q node stands solid => ?_⟩
  have apart {q' : Place} (loose : t.Loose q') : q ≠ q' := by
    rintro rfl
    obtain ⟨bytes, rfl⟩ := loose.file stands
    exact solid bytes rfl
  rw [Page.at?_written, Page.settle, if_neg (apart loose), if_neg (apart loose'), stands]

/-- Where there are files at most, all pages are written. -/
theorem forM_write_ok (notes : σ) (placed : ∀ p ∈ pages, p.Placed) (opens : t.Opens dir dest)
    (loose : ∀ p ∈ pages, t.Loose (p.place dest) ∧ t.Loose (p.draftPlace dest)) :
    ((pages.forM (Page.write dir)).run.run ⟨t, notes⟩).1 = .ok () := by
  induction pages generalizing t with
  | nil => rfl
  | cons p pages ih =>
    obtain ⟨placed_p, placed⟩ := List.forall_mem_cons.mp placed
    obtain ⟨⟨loose_p, loose_d⟩, loose⟩ := List.forall_mem_cons.mp loose
    rw [forM_write_cons, Attempt.bind_run, Page.write_run notes placed_p opens loose_d.not_link,
      if_neg loose_d.not_directory, if_neg loose_p.not_directory]
    exact ih placed (opens_written opens loose_p loose_d) fun p' member =>
      ⟨loose_written (loose p' member).1, loose_written (loose p' member).2⟩

end Runs

/-! ### What is left in the end -/

theorem exists_last {α : Type} {P : α → Prop} {l : List α} {a : α} (member : a ∈ l) (holds : P a) :
    ∃ front last behind, l = front ++ last :: behind ∧ P last ∧ ∀ b ∈ behind, ¬ P b := by
  induction l generalizing a with
  | nil => cases member
  | cons c l ih =>
    by_cases later : ∃ b ∈ l, P b
    · obtain ⟨b, there, holds⟩ := later
      obtain ⟨front, last, behind, rfl, others⟩ := ih there holds
      exact ⟨c :: front, last, behind, rfl, others⟩
    · rcases List.mem_cons.mp member with rfl | there
      · exact ⟨[], a, l, rfl, holds, fun b behind also => later ⟨b, behind, also⟩⟩
      · exact absurd ⟨a, there, holds⟩ later

section Settled

variable {dest q : Place} {pages : List Page}

/-- Either the pages decide what is at a place, or they leave it alone. -/
theorem foldl_settle (dest q : Place) (pages : List Page) :
    (∀ node, pages.foldl (Page.settle dest q) node = node) ∨
      ∃ held, ∀ node, pages.foldl (Page.settle dest q) node = held := by
  induction pages with
  | nil => exact .inl fun _ => rfl
  | cons p pages ih =>
    rcases ih with left | ⟨held, decided⟩
    · by_cases goes : q = p.place dest
      · exact .inr ⟨some p.node, fun node => by
          rw [List.foldl_cons, left, Page.settle, if_pos goes]⟩
      · by_cases beside : q = p.draftPlace dest
        · exact .inr ⟨none, fun node => by
            rw [List.foldl_cons, left, Page.settle, if_neg goes, if_pos beside]⟩
        · exact .inl fun node => by
            rw [List.foldl_cons, left, Page.settle, if_neg goes, if_neg beside]
    · exact .inr ⟨held, fun node => by rw [List.foldl_cons, decided]⟩

/-- Writing the pages again changes nothing. -/
theorem foldl_settle_idem (dest q : Place) (pages : List Page) (node : Option FileNode) :
    pages.foldl (Page.settle dest q) (pages.foldl (Page.settle dest q) node) =
      pages.foldl (Page.settle dest q) node := by
  rcases foldl_settle dest q pages with left | ⟨held, decided⟩
  · rw [left, left]
  · rw [decided, decided]

/-- No draft is left. -/
theorem foldl_settle_draft {node : Option FileNode} (other : ∀ p ∈ pages, q ≠ p.place dest)
    (gone : node = none ∨ ∃ p ∈ pages, q = p.draftPlace dest) :
    pages.foldl (Page.settle dest q) node = none := by
  induction pages generalizing node with
  | nil => simpa using gone
  | cons p pages ih =>
    obtain ⟨goes, other⟩ := List.forall_mem_cons.mp other
    rw [List.foldl_cons, Page.settle, if_neg goes]
    by_cases beside : q = p.draftPlace dest
    · rw [if_pos beside]
      exact ih other (.inl rfl)
    · rw [if_neg beside]
      refine ih other (gone.imp id fun ⟨p', member, beside'⟩ => ⟨p', ?_, beside'⟩)
      rcases List.mem_cons.mp member with rfl | member
      · exact absurd beside' beside
      · exact member

/-- What no page goes to is left alone. -/
theorem foldl_settle_other {node : Option FileNode}
    (other : ∀ p ∈ pages, q ≠ p.place dest ∧ q ≠ p.draftPlace dest) :
    pages.foldl (Page.settle dest q) node = node := by
  induction pages with
  | nil => rfl
  | cons p pages ih =>
    obtain ⟨⟨goes, beside⟩, other⟩ := List.forall_mem_cons.mp other
    rw [List.foldl_cons, Page.settle, if_neg goes, if_neg beside, ih other]

end Settled

end RefDoc
