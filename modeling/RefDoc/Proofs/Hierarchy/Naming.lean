import RefDoc.Proofs.Hierarchy.Borrowed
import RefDoc.Proofs.Parser.Naming

/-!
# Names after the passes

Copying makes a doclet a member anew and whatever else the passes do leaves its naming alone, so
that they keep all doclets but the package coherent (`CoherentBeside.processed`). From the parser on,
no doclet is its own ancestor (`names_coherent`).
-/

namespace RefDoc

theorem CopyRule.coherent_copy {rule : CopyRule} (known : rule.Known) (target : String)
    (m : Doclet) : (rule.copy target m).naming.Coherent := by
  cases known with
  | mixing mixing => exact Doclet.coherent_setMemberOf m target (mixing.rule.scope m)
  | inheritance => exact Doclet.coherent_setMemberOf m target (Collection.inheritance.scope m)

theorem Borrow.coherent_copy (b : Borrow) (borrower : String) (source : Doclet) :
    (b.copy borrower source).naming.Coherent := by
  unfold Borrow.copy
  exact Doclet.coherent_setMemberOf _ borrower _

namespace Collection

variable {c c' : Collection} {position : Nat} {package : Doclet}

theorem Step.coherentBeside (step : Step c c') (h : c.CoherentBeside position package) :
    c'.CoherentBeside position package := by
  cases step with
  | copy known _ _ _ => exact h.push (CopyRule.coherent_copy known _ _)
  | implement owner m =>
    refine h.mapDoclets fun d => ?_
    split <;> rfl
  | reindex => exact ⟨h.package, h.others⟩

namespace CoherentBeside

theorem augment (h : c.CoherentBeside position package) :
    c.augment.1.CoherentBeside position package :=
  (augment_steps c).keep Step.coherentBeside h

theorem resolveBorrows (h : c.CoherentBeside position package) :
    c.resolveBorrows.1.CoherentBeside position package := by
  refine (h.mapDoclets (f := fun d => { d with borrowed := [] }) fun _ => rfl).pushAll fun d hd => ?_
  obtain ⟨borrower, -, b, -, source, -, rfl⟩ := mem_borrowedCopies.1 hd
  exact b.coherent_copy borrower.longname source

theorem processed (h : c.CoherentBeside position package) :
    c.processed.CoherentBeside position package :=
  (Step.coherentBeside (.reindex c) h).augment.resolveBorrows

end CoherentBeside

/-- **Names are coherent from the parser to the last pass.** Built-in plugins are installed, texts
are parsed, the package is added and the passes are made. Then every doclet but the package is
coherent, every member has a longer longname than what it belongs to, and no doclet is its own
ancestor. -/
theorem names_coherent {σ : Type} (config : Option Json) (plugins : List (LoadedPlugin σ))
    (registered : ∀ l ∈ plugins, ∃ name, Plugin.builtin.get? name = some l.plugin)
    (sources : List (Path × String)) (metadata : Option Json) (files : List Path)
    (desk : Desk σ) :
    let parsing := (Parser.parseTexts config plugins sources).run desk
    let package := Doclet.ofPackage metadata files
    let c := ((PostProcessor.standard.run (parsing.1.push package)).run parsing.2.1).1
    c.CoherentBeside parsing.1.size package ∧
      (∀ d ∈ c.doclets, ∀ parent, d.memberOf = some parent →
        parent.length < d.longname.length) ∧
      ∀ longname, ¬ Relation.TransGen c.Below longname longname := by
  intro parsing package c
  have keep : ∀ l ∈ plugins, l.plugin.KeepsNaming := by
    intro l hl
    obtain ⟨name, entry⟩ := registered l hl
    exact Plugin.builtin_keepsNaming entry
  have parsed : parsing.1.Coherent := Parser.parseTexts_coherent config keep sources desk
  have beside : c.CoherentBeside parsing.1.size package := by
    show CoherentBeside ((PostProcessor.standard.run _).run _).1 _ _
    rw [run_standard]
    exact (CoherentBeside.of_coherent parsed package).processed
  have longer : ∀ d ∈ c.doclets, ∀ parent, d.memberOf = some parent →
      parent.length < d.longname.length := fun d hd parent member =>
    beside.length_lt rfl hd member
  exact ⟨beside, longer, not_own_ancestor longer⟩

/-- The text of a class that borrows another one. -/
def shelfText : Path × String :=
  (⟨"shelf.js"⟩, "/** @class Shelf\n@borrows Box as _box */\n/** @class Box */")

/-- A parser whose only plugin hides what begins with an underscore. -/
def hidingPlugins : List (LoadedPlugin Unit) :=
  [⟨"plugins/underscore", .onDoclets Doclet.hideUnderscored⟩]

theorem names_coherent_shelf :
    (∀ l ∈ hidingPlugins, ∃ name, Plugin.builtin.get? name = some l.plugin) ∧
      let parsing := (Parser.parseTexts none hidingPlugins [shelfText]).run ⟨⟨[], []⟩, ()⟩
      let package := Doclet.ofPackage none []
      let c := ((PostProcessor.standard.run (parsing.1.push package)).run parsing.2.1).1
      c.CoherentBeside parsing.1.size package ∧
        (∀ d ∈ c.doclets, ∀ parent, d.memberOf = some parent →
          parent.length < d.longname.length) ∧
        ∀ longname, ¬ Relation.TransGen c.Below longname longname := by
  have registered : ∀ l ∈ hidingPlugins, ∃ name, Plugin.builtin.get? name = some l.plugin := by
    intro l hl
    rw [List.mem_singleton.1 hl]
    exact ⟨"plugins/underscore", rfl⟩
  exact ⟨registered, names_coherent none hidingPlugins registered [shelfText] none [] ⟨⟨[], []⟩, ()⟩⟩

end Collection

end RefDoc
