import RefDoc.Error
import RefDoc.Markdown.Html

/-!
# Readmes

A readme that is HTML is taken as it is; any other is Markdown.
-/

namespace RefDoc

/-- Whether a path has an extension of HTML files. -/
def Path.isHtml (p : Path) : Bool :=
  match p.extension? with
  | some e => ["html", "htm"].contains (String.ofList (e.toList.map Text.asciiLower))
  | none => false

/-- The readme at a path as HTML. -/
def FileTree.readReadme (t : FileTree) (p : Path) : Except Error String :=
  match t.readText p with
  | .error e => .error (.file p e)
  | .ok text => .ok (if p.isHtml then text else Markdown.toHtml text)

end RefDoc
