import RefDoc.Config.Basic
import RefDoc.Error
import RefDoc.Pattern.Reader

/-!
# Filters

Which paths are sources by the rules of a configuration. A pattern looks at a path with slashes in
place of backslashes; exclusion of a path takes everything below it along.
-/

namespace RefDoc

structure SourceFilter where
  included : Pattern
  excluded : Option Pattern
  /-- Paths left out with everything below them. -/
  withoutPaths : List Path
  includeDotfiles : Bool

namespace SourceFilter

/-- The pattern of a rule, or the error that names the rule. -/
def compile (rule text : String) : Except Error Pattern :=
  match Pattern.ofText? text with
  | some p => .ok p
  | none => .error (.config s!"invalid source.{rule} \"{text}\": ")

/-- What a source is called unless the rules say otherwise. -/
def defaultPattern : String := ".+\\.js(doc|x)?$"

/-- Excluded paths are seen from the working directory. -/
def ofRules (rules : SourceRules) (workingDir : Path) : Except Error SourceFilter := do
  let included ← compile "includePattern" (rules.includePattern.getD defaultPattern)
  let excluded ←
    match rules.excludePattern with
    | some text => some <$> compile "excludePattern" text
    | none => .ok none
  .ok
    { included
      excluded
      withoutPaths := rules.excluded.map workingDir.join
      includeDotfiles := rules.includeDotfiles }

/-- Whether a path is a source. -/
def accepts (f : SourceFilter) (p : Path) : Bool :=
  let text := p.text.toList.map fun c => if c = '\\' then '/' else c
  f.included.occursIn text && !f.excluded.any (·.occursIn text) && !f.withoutPaths.any p.startsWith

/-- Whether a scan passes over what has that name. -/
def skips (f : SourceFilter) (name : String) : Bool :=
  !f.includeDotfiles && name.toList.head? == some '.'

end SourceFilter

end RefDoc
