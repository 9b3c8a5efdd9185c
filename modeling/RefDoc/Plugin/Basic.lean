import RefDoc.Parser.Basic

/-!
# Plugins

A plugin is a list of event handlers, and a hook that gets the parser itself once they are
registered. Of two handlers for one event the one installed last counts.
-/

namespace RefDoc

structure Plugin (σ : Type) where
  handlers : Act σ (List (Handler σ)) := pure []
  /-- Given the parser, what it is from then on: its handlers, its stop check, all of it. -/
  hook : Parser σ → Act σ (Parser σ) := pure

/-- A plugin with the name it was asked for by. -/
structure LoadedPlugin (σ : Type) where
  specifier : String
  plugin : Plugin σ

namespace Parser

variable {σ : Type}

def onAll (p : Parser σ) (hs : List (Handler σ)) : Act σ (Parser σ) := hs.foldlM on p

def install (p : Parser σ) (l : LoadedPlugin σ) : Act σ (Parser σ) := do
  let p ← p.onAll (← l.plugin.handlers)
  let p ← l.plugin.hook p
  Act.log (.debug "plugin installed" [("plugin", l.specifier)])
  return p

def installAll (p : Parser σ) (ls : List (LoadedPlugin σ)) : Act σ (Parser σ) := ls.foldlM install p

end Parser

end RefDoc
