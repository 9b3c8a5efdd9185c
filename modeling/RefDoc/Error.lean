import RefDoc.FileTree.Basic
import RefDoc.Text.Quoted

/-!
# Errors

What ends a run. Anything a run can live with is logged instead.
-/

namespace RefDoc

inductive Error where
  | unknownHost
  | badArguments (message : String)
  | config (message : String)
  | io (path : Path) (message : String)
  | pluginLoad (plugin message : String)
  | templateLoad (template message : String)
  | noEntryPoint (template : String)
  | render (message : String)
  | fatal (message : String)
  deriving DecidableEq, Repr, Inhabited

namespace Error

def file (path : Path) (fault : FileFault) : Error := .io path fault.message

def message : Error → String
  | unknownHost => "unable to identify the current host environment"
  | badArguments message => message
  | config message => s!"config error: {message}"
  | io path message => s!"I/O error at {Text.quoted path.text}: {message}"
  | pluginLoad plugin message => s!"unable to load plugin \"{plugin}\": {message}"
  | templateLoad template message => s!"unable to load template: {template}: {message}"
  | noEntryPoint template => s!"{template} does not export a \"publish\" entry point"
  | render message => s!"render error: {message}"
  | fatal message => message

end Error

end RefDoc
