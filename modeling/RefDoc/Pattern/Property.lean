import RefDoc.Pattern.CharSet

/-!
# Names of properties

The names by which a pattern asks for a property: general categories, scripts and a few others.
Case, spaces, hyphens, underscores and a leading `is` do not matter.
-/

namespace RefDoc.CharProperty

open Text

/-- A name without what does not matter. -/
def normalize (name : String) : String :=
  let bare := (name.toList.filter fun c =>
    c.toNat < 0x80 && c != ' ' && c != '_' && c != '-').map asciiLower
  match bare with
  | 'i' :: 's' :: rest => if rest == ['c'] then "isc" else String.ofList rest
  | bare => String.ofList bare

/-- General categories and groups of them by their short and long names. -/
def categoryNames : List (List String × List Category) :=
  [(["l", "letter"], [.lu, .ll, .lt, .lm, .lo]),
    (["lc", "casedletter"], [.lu, .ll, .lt]),
    (["lu", "uppercaseletter"], [.lu]),
    (["ll", "lowercaseletter"], [.ll]),
    (["lt", "titlecaseletter"], [.lt]),
    (["lm", "modifierletter"], [.lm]),
    (["lo", "otherletter"], [.lo]),
    (["m", "mark", "combiningmark"], [.mn, .mc, .me]),
    (["mn", "nonspacingmark"], [.mn]),
    (["mc", "spacingmark"], [.mc]),
    (["me", "enclosingmark"], [.me]),
    (["n", "number"], [.nd, .nl, .no]),
    (["nd", "decimalnumber", "digit"], [.nd]),
    (["nl", "letternumber"], [.nl]),
    (["no", "othernumber"], [.no]),
    (["p", "punctuation", "punct"], [.pc, .pd, .ps, .pe, .pi, .pf, .po]),
    (["pc", "connectorpunctuation"], [.pc]),
    (["pd", "dashpunctuation"], [.pd]),
    (["ps", "openpunctuation"], [.ps]),
    (["pe", "closepunctuation"], [.pe]),
    (["pi", "initialpunctuation"], [.pi]),
    (["pf", "finalpunctuation"], [.pf]),
    (["po", "otherpunctuation"], [.po]),
    (["s", "symbol"], [.sm, .sc, .sk, .so]),
    (["sm", "mathsymbol"], [.sm]),
    (["sc", "currencysymbol"], [.sc]),
    (["sk", "modifiersymbol"], [.sk]),
    (["so", "othersymbol"], [.so]),
    (["z", "separator"], [.zs, .zl, .zp]),
    (["zs", "spaceseparator"], [.zs]),
    (["zl", "lineseparator"], [.zl]),
    (["zp", "paragraphseparator"], [.zp]),
    (["c", "other"], [.cc, .cf, .cs, .co, .cn]),
    (["cc", "control", "cntrl"], [.cc]),
    (["cf", "format"], [.cf]),
    (["cs", "surrogate"], [.cs]),
    (["co", "privateuse"], [.co]),
    (["cn", "unassigned"], [.cn])]

def ofCategory? (name : String) : Option CharProperty :=
  match name with
  | "any" => some any
  | "ascii" => some ascii
  | "assigned" => some assigned
  | name => (categoryNames.find? fun e => e.1.contains name).map fun e => categories e.2

def ofScript? (name : String) : Option CharProperty :=
  let name := (scriptAliases.lookup name).getD name
  if scriptNames.contains name then some (script name) else none

def ofBinary? : String → Option CharProperty
  | "alphabetic" | "alpha" => some alphabetic
  | "lowercase" | "lower" => some lowercase
  | "uppercase" | "upper" => some uppercase
  | "whitespace" | "wspace" | "space" => some blank
  | _ => none

/-- The property a name stands for. -/
def ofName? (name : String) : Option CharProperty :=
  let name := normalize name
  (ofBinary? name).or ((ofCategory? name).or (ofScript? name))

/-- The property that a value of a named property stands for. -/
def ofValue? (name value : String) : Option CharProperty :=
  match normalize name with
  | "gc" | "generalcategory" => ofCategory? (normalize value)
  | "sc" | "script" | "scx" | "scriptextensions" => ofScript? (normalize value)
  | _ => none

end RefDoc.CharProperty
