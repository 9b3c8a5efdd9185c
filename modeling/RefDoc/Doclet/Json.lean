import RefDoc.Doclet.Basic
import RefDoc.Json.Encode

/-!
# Doclets as JSON

A doclet is written as an object with its fields in a fixed order. A field that is absent, false or
empty is left out, and is read back as absent, false or empty.
-/

namespace RefDoc

open Json

namespace Kind

def toJson (k : Kind) : Json := .string k.name

def read : Tree → Decoded Kind := readName (all.map fun k => (k.name, k))

end Kind

namespace Scope

def toJson (s : Scope) : Json := .string s.name

def read : Tree → Decoded Scope := readName (all.map fun s => (s.name, s))

end Scope

namespace Access

def toJson (a : Access) : Json := .string a.name

def read : Tree → Decoded Access := readName (all.map fun a => (a.name, a))

end Access

namespace Borrow

def toJson (b : Borrow) : Json := .object [("from", .string b.source), ("as", .string b.asName)]

def fields : List (RecordField Borrow) :=
  [.of "from" .required readText fun v b => { b with source := v },
    .of "as" .required readText fun v b => { b with asName := v }]

def read : Tree → Decoded Borrow := readRecord "Borrow" fields default

end Borrow

namespace Tag

def toJson (t : Tag) : Json :=
  .object (("title", .string t.title) ::
    if t.value.isEmpty then [] else [("value", .string t.value)])

def fields : List (RecordField Tag) :=
  [.of "title" .required readText fun v t => { t with title := v },
    .of "value" .optional readText fun v t => { t with value := v }]

def read : Tree → Decoded Tag := readRecord "Tag" fields default

end Tag

namespace Origin

def toJson (o : Origin) : Json :=
  .object [("path", ofPath o.path), ("filename", .string o.filename), ("lineno", ofNat o.line)]

def fields : List (RecordField Origin) :=
  [.of "path" .required readPath fun v o => { o with path := v },
    .of "filename" .required readText fun v o => { o with filename := v },
    .of "lineno" .required readNatural fun v o => { o with line := v }]

def read : Tree → Decoded Origin := readRecord "DocletMeta" fields default

end Origin

namespace Doclet

def members (d : Doclet) : List (String × Json) :=
  [("name", .string d.name), ("longname", .string d.longname), ("kind", d.kind.toJson)] ++
    ifSome "memberof" .string d.memberOf ++
    ifSome "scope" Scope.toJson d.scope ++
    ifSome "access" Access.toJson d.access ++
    ifSome "description" .string d.description ++
    ifSome "summary" .string d.summary ++
    ifAny "augments" .string d.augments ++
    ifAny "mixes" .string d.mixes ++
    ifAny "implements" .string d.implements ++
    ifAny "borrowed" Borrow.toJson d.borrowed ++
    ifTrue "inherited" d.inherited ++
    ifSome "inherits" .string d.inherits ++
    ifTrue "mixed" d.mixed ++
    ifTrue "undocumented" d.undocumented ++
    ifAny "tags" Tag.toJson d.tags ++
    ifSome "meta" Origin.toJson d.origin ++
    ifAny "files" ofPath d.files ++
    ifSome "version" .string d.version

def toJson (d : Doclet) : Json := .object d.members

def fields : List (RecordField Doclet) :=
  [.of "name" .required readText fun v d => { d with name := v },
    .of "longname" .required readText fun v d => { d with longname := v },
    .of "kind" .required Kind.read fun v d => { d with kind := v },
    .of "memberof" .optional (readOption readText) fun v d => { d with memberOf := v },
    .of "scope" .optional (readOption Scope.read) fun v d => { d with scope := v },
    .of "access" .optional (readOption Access.read) fun v d => { d with access := v },
    .of "description" .optional (readOption readText) fun v d => { d with description := v },
    .of "summary" .optional (readOption readText) fun v d => { d with summary := v },
    .of "augments" .optional (readList readText) fun v d => { d with augments := v },
    .of "mixes" .optional (readList readText) fun v d => { d with mixes := v },
    .of "implements" .optional (readList readText) fun v d => { d with implements := v },
    .of "borrowed" .optional (readList Borrow.read) fun v d => { d with borrowed := v },
    .of "inherited" .optional readBool fun v d => { d with inherited := v },
    .of "inherits" .optional (readOption readText) fun v d => { d with inherits := v },
    .of "mixed" .optional readBool fun v d => { d with mixed := v },
    .of "undocumented" .optional readBool fun v d => { d with undocumented := v },
    .of "tags" .optional (readList Tag.read) fun v d => { d with tags := v },
    .of "meta" .optional (readOption Origin.read) fun v d => { d with origin := v },
    .of "files" .optional (readList readPath) fun v d => { d with files := v },
    .of "version" .optional (readOption readText) fun v d => { d with version := v }]

def read : Tree → Decoded Doclet := readRecord "Doclet" fields (named "" .member)

end Doclet

end RefDoc
