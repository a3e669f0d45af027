/-
  Request/Target.lean --- which table a request asks about.

  WHAT THIS FILE IS FOR.  Neither letter case nor the white space around a request
  carries meaning, so every rule of this folder reads its normal form.

  A request asks about the first table of the catalog that
  it names.  A table is named by its name in lower case, or by that without one
  final s, wherever these stand in the request, inside longer words too.  The
  empty text names nothing.
-/
import PlainSearch.Schema.Basic
import PlainSearch.Text.Blank
import PlainSearch.Text.LowerCase

set_option autoImplicit false

namespace PlainSearch

/-- A request without the blanks around it, in lower case. -/
def Request.normalize (raw : Text) : Text := Text.lower (Text.trim raw)

/-- A word without one final s. -/
def Request.singular (t : Text) : Text := (Text.stripSuffix? ['s'] t).getD t

namespace Table

/-- What a table may be called in a request. -/
def callings (t : Table) : List Text :=
  let n := Text.lower t.name
  [n, Request.singular n].filter (· ≠ [])

/-- A table is named in a text. -/
def isNamedIn (t : Table) (text : Text) : Bool := t.callings.any (Text.occursIn · text)

end Table

/-- The first table of a catalog that is named in a text. -/
def Catalog.resolve? (c : Catalog) (text : Text) : Option Table :=
  c.tables.find? (·.isNamedIn text)

end PlainSearch
