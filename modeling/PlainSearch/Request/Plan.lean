/-
  Request/Plan.lean --- what a request asks for, clause by clause.

  WHAT THIS FILE IS FOR.  A `Plan` is a request understood: the table, the search
  expression, the conditions, the ordering and the number of rows.  `plan` makes
  one, or none if the request names no table of the catalog.  The clauses are found
  independently of each other; a fault in one of them comes to light in the order
  expression, conditions, ordering, limit.
-/
import PlainSearch.Journal
import PlainSearch.Request.Expression
import PlainSearch.Request.Filter
import PlainSearch.Request.Target
import PlainSearch.Settings

set_option autoImplicit false

namespace PlainSearch

/-- A request understood. -/
structure Plan where
  target : Table
  expression : Text
  filters : List Text := []
  order : Option Text := none
  limit : Option Int := none
  deriving DecidableEq, Repr

namespace Request

/-- What is noted of the marker that introduced the search terms. -/
def markerEntry (marker : Text) : Entry :=
  ⟨.debug, .requests, "Search terms introduced by marker '".toList ++ marker ++ ['\'']⟩

/-- What is noted of a clause whose column the table lacks. -/
def noColumnEntry (table : Table) (o : Occurrence) : Entry :=
  ⟨.debug, .requests,
    "No column on '".toList ++ table.name ++ "' for '".toList ++ o.text ++ ['\'']⟩

/-- What is noted of the conditions of a text. -/
def filterEntries (table : Table) (text : Text) : List Entry :=
  (filterOutcomes table text).filterMap fun
    | (o, none) => some (noColumnEntry table o)
    | (_, some _) => none

/-- The plan of a request over a catalog. -/
def plan (settings : Settings) (catalog : Catalog) (raw : Text) : Traced (Option Plan) :=
  let text := normalize raw
  match catalog.resolve? text with
  | none => do
    Traced.record .info .requests ("No known table in request: ".toList ++ Text.quoted raw)
    return none
  | some target => do
    let (marker, ts) ← Traced.ofExcept (terms settings.markers text)
    Traced.recordAll (marker.toList.map markerEntry)
    let expression ← Traced.ofExcept (expression ts)
    Traced.recordAll (filterEntries target text)
    let limit ← Traced.ofExcept (limit? text)
    return some {
      target := target
      expression := expression
      filters := filters target text
      order := order? target text
      limit := limit.map Int.ofNat }

end Request
end PlainSearch
