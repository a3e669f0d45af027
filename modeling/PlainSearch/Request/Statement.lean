/-
  Request/Statement.lean --- a plan as a statement of the database.

  WHAT THIS FILE IS FOR.  A plan is carried out by one statement on the companion
  of its table:

      SELECT rowid, * FROM c WHERE c MATCH 'expression' AND condition ... ORDER BY ... LIMIT n

  The expression is a string literal, in which a single quote is written twice.
-/
import PlainSearch.Request.Plan

set_option autoImplicit false

namespace PlainSearch

/-- A text as the inside of a string literal: single quotes are written twice. -/
def Sql.literalBody (t : Text) : Text := Text.substitute '\'' ['\'', '\''] t

/-- The statement that carries out a plan. -/
def Plan.statement (settings : Settings) (p : Plan) : Text :=
  let companion := p.target.companion settings.suffix
  let search := "SELECT rowid, * FROM ".toList ++ companion ++ " WHERE ".toList ++ companion
    ++ " MATCH '".toList ++ Sql.literalBody p.expression ++ ['\'']
  let conditions := p.filters.map ("AND ".toList ++ ·)
  let ordering := p.order.toList.filter (· ≠ [])
  let rows := p.limit.toList.map ("LIMIT ".toList ++ Text.ofInt ·)
  Text.joinWith [' '] (search :: conditions ++ ordering ++ rows)

namespace Request

/-- The statement that a request asks for, or nothing if it names no table of the catalog. -/
def statement? (settings : Settings) (catalog : Catalog) (raw : Text) :
    Traced (Option Text) := do
  match ← plan settings catalog raw with
  | none => return none
  | some p =>
    let sql := p.statement settings
    Traced.record .debug .requests
      ("Translated ".toList ++ Text.quoted raw ++ " -> ".toList ++ sql)
    return some sql

end Request
end PlainSearch
