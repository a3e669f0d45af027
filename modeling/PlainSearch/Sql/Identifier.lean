/-
  Sql/Identifier.lean --- names in statements.

  WHAT THIS FILE IS FOR.  A name is written bare in a statement if it reads as an
  identifier there, and between double quotes otherwise, with every double quote in
  it written twice.  A name is bare only if it

    * is no reserved word,
    * consists of letters and digits, underscores and dollar signs, at least one of
      them, and perhaps a line break at its end,
    * begins with neither a digit nor a dollar sign,
    * has no capitals, which the engine would not tell from small letters.

  The letters are the small ones from a to z and the two others whose capitals are
  among A to Z, the dotless i and the long s.  The empty name is between double quotes:
  such is the name of the table behind a companion named by the suffix alone.

  A statement with a bare name does not show a line break at its end: what is named
  there is the `stem`.  So a word that is reserved is bare with a line break behind
  it, and what the engine makes of it then depends on the word.
-/
import PlainSearch.Text.Digit
import PlainSearch.Text.LowerCase

set_option autoImplicit false
set_option maxRecDepth 2000

namespace PlainSearch.Sql

/-- The words that are never written bare. -/
def reservedWords : List Text :=
  ["add", "after", "all", "alter", "analyze", "and", "as", "asc", "attach", "autoincrement",
    "before", "begin", "between", "by", "cascade", "case", "cast", "check", "collate", "column",
    "commit", "conflict", "constraint", "create", "cross", "current_date", "current_time",
    "current_timestamp", "database", "default", "deferrable", "deferred", "delete", "desc",
    "detach", "distinct", "drop", "each", "else", "end", "escape", "except", "exclusive", "exists",
    "explain", "fail", "false", "for", "foreign", "from", "full", "glob", "group", "having", "if",
    "ignore", "immediate", "in", "index", "indexed", "initially", "inner", "insert", "instead",
    "intersect", "into", "is", "isnull", "join", "key", "left", "like", "limit", "match", "natural",
    "not", "notnull", "null", "of", "offset", "on", "or", "order", "outer", "plan", "pragma",
    "primary", "query", "raise", "references", "reindex", "rename", "replace", "restrict", "right",
    "rollback", "row", "select", "set", "table", "temp", "temporary", "then", "to", "transaction",
    "trigger", "true", "union", "unique", "update", "using", "vacuum", "values", "view", "virtual",
    "when", "where"].map String.toList

/-- A character of a bare name. -/
def isBareChar (c : Char) : Bool :=
  Text.inRanges [(0x24, 0x24), (0x30, 0x39), (0x5f, 0x5f), (0x61, 0x7a), (0x131, 0x131),
    (0x17f, 0x17f)] c.toNat

/-- A name without a line break at its end. -/
def stem (name : Text) : Text := (Text.stripSuffix? ['\n'] name).getD name

/-- A name that reads as an identifier when it is written as it is. -/
def isBare (name : Text) : Bool :=
  match stem name with
  | [] => false
  | c :: r =>
    (c :: r).all isBareChar && !Text.isAsciiDigit c && c ≠ '$' && !reservedWords.contains name

/-- A name between double quotes. -/
def quotedName (name : Text) : Text := '"' :: Text.substitute '"' ['"', '"'] name ++ ['"']

/-- A name as a statement writes it. -/
def identifier (name : Text) : Text := if isBare name then name else quotedName name

example : identifier [] = ['"', '"'] := by decide

end PlainSearch.Sql
