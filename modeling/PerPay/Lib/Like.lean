/-
  **`LIKE`** — the patterns of SQLite: `%` stands for any text, `_` for any character, every other character for itself
  in either case of ASCII, and the character behind an escape character for itself.
-/
import Mathlib.Data.List.Basic

namespace Like

inductive Token
  | many
  | one
  | char (c : Char)
  deriving DecidableEq, Repr

/-- The pattern, with its escapes resolved. -/
def tokens (escape : Option Char) : List Char → List Token
  | [] => []
  | c :: cs =>
    if escape = some c then
      match cs with
      | [] => []
      | d :: ds => .char d :: tokens escape ds
    else (if c = '%' then .many else if c = '_' then .one else .char c) :: tokens escape cs

/-- Some suffix of the text satisfies `p`. -/
def anySuffix (p : List Char → Bool) : List Char → Bool
  | [] => p []
  | c :: cs => p (c :: cs) || anySuffix p cs

def «matches» : List Token → List Char → Bool
  | [], text => text.isEmpty
  | .many :: pattern, text => anySuffix («matches» pattern) text
  | .one :: pattern, _ :: cs => «matches» pattern cs
  | .char a :: pattern, c :: cs => a.toLower = c.toLower && «matches» pattern cs
  | _ :: _, [] => false

/-- `text LIKE pattern` -/
def like (pattern text : String) : Bool := «matches» (tokens none pattern.toList) text.toList

/-- `text LIKE pattern ESCAPE escape` -/
def likeEscape (escape : Char) (pattern text : String) : Bool :=
  «matches» (tokens (some escape) pattern.toList) text.toList

example : like "site_defaults.%" "site_defaults.update" = true := by decide +kernel

end Like
