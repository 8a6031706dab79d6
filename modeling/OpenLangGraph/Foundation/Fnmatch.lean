import Mathlib.Data.List.Infix
import OpenLangGraph.Foundation.PyString

/-!
# Patterns of file names

`fnmatch.fnmatch` of the standard library, as it is on POSIX: a name matches a pattern as a whole.

## Main definitions

* `Fnmatch.tokens` — a pattern, read from left to right
* `Fnmatch.fnmatch`
-/

open PyString

namespace Fnmatch

inductive Token
  /-- `*` -/
  | star
  /-- `?` -/
  | any
  /-- `[seq]` and `[!seq]` -/
  | oneOf (negated : Bool) (ranges : List (Char × Char))
  | literal (c : Char)

/-- The characters and ranges between brackets. A hyphen at either end stands for itself. -/
def ranges : Str → List (Char × Char)
  | a :: '-' :: b :: rest => (a, b) :: ranges rest
  | a :: rest => (a, a) :: ranges rest
  | [] => []

/-- What follows an opening bracket: whether it is negated, what is between the brackets, and what
follows the closing one. A closing bracket that comes first stands for itself. -/
def bracketed (s : Str) : Option (Bool × Str × Str) :=
  let (negated, s) := match s with
    | '!' :: s => (true, s)
    | _ => (false, s)
  let (first, s) := match s with
    | ']' :: s => ("]".toList, s)
    | _ => ([], s)
  match s.dropWhile (· ≠ ']') with
  | _ :: rest => some (negated, first ++ s.takeWhile (· ≠ ']'), rest)
  | [] => none

/-- The tokens of a pattern, of which there are at most as many as characters. -/
def tokens : ℕ → Str → List Token
  | 0, _ => []
  | _ + 1, [] => []
  | n + 1, c :: pattern =>
    if c = '*' then .star :: tokens n pattern
    else if c = '?' then .any :: tokens n pattern
    else if c = '[' then
      match bracketed pattern with
      | some (negated, content, rest) => .oneOf negated (ranges content) :: tokens n rest
      -- without a closing bracket the opening one stands for itself
      | none => .literal c :: tokens n pattern
    else .literal c :: tokens n pattern

def matchTokens : List Token → Str → Bool
  | [], name => name.isEmpty
  | .star :: rest, name => name.tails.any (matchTokens rest)
  | _ :: _, [] => false
  | .any :: rest, _ :: name => matchTokens rest name
  | .oneOf negated ranges :: rest, c :: name =>
    (ranges.any (fun r => r.1 ≤ c && c ≤ r.2) != negated) && matchTokens rest name
  | .literal c' :: rest, c :: name => c' = c && matchTokens rest name

/-- `fnmatch.fnmatch` -/
def fnmatch (name pattern : Str) : Bool := matchTokens (tokens pattern.length pattern) name

example : fnmatch "/threads/7/runs".toList "/threads/*/runs".toList = true := by decide

example : fnmatch "/runs/a-".toList "/runs/[!0-9][-x]".toList = true := by decide

end Fnmatch
