import Mathlib.Data.List.Basic

/-!
# Occurrences of a pattern in a text

The text is compared with the pattern up to `same`, unit by unit.
`firstOccurrence` is where the pattern first occurs from a position on.
-/

namespace IosChrome.Lib

universe u

variable {α : Type u} (same : α → α → Bool)

/-- The text starts with the pattern. -/
def startsWith : List α → List α → Bool
  | [], _ => true
  | _ :: _, [] => false
  | p :: pattern, c :: text => same c p && startsWith pattern text

/-- The first occurrence in `text`, which is the text from `start` on. -/
def findFrom (pattern : List α) : List α → Nat → Option Nat
  | [], start => if startsWith same pattern [] then some start else none
  | c :: text, start =>
    if startsWith same pattern (c :: text) then some start else findFrom pattern text (start + 1)

/-- The first occurrence at or after `start`. -/
def firstOccurrence (pattern text : List α) (start : Nat) : Option Nat :=
  if start ≤ text.length then findFrom same pattern (text.drop start) start else none

end IosChrome.Lib
