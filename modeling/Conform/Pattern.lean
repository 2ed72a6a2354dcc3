import Conform.Pattern.Reader

/-!
# Patterns

A pattern is a text that reads as a pattern expression and compiles within the size limit in both
directions.  This
file defines:

* `Pattern` and `Pattern.compile?`;
* `Pattern.isMatch`: occurring somewhere in a text.
-/

namespace Conform

/-- A pattern text with its expression. -/
structure Pattern where
  source : String
  expr : PatternExpr
  deriving DecidableEq, Repr

namespace Pattern

/-- The greatest size of each automaton of a pattern, in bytes. -/
def sizeLimit : Nat := 10 * 2 ^ 20

/-- The pattern of a text, unless the text is no pattern or one of its automata is too large. -/
def compile? (source : String) : Option Pattern :=
  match PatternExpr.read? source.toList with
  | some expr =>
    if expr.weight .forward ≤ sizeLimit ∧ expr.weight .backward ≤ sizeLimit then
      some ⟨source, expr⟩
    else none
  | none => none

/-- Whether the pattern matches a part of the text. -/
def isMatch (p : Pattern) (text : String) : Bool := p.expr.search text.toList

end Pattern

end Conform
