import ParserKit.Grammar.Pattern
import ParserKit.Regex.Program
import ParserKit.Regex.Reader

/-!
# An engine for regular expressions

A pattern is read into an expression, and the expression is turned into a program for a machine
that follows all its ways through a text at the same time.

## Main definitions

* `Regex.engine`: the engine that reads patterns and runs their programs
-/

namespace ParserKit.Regex

/-- The engine that reads patterns and runs their programs. -/
def engine : Engine where
  Program := Program
  compile? text := (Expr.ofPattern? text.toList).map Program.ofExpr
  search p text := (p.search text).map fun (start, stop) =>
    { before := text.take start
      found := (text.drop start).take (stop - start)
      behind := (text.drop start).drop (stop - start)
      split := by rw [List.append_assoc, List.take_append_drop, List.take_append_drop] }

end ParserKit.Regex
