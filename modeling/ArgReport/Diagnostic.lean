/-!
# Diagnostics

A diagnostic is what went wrong first, wrapped in the contexts in which it
happened. It is told from the outside in, on one line when none of its texts has
a line break.
-/

namespace ArgReport

/-- A first cause and the contexts around it. -/
structure Diagnostic where
  /-- What went wrong first. -/
  root : String
  /-- The contexts, from the innermost to the outermost. -/
  contexts : List String := []
  deriving DecidableEq, Repr

namespace Diagnostic

/-- Put one more context around a diagnostic. -/
def within (diagnostic : Diagnostic) (context : String) : Diagnostic :=
  { diagnostic with contexts := diagnostic.contexts ++ [context] }

/-- Every text of the diagnostic, from the outermost to the root. -/
def chain (diagnostic : Diagnostic) : List String :=
  diagnostic.contexts.reverse ++ [diagnostic.root]

@[simp] theorem chain_root (root : String) :
    ({ root } : Diagnostic).chain = [root] := rfl

@[simp] theorem chain_within (diagnostic : Diagnostic) (context : String) :
    (diagnostic.within context).chain = context :: diagnostic.chain := by
  simp [within, chain]

/-- The outermost text of the diagnostic. -/
def headline (diagnostic : Diagnostic) : String :=
  diagnostic.contexts.getLast?.getD diagnostic.root

/-- The line that tells the whole diagnostic. -/
def line (diagnostic : Diagnostic) : String :=
  "error: " ++ ": ".intercalate diagnostic.chain

end Diagnostic
end ArgReport
