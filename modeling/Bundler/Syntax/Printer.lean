import Bundler.Syntax.Printer.Statement

/-!
# Printing a module

The text of a module is its lines, joined by line feeds and without one at the end. The empty line
before a definition is left out at the very beginning.
-/

set_option autoImplicit false

namespace Bundler.Syntax

/-- The text of a module, or why it has none. -/
def Module.print (m : Module) : Except PrintError String := do
  let lines ← documentedLines 0 m
  let lines := match lines with
    | "" :: rest => rest
    | lines => lines
  return "\n".intercalate lines

end Bundler.Syntax
