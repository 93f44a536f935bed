import Bundler.Syntax.Tree

/-!
# Publishing names

A module publishes its public names by copying them into its `exports`: those that do not begin with
an underscore, belong to the module itself, and are listed in `__all__` if the module has one. The
statement that does so stands before every scoped import and at the end of the module, so that a
module within an import cycle exposes what it has defined so far.
-/

set_option autoImplicit false

namespace Bundler.Import

open Bundler.Syntax

/-- A text as an expression. -/
def literal (s : String) : Expr :=
  .constant (.text (Text.CodePoints.ofString s) false)

/-- A call without keyword arguments. -/
def call (function : Expr) (arguments : List Expr) : Expr :=
  .call function arguments []

/-- A call of a method without keyword arguments. -/
def callMethod (value : Expr) (method : String) (arguments : List Expr) : Expr :=
  call (.attribute value method) arguments

/-- That the name bound to `_name` does not begin with an underscore. -/
def isPublic : Expr :=
  .unary .not (callMethod (.name "_name") "startswith" [literal "_"])

/-- The pair of a name and its value. -/
def nameAndValue : Expr :=
  .tuple [.name "_name", .name "_value"]

/-- The dictionary of the module's global names. -/
def globals : Expr :=
  call (.name "globals") []

/-- The statement that publishes the names of a module. -/
def publication : Stmt :=
  .expr (callMethod (.attribute (.name "exports") "__dict__") "update"
    [.generator nameAndValue
      [.mk nameAndValue (call (.name "list") [callMethod globals "items" []])
        [.boolOp .and
          [isPublic,
            .compare (.name "_name")
              [(.notIn, .tuple [literal "require", literal "module", literal "exports"])],
            .compare (.name "_name")
              [(.isIn, callMethod globals "get" [literal "__all__", .tuple [.name "_name"]])]]]
        false]])

/-- The publishing statement as it ends every compiled module. -/
def publicationText : String :=
  "exports.__dict__.update(\n" ++
  "    (_name, _value)\n" ++
  "    for _name, _value in list(globals().items())\n" ++
  "    if not _name.startswith('_')\n" ++
  "    and _name not in ('require', 'module', 'exports')\n" ++
  "    and _name in globals().get('__all__', (_name,))\n" ++
  ")\n"

end Bundler.Import
