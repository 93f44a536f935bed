/-!
# Loaders

A bundle begins with a loader, a function `_bundle` that receives the table of modules and runs the
first one. It gives every module a `require` of its own that only knows the references of that
module. The caching loader runs a module once and remembers its state before running it, so that a
module within an import cycle is handed out half finished rather than run again.
-/

set_option autoImplicit false

namespace Bundler

/-- The lines of both loaders that define `require` for a module. -/
def requireLines : String :=
  "        def require(reference):\n" ++
  "            if reference not in mapping:\n" ++
  "                raise ImportError(\n" ++
  "                    f\"module \x7bidentity\x7d has no bundled dependency \x7breference!r\x7d\"\n" ++
  "                )\n" ++
  "            return load(mapping[reference])\n"

/-- The lines with which both loaders begin. -/
def loaderOpening : String :=
  "import types as _types\n" ++
  "\n" ++
  "\n" ++
  "def _bundle(modules):\n"

/-- The line with which both loaders make the state of a module. -/
def stateLine : String :=
  "        module = _types.SimpleNamespace(exports=_types.SimpleNamespace())\n"

/-- The lines with which both loaders run a module and start the first one. -/
def loaderClosing : String :=
  "        body(require, module, module.exports)\n" ++
  "        return module.exports\n" ++
  "\n" ++
  "    return load(0)\n"

/-- The loader that runs a module whenever it is required. -/
def plainLoader : String :=
  loaderOpening ++
  "    def load(identity):\n" ++
  "        body, mapping = modules[identity]\n" ++
  "\n" ++
  requireLines ++
  "\n" ++
  stateLine ++
  loaderClosing

/-- The loader that runs a module once. -/
def cachingLoader : String :=
  loaderOpening ++
  "    cache = \x7b\x7d\n" ++
  "\n" ++
  "    def load(identity):\n" ++
  "        if identity in cache:\n" ++
  "            return cache[identity].exports\n" ++
  "        body, mapping = modules[identity]\n" ++
  "\n" ++
  requireLines ++
  "\n" ++
  stateLine ++
  "        cache[identity] = module\n" ++
  loaderClosing

/-- The loader of a bundle. -/
def loaderText (cacheExports : Bool) : String :=
  if cacheExports then cachingLoader else plainLoader

end Bundler
