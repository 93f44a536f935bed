import Bundler.Text.Quoted
import Bundler.Validation

/-!
# Settings

The settings of a project, which its configuration file may give. Names of files have to be plain,
suffixes have to begin with a dot, and unknown settings are refused.
-/

set_option autoImplicit false

namespace Bundler

/-- When two references share a record. -/
inductive IdentityPolicy where
  /-- There is one record for each file. -/
  | perLocation
  /-- There is one record for each occurrence of a reference. -/
  | perReference
deriving DecidableEq, Repr

namespace IdentityPolicy

/-- The name of a policy. -/
def name : IdentityPolicy → String
  | .perLocation => "per_location"
  | .perReference => "per_reference"

/-- The policies under their names. -/
def choices : List (String × IdentityPolicy) :=
  [.perLocation, .perReference].map fun p => (p.name, p)

end IdentityPolicy

/-- The settings of a project. -/
structure Settings where
  /-- The entry module, relative to the root. -/
  entry : Option String := none
  /-- The directory for what is generated. -/
  outputDir : String := ".modpack"
  /-- The name of the bundle in that directory. -/
  bundleName : String := "bundle.py"
  /-- When two references share a record. -/
  policy : IdentityPolicy := .perLocation
  /-- Whether a module runs only once in the bundle. -/
  cacheExports : Bool := false
  /-- The number of records that a build may create. -/
  maxModules : Nat := 10000
  /-- The suffixes that are tried for references. -/
  suffixes : List String := [".py"]
deriving DecidableEq, Repr

namespace Settings

/-- Whether a text is the plain name of a file. -/
def isPlainName (name : String) : Bool :=
  name != "" && !name.toList.contains '/' && !name.toList.contains '\\' && name != "." &&
    name != ".."

/-- Whether a text is a suffix: a dot with something after it. -/
def isSuffix (s : String) : Bool :=
  s.startsWith "." && 2 ≤ s.length

/-- What settings have to meet. -/
structure IsValid (s : Settings) : Prop where
  /-- The bundle has a plain name. -/
  bundleName : isPlainName s.bundleName = true
  /-- A build may create a record. -/
  maxModules : 1 ≤ s.maxModules
  /-- Suffixes begin with a dot. -/
  suffixes : ∀ x ∈ s.suffixes, isSuffix x = true

/-- The plain name of a file that a value is. -/
def plainName (j : Json) : Checked String := do
  let name ← Validation.string j
  if isPlainName name then .ok name
  else .refuse (.rule ("bundle_name must be a plain filename, got " ++ Text.quoted name))

/-- The suffixes that a value lists. -/
def suffixList (j : Json) : Checked (List String) := do
  let suffixes ← Validation.strings .notList j
  match suffixes.find? (!isSuffix ·) with
  | none => .ok suffixes
  | some suffix =>
    .refuse (.rule ("suffixes must look like '.py', got " ++ Text.quoted suffix))

/-- The name of the settings in reports. -/
def modelName : String := "BundleConfig"

/-- The names of all settings. -/
def names : List String :=
  ["entry", "output_dir", "bundle_name", "identity_policy", "cache_exports", "max_modules",
    "suffixes"]

/-- The settings with the given members; those that are not given have their defaults. -/
def ofMembers (members : List (String × Json)) : Except Invalid Settings :=
  let defaults : Settings := {}
  let entry := Validation.optional members "entry" Validation.optionalString defaults.entry
  let outputDir := Validation.optional members "output_dir" Validation.string defaults.outputDir
  let bundleName := Validation.optional members "bundle_name" plainName defaults.bundleName
  let policy := Validation.optional members "identity_policy"
    (Validation.among IdentityPolicy.choices) defaults.policy
  let cacheExports :=
    Validation.optional members "cache_exports" Validation.boolean defaults.cacheExports
  let maxModules := Validation.optional members "max_modules"
    (fun j => (Validation.integerFrom 1 j).map Int.toNat) defaults.maxModules
  let suffixes := Validation.optional members "suffixes" suffixList defaults.suffixes
  let unknown := Validation.unknownMembers members names
  match entry, outputDir, bundleName, policy, cacheExports, maxModules, suffixes, unknown with
  | .ok entry, .ok outputDir, .ok bundleName, .ok policy, .ok cacheExports, .ok maxModules,
      .ok suffixes, [] =>
    .ok { entry, outputDir, bundleName, policy, cacheExports, maxModules, suffixes }
  | _, _, _, _, _, _, _, _ =>
    .error ⟨modelName, entry.issues ++ outputDir.issues ++ bundleName.issues ++ policy.issues ++
      cacheExports.issues ++ maxModules.issues ++ suffixes.issues ++ unknown⟩

/-- The settings that a value gives. -/
def ofJson : Json → Except Invalid Settings
  | .object members => ofMembers members
  | _ => .error ⟨modelName, [⟨[], .notModel modelName⟩]⟩

/-- The settings as a value. -/
def toJson (s : Settings) : Json :=
  .object
    [("entry", match s.entry with
      | none => .null
      | some e => .string e),
    ("output_dir", .string s.outputDir),
    ("bundle_name", .string s.bundleName),
    ("identity_policy", .string s.policy.name),
    ("cache_exports", .bool s.cacheExports),
    ("max_modules", .int s.maxModules),
    ("suffixes", .array (s.suffixes.map .string))]

end Settings

end Bundler
