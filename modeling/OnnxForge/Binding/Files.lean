import OnnxForge.Binding.OfCatalogue
import OnnxForge.Binding.Tokens
import OnnxForge.Source.Identifier

/-!
# Files of bindings

The files that bindings are written to: one for each version, the main file, and the
file that the functions share. They are made one after the other, and the first name
that cannot be used stops the making.
-/

namespace OnnxForge.Binding

/-- Why bindings cannot be written. -/
inductive FileError
  /-- A name cannot be an identifier. -/
  | notIdentifier (name : String)
  /-- The underscore stands for a value. -/
  | blankValue
  /-- A name that is reserved, or the underscore, stands for a function or a parameter, so the
  code has no syntax. -/
  | noSyntax
deriving DecidableEq

/-- A generated file. -/
structure File where
  name : String
  code : List Source.Token
deriving DecidableEq

/-- The line that opens every file. -/
def firstLine : String :=
  "// Autogenerated by onnx-model-maker. Don't modify it manually."

/-- The reserved words that names do not avoid. -/
def unescaped : List String :=
  ["abstract", "become"]

/-- Accepts names that can all be identifiers. -/
def checkIdentifiers (names : List String) : Except FileError Unit :=
  match names.find? fun name => !Source.isIdentifier name with
  | some name => .error (.notIdentifier name)
  | none => .ok ()

namespace Function

/-- The names that a function declares. -/
def declares (function : Function) : List String :=
  function.name :: function.parameters.map (·.name)

/-- Whether the names of a function leave its code a syntax. A parameter may be an
underscore. -/
def hasSyntax (function : Function) : Bool :=
  function.name != "_" && function.declares.all fun name => !unescaped.contains name

/-- Whether a parameter of a function is an underscore. -/
def isBlank (parameter : Parameter) : Bool :=
  parameter.name == "_"

end Function

namespace VersionModule

/-- The file of the functions of a version. -/
def file (module : VersionModule) : Except FileError File := do
  checkIdentifiers (module.functions.flatMap Function.declares)
  if !module.functions.all Function.hasSyntax then throw .noSyntax
  if module.functions.any (fun function => function.variadic?.any Function.isBlank) then
    throw .blankValue
  return ⟨fileName (moduleName module.version), module.code⟩

end VersionModule

namespace Bindings

def mainFile (bindings : Bindings) : Except FileError File := do
  checkIdentifiers (bindings.modules.map fun module => moduleName module.version)
  if bindings.modules.any (fun module =>
      module.functions.any fun function => function.parameters.any Function.isBlank) then
    throw .blankValue
  return ⟨fileName "mod", bindings.code⟩

def files (bindings : Bindings) : Except FileError (List File) := do
  let modules ← bindings.modules.mapM VersionModule.file
  return modules ++ [← bindings.mainFile, ⟨fileName "op_helper", helperCode⟩]

end Bindings

def files (catalogue : Catalogue) : Except FileError (List File) :=
  (Bindings.ofCatalogue catalogue).files

end OnnxForge.Binding
