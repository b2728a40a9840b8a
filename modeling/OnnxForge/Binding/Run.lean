import OnnxForge.Binding.Files
import OnnxForge.Directory
import OnnxForge.Text.Quoted

/-!
# Writing bindings

A run makes all files of the bindings of a catalogue and writes them to a directory,
which it may empty before.
-/

namespace OnnxForge.Binding

/-- Why a run stops. -/
inductive RunError
  | destination (fault : DestinationFault)
  | file (fault : FileError)

def RunError.message : RunError → String
  | .destination fault => fault.message
  | .file (.notIdentifier name) => Text.quoted name ++ " is not a valid Ident"
  | .file .blankValue => "an underscore stands for a value"
  | .file .noSyntax => "Formatting error: a reserved word stands for a name"

/-- What a run asks for. -/
structure Run where
  destination : Destination
  /-- Whether the directory is emptied first. -/
  overwrite : Bool
  catalogue : Catalogue

/-- What a file of the bindings holds. -/
def File.contents (file : File) : Contents :=
  .code firstLine file.code

/-- The directory after a run. -/
def Run.directory (run : Run) (before : Directory) : Except RunError Directory :=
  match run.destination.resolve with
  | .error fault => .error (.destination fault)
  | .ok _ =>
    match files run.catalogue with
    | .error fault => .error (.file fault)
    | .ok files =>
      .ok (Directory.write (if run.overwrite then .empty else before)
        (files.map fun file => (file.name, file.contents)))

end OnnxForge.Binding
