import OnnxForge.Path
import OnnxForge.Source.Token
import OnnxForge.Table

/-!
# Directories

Where generated files go, and what a directory holds after they are written. A run
names its directory itself; inside a build script the directory lies below the one that
the script provides.
-/

namespace OnnxForge

/-- Where a run is asked to write. -/
structure Destination where
  /-- The directory, once it is set. -/
  directory : Option String
  /-- Whether a build script asks. -/
  script : Bool
  /-- The directory that a build script provides. -/
  base : Option String

/-- Why there is nowhere to write. -/
inductive DestinationFault
  | notSet
  | noBase
deriving DecidableEq

def DestinationFault.message : DestinationFault → String
  | .notSet => "Invalid input: out_dir is not set"
  | .noBase => "Invalid input: OUT_DIR env is not set"

/-- The directory to write to. -/
def Destination.resolve (destination : Destination) : Except DestinationFault String :=
  match destination.directory with
  | none => .error .notSet
  | some directory =>
    if !destination.script then .ok directory
    else
      match destination.base with
      | none => .error .noBase
      | some base => .ok (Path.join base directory)

/-- What a file of a directory holds. -/
inductive Contents
  /-- What was there before. -/
  | kept
  /-- A first line and code. -/
  | code (firstLine : String) (tokens : List Source.Token)
  /-- The lines of a listing. -/
  | listing (lines : List String)
deriving DecidableEq

/-- The files of a directory. -/
abbrev Directory := Table Contents

/-- The directory after files are written, each in place of one of its name. -/
def Directory.write (directory : Directory) (files : List (String × Contents)) : Directory :=
  files.foldl (fun directory file => directory.insert file.1 file.2) directory

end OnnxForge
