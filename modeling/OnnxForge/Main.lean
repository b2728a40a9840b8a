import OnnxForge.Binding.Run
import OnnxForge.Catalogue.Builtin
import OnnxForge.Catalogue.OfJson
import OnnxForge.Network.Run
import OnnxForge.Source.Rendering

/-!
# Command line

Two commands. `bindings OUT [--overwrite] [SCHEMAS]` writes the bindings of a catalogue,
the builtin one by default. `network MODEL OUT [EMBEDDINGS]` writes the network of a model
file and a listing of its graph.
-/

namespace OnnxForge.CommandLine

/-- The text of a file. -/
def textOf : Contents → Option String
  | .kept => none
  | .code firstLine tokens => some (firstLine ++ "\n\n" ++ Source.Token.render tokens ++ "\n")
  | .listing lines => some ("\n".intercalate lines ++ "\n")

def writeFiles (directory : String) (files : Directory) : IO Unit := do
  IO.FS.createDirAll directory
  for (name, contents) in files.entries do
    match textOf contents with
    | none => pure ()
    | some text => IO.FS.writeFile (Path.join directory name) text

/-- The outcome of an action, or none if it fails. -/
def attempt {α : Type} (action : IO α) : IO (Option α) := do
  try
    return some (← action)
  catch _ => return none

/-- Reports a failure. -/
def fail (message : String) : IO UInt32 := do
  IO.eprintln message
  return 1

/-- The catalogue in a file, or the builtin one. -/
def readCatalogue : Option String → IO (Option Catalogue)
  | none => return some .builtin
  | some path => return (← attempt (IO.FS.readFile path)).bind Catalogue.parse?

/-- Writes bindings. -/
def bindings (directory : String) (options : List String) : IO UInt32 := do
  let overwrite := options.contains "--overwrite"
  match ← readCatalogue (options.filter (· != "--overwrite")).getLast? with
  | none => fail "Failed to load schemas"
  | some catalogue =>
    let run : Binding.Run := ⟨⟨some directory, false, none⟩, overwrite, catalogue⟩
    match run.directory .empty with
    | .error fault => fail ("Binding generation failed: " ++ fault.message)
    | .ok files =>
      if overwrite then discard (attempt (IO.FS.removeDirAll directory))
      writeFiles directory files
      return 0

/-- Writes the network of a model. -/
def network (model directory : String) (options : List String) : IO UInt32 := do
  let configuration ← match options.head? with
    | none => pure none
    | some path => some <$> IO.FS.readFile path
  let octets ← attempt (IO.FS.readBinFile model)
  let read (path : String) : Option Bytes :=
    if path = model then octets.map ByteArray.toList else none
  let run : Network.Run :=
    { destination := ⟨some directory, false, none⟩
      models := [model]
      development := true
      embeddings := .empty
      configuration }
  match run.directory .empty read with
  | .error fault => fail ("Module generation failed: " ++ fault.message)
  | .ok files =>
    writeFiles directory files
    return 0

end OnnxForge.CommandLine

/-- Runs a command. -/
def main (arguments : List String) : IO UInt32 :=
  match arguments with
  | "bindings" :: directory :: options => OnnxForge.CommandLine.bindings directory options
  | "network" :: model :: directory :: options =>
    OnnxForge.CommandLine.network model directory options
  | _ =>
    OnnxForge.CommandLine.fail
      "usage: bindings OUT [--overwrite] [SCHEMAS]\n       network MODEL OUT [EMBEDDINGS]"
