import OnnxForge.Directory
import OnnxForge.Graph.Listing
import OnnxForge.Graph.OfMessage
import OnnxForge.Network.Embedding.OfJson
import OnnxForge.Network.OfGraph
import OnnxForge.Network.Tokens
import OnnxForge.Text.Quoted

/-!
# Writing networks

A run makes the network of each model file and writes its code to a directory, in a file
named for the model. The embeddings may be told beforehand, by a configuration, or both.
In development a run also writes a listing of each graph.
-/

namespace OnnxForge.Network

/-- Why a run stops. -/
inductive RunError
  | destination (fault : DestinationFault)
  /-- The configuration does not describe embeddings. -/
  | malformedConfiguration
  /-- The path of a model does not end in a file name. -/
  | noFileName (path : String)
  /-- No file can be written at the path. -/
  | unwritable (path : String)
  | network (fault : NetworkError)
deriving DecidableEq

def RunError.message : RunError → String
  | .destination fault => fault.message
  | .malformedConfiguration => "JSON error: the configuration does not describe embeddings"
  | .noFileName path => "Invalid input: no file name in " ++ Text.quoted path
  | .unwritable path => "IO error: no file can be written at " ++ Text.quoted path
  | .network fault => fault.message

/-- What a run asks for. -/
structure Run where
  destination : Destination
  /-- The paths of the models. -/
  models : List String
  /-- Whether graphs are listed. -/
  development : Bool
  embeddings : Embeddings
  /-- The text of a configuration, whose entries come on top. -/
  configuration : Option String

/-- The line that opens the code of a model. -/
def firstLine (model : String) : String :=
  "// Generated from ONNX " ++ Text.quoted model ++ " by onnx-module-gen"

namespace Run

def allEmbeddings (run : Run) : Except RunError Embeddings :=
  match run.configuration with
  | none => .ok run.embeddings
  | some text =>
    match Embeddings.parse? text with
    | none => .error .malformedConfiguration
    | some more => .ok (run.embeddings.union more)

def fileAt (path extension : String) (contents : Contents) :
    Except RunError (String × Contents) :=
  match Path.withExtension? path extension with
  | none => .error (.unwritable path)
  | some file => .ok (file, contents)

def networkOf (embeddings : Embeddings) (graph : Graph) : Except RunError Network :=
  (ofGraph ⟨graph, embeddings⟩ .standard).mapError .network

/-- The files of one model. The octets of files are found with `read`. -/
def filesOf (run : Run) (embeddings : Embeddings) (directory : String)
    (read : String → Option Bytes) (model : String) : Except RunError (List (String × Contents)) :=
  match Path.stem? model with
  | none => .error (.noFileName model)
  | some stem => do
    let target := Path.join directory stem
    let graph ← (Graph.ofFile (read model)).mapError fun fault => .network (.unread fault)
    let listings ← if run.development then
        List.singleton <$> fileAt target "graph.txt" (.listing graph.lines)
      else pure []
    let network ← networkOf embeddings graph
    return listings ++ [← fileAt target "rs" (.code (firstLine model) (network.code .plain))]

/-- The files that a run writes, in order, with their paths. -/
def files (run : Run) (read : String → Option Bytes) :
    Except RunError (List (String × Contents)) := do
  let directory ← run.destination.resolve.mapError .destination
  let embeddings ← run.allEmbeddings
  return (← run.models.mapM (filesOf run embeddings directory read)).flatten

/-- The directory after a run, from what it held before. -/
def directory (run : Run) (before : Directory) (read : String → Option Bytes) :
    Except RunError Directory := do
  let directory ← run.destination.resolve.mapError .destination
  let files ← run.files read
  return before.write (files.filterMap fun (path, contents) =>
    (Path.nameIn? directory path).map fun name => (name, contents))

end Run

end OnnxForge.Network
