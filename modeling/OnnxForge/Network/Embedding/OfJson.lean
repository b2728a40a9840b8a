import OnnxForge.Json.Reader
import OnnxForge.Network.Embedding

/-!
# Embeddings in JSON

Embeddings are stored as an object with a record for each node.
-/

namespace OnnxForge

/-- The embedding that a record describes. -/
def Embedding.ofJson? (json : Json) : Option Embedding := do
  match ← json.fields? ["num_embeddings", "embedding_dim"] with
  | [some count, some width] => return ⟨← count.uint64?, ← width.uint64?⟩
  | _ => none

namespace Embeddings

/-- The entry that a member of an object describes. -/
def entryOf? (member : Option String × Json) : Option (String × Embedding) := do
  return (← member.1, ← Embedding.ofJson? member.2)

/-- The embeddings that an object describes. The last record of a name counts. -/
def ofJson? : Json → Option Embeddings
  | .object members => (members.mapM entryOf?).map Table.ofList
  | _ => none

def parse? (text : String) : Option Embeddings :=
  (Json.parse? text).bind ofJson?

end Embeddings

end OnnxForge
