import OnnxForge.Table

/-!
# Embeddings

A node that looks up the rows of a table may be generated as an embedding: a layer with a
table of its own. Which nodes are is told by name.
-/

namespace OnnxForge

/-- The size of the table of an embedding. -/
structure Embedding where
  /-- The number of rows. -/
  count : UInt64
  /-- The width of a row. -/
  width : UInt64
deriving DecidableEq

/-- The nodes to generate as embeddings. -/
abbrev Embeddings := Table Embedding

/-- The embeddings of two tables, the second of which counts for a node in both. -/
def Embeddings.union (embeddings more : Embeddings) : Embeddings :=
  more.entries.foldl (fun table entry => table.insert entry.1 entry.2) embeddings

end OnnxForge
