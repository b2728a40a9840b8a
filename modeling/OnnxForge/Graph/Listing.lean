import OnnxForge.Graph

/-!
# Listings of graphs

A graph in lines of text: its inputs, its initializers, its nodes and its outputs, in the
order of the graph.
-/

namespace OnnxForge

def Node.line (node : Node) : String :=
  "node " ++ node.opType ++ " " ++ node.name ++ " (" ++ ", ".intercalate node.inputs ++ ") (" ++
    ", ".intercalate node.outputs ++ ")"

def Graph.lines (graph : Graph) : List String :=
  ("graph " ++ graph.name) :: graph.inputs.map (fun input => "input " ++ input.name) ++
    graph.initializers.entries.map
      (fun entry => "initializer " ++ entry.1 ++ " " ++ entry.2.shape.text) ++
    graph.nodes.map Node.line ++ graph.outputs.map fun output => "output " ++ output.name

end OnnxForge
