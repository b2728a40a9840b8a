import OnnxForge.Message
import OnnxForge.Tensor
import OnnxForge.Text.Quoted

/-!
# Arguments

What may be passed for an input of a new node: an array, which becomes an
initializer, the name of a value, several names, or an earlier node, which stands for
its first output.
-/

namespace OnnxForge.Build

/-- The beginning of every name that a builder makes. -/
def namePrefix : String := "_t_"

/-- An argument of a new node. -/
inductive Argument
  | array (tensor : Tensor)
  | name (name : String)
  | names (names : List String)
  | node (node : Message.Node)

namespace Argument

/-- An argument as diagnostics show it. -/
def describe : Argument → String
  | .array _ => "Array"
  | .name text => "Name(" ++ Text.quoted text ++ ")"
  | .names texts => "Names(" ++ Text.quotedList texts ++ ")"
  | .node source => "Node(" ++ Text.quoted source.name ++ ")"

end Argument

end OnnxForge.Build
