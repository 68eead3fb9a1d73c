import Coherence.Text.Blank

set_option autoImplicit false

namespace Coherence

-- A node's identity. Any text names a node; only some are accepted as a key of the store.
abbrev NodeId := String

abbrev Group := String

abbrev Key := String

abbrev Channel := String

namespace NodeId

def ofKey? (key : String) : Option NodeId := if Text.isTrimmed key then some key else none

theorem ofKey?_eq_some_iff {key : String} {node : NodeId} :
    ofKey? key = some node ↔ Text.isTrimmed key = true ∧ node = key := by
  unfold ofKey?
  split
  · rename_i trimmed
    simp [trimmed, eq_comm]
  · rename_i untrimmed
    simp [untrimmed]

end NodeId

end Coherence
