import Coherence.Text.Quoted

set_option autoImplicit false

namespace Coherence

structure Subscription where
  label : String
  active : Bool := true
deriving DecidableEq

namespace Subscription

def release (subscription : Subscription) : Subscription × Nat :=
  ({ subscription with active := false }, if subscription.active then 1 else 0)

def describe (subscription : Subscription) : String :=
  "Subscription \x7b label: " ++ Text.quoted subscription.label ++ ", active: " ++
    (if subscription.active then "true" else "false") ++ " \x7d"

end Subscription

end Coherence
