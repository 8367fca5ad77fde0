/-!
# Going back to an earlier state

A session keeps a current state together with earlier ones, to which it can
return in the reverse of the order in which they were kept.
-/

set_option autoImplicit false

namespace Highlighter

/-- A state and those kept for later, the latest first. -/
structure Session (State : Type) where
  current : State
  saved : List State

namespace Session

variable {State : Type}

def save (session : Session State) : Session State :=
  { session with saved := session.current :: session.saved }

/-- Goes on with the state kept last, if there is one. -/
def restore? (session : Session State) : Option (Session State) :=
  match session.saved with
  | [] => none
  | state :: saved => some ⟨state, saved⟩

def update (session : Session State) (state : State) : Session State :=
  { session with current := state }

end Session

end Highlighter
