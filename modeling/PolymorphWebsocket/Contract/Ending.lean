import PolymorphWebsocket.Contract.Types
import PolymorphWebsocket.Transition.Observation

/-!
# What a connection shows whose end is settled

The guest sees a connection through the results of its receive calls, its state and the close
details; every implementation is observed so (`shownResults`, `Ending.Tells`).  Once nothing more can
be received and the close details are settled there is not much left to see: `Ending` is all of it.
-/

namespace Polymorph

/-- What the guest sees of a connection. -/
inductive Observation
  /-- A receive call returns. -/
  | received (result : Except Error Message)
  /-- The value of `state`. -/
  | state (value : WsState)
  /-- A `wait-closed` call returns. -/
  | closed (info : Option CloseInfo)
  deriving DecidableEq

/-- A receive call has failed with `closed`. -/
def Observation.isClosed : Observation → Bool
  | .received result => failsClosed result
  | .state _ | .closed _ => false

/-- What the results of receive calls have grown by. -/
def shownResults (before after : List (Nat × Except Error Message)) : List Observation :=
  Transition.grown (fun result => .received result.2) before after

/-- Nothing is shown while no call returns. -/
theorem shownResults_of_eq {before after : List (Nat × Except Error Message)} (h : after = before) :
    shownResults before after = [] :=
  Transition.grown_of_eq h

/-- A call that returns shows its result. -/
theorem shownResults_of_answer {before after : List (Nat × Except Error Message)} {id : Nat}
    {result : Except Error Message} (h : after = before ++ [(id, result)]) :
    shownResults before after = [.received result] :=
  Transition.grown_of_append h

/-- A connection that has nothing left but its end. -/
structure Ending where
  state : WsState
  /-- `wait-closed` resolves. -/
  settled : Bool
  info : Option CloseInfo

/-- What can be asked for at any time: the state, by a handle that is live, and the close details
once they are settled. -/
def Ending.Tells (e : Ending) (live : Prop) : Observation → Prop
  | .received _ => False
  | .state value => live ∧ value = e.state
  | .closed info => e.settled = true ∧ info = e.info

/-- The moves of such a connection: it goes on to closed and settles, receive calls fail with
`closed`, and what is asked for is told. -/
inductive Ending.Move : Ending → List Observation → Ending → Prop
  | advance (e : Ending) (state : WsState) (h : e.state.rank ≤ state.rank) :
      Move e [] { e with state := state }
  | settle (e : Ending) (h : e.state = .closed) : Move e [] { e with settled := true }
  | receive (e : Ending) : Move e [.received (.error .closed)] e
  | state (e : Ending) : Move e [.state e.state] e
  | waitClosed (e : Ending) (h : e.settled = true) : Move e [.closed e.info] e

/-- Such a connection under observation. -/
def Ending.observed : Transition.Observed Ending Observation where
  move := Ending.Move

end Polymorph
