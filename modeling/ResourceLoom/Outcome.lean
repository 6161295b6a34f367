/-! # Outcomes of actions on a state

An action either succeeds or fails, and in both cases leaves a state behind, which the outcome holds
beside the result. Nothing is undone on the way: where a failing action leaves its state as it was,
that is a property of the action.
-/
namespace ResourceLoom

structure Outcome (ε σ : Type) where
  result : Except ε Unit
  state : σ

namespace Outcome

variable {ε δ σ τ : Type}

def done (state : σ) : Outcome ε σ := ⟨.ok (), state⟩

def fail (error : ε) (state : σ) : Outcome ε σ := ⟨.error error, state⟩

/-- The same result, seen as an action on a larger state. -/
def onState (f : σ → τ) (outcome : Outcome ε σ) : Outcome ε τ := ⟨outcome.result, f outcome.state⟩

def mapError (f : ε → δ) (outcome : Outcome ε σ) : Outcome δ σ :=
  ⟨outcome.result.mapError f, outcome.state⟩

/-- Goes on with the state of a successful action; a failed one ends there. -/
def andThen (outcome : Outcome ε σ) (next : σ → Outcome ε σ) : Outcome ε σ :=
  match outcome.result with
  | .ok () => next outcome.state
  | .error e => fail e outcome.state

/-- The state that a successful action leaves, or its error. -/
def toExcept (outcome : Outcome ε σ) : Except ε σ := outcome.result.map fun _ => outcome.state

/-- The outcome of working on a copy: the state changes only when the work succeeds. -/
def ofExcept (before : σ) : Except ε σ → Outcome ε σ
  | .ok after => done after
  | .error e => fail e before

end Outcome
end ResourceLoom
