import CatalogFeeds.Engine.Run
import CatalogFeeds.Proofs.Results
/-!
Actions on a session.

An action is looked at as a function: `RunM.outcome` is what it gives on a session together with
the session after it. The simp lemmas here run an action step by step.
-/

namespace CatalogFeeds

namespace RunM

variable {α β : Type}

/-- What an action gives on a session, and the session after it. -/
def outcome (action : RunM α) (session : Session) : Except EndpointError α × Session :=
  action.run.run session

@[simp] theorem outcome_pure (a : α) (session : Session) :
    outcome (pure a) session = (.ok a, session) :=
  rfl

@[simp] theorem outcome_throw (error : EndpointError) (session : Session) :
    outcome (throw error : RunM α) session = (.error error, session) :=
  rfl

@[simp] theorem outcome_lift (result : EndpointM α) (session : Session) :
    outcome (liftM result : RunM α) session = (result, session) := by
  cases result <;> rfl

@[simp] theorem outcome_get (session : Session) :
    outcome (get : RunM Session) session = (.ok session, session) :=
  rfl

@[simp] theorem outcome_set (after session : Session) :
    outcome (set after : RunM PUnit) session = (.ok ⟨⟩, after) :=
  rfl

@[simp] theorem outcome_modify (change : Session → Session) (session : Session) :
    outcome (modify change : RunM PUnit) session = (.ok ⟨⟩, change session) :=
  rfl

theorem outcome_bind (action : RunM α) (next : α → RunM β) (session : Session) :
    outcome (action >>= next) session =
      match outcome action session with
      | (.ok a, session) => outcome (next a) session
      | (.error error, session) => (.error error, session) := by
  simp only [outcome, bind, ExceptT.bind, ExceptT.run, ExceptT.mk, StateT.bind, StateT.run]
  rcases action session with ⟨_ | _, _⟩ <;> rfl

theorem outcome_bind_pure (action : RunM α) (f : α → β) (session : Session) :
    outcome (action >>= fun a => pure (f a)) session =
      ((outcome action session).1.map f, (outcome action session).2) := by
  rw [outcome_bind]
  rcases outcome action session with ⟨_ | _, _⟩ <;> rfl

end RunM

end CatalogFeeds
