import TaskOrchestrator.Protocol.Messages

/-!
# The in-memory update feed

`InMemoryWorkflowUpdateFeed`: published workflow ids with increasing event ids, of which
the last `retainedEvents` are kept.
-/

namespace TaskOrchestrator.ControlPlane

set_option autoImplicit false

structure WorkflowUpdateEvent where
  eventId : Nat
  workflowId : WorkflowId
  deriving DecidableEq

structure UpdateFeed where
  retainedEvents : Nat
  events : List WorkflowUpdateEvent := []
  latestEventId : Nat := 0
  deriving DecidableEq

namespace UpdateFeed

def publish (feed : UpdateFeed) (workflowId : WorkflowId) : UpdateFeed :=
  let events := feed.events ++ [{ eventId := feed.latestEventId + 1, workflowId := workflowId }]
  { feed with
    latestEventId := feed.latestEventId + 1
    events := events.drop (events.length - feed.retainedEvents) }

end UpdateFeed

end TaskOrchestrator.ControlPlane
