import TaskOrchestrator.ControlPlane.Service

/-!
# The persistence loop under a monitor

The calls of the loop that stores a stream's events. A monitor that none of them moves is
kept by the whole loop, whatever the events are.
-/

namespace TaskOrchestrator.System

open Protocol Library ControlPlane
open Program (Stable obeys_stable)

set_option autoImplicit false

def persistOp (request : Persisting) (record : WorkflowRecord) : Op → Prop
  | .unixTimeMsNow => True
  | .writePlanVersion id _ => id = request.workflowId
  | .putIdempotencyRecord r => r.key = request.idempotencyKey ∧ request.idempotencyKey ≠ ""
  | .writeEvent id _ => id = request.workflowId
  | .upsertWorkflow r => r.summary.workflowId = record.summary.workflowId ∧
    r.config = record.config ∧ record.summary.latestPlanVersion ≤ r.summary.latestPlanVersion
  | .publish _ => True
  | _ => False

section Stable

variable {κ : Type} {M : Monitor calls κ} {k : κ}

theorem publish_stable {id : WorkflowId} (h : Stable M k (.publish id)) :
    (publishWorkflowUpdate id).Obeys M (fun _ k' => k' = k) k := by
  unfold publishWorkflowUpdate
  split
  · exact Program.obeys_pure rfl
  · exact obeys_stable h fun _ _ => Program.obeys_pure rfl

theorem persistResponse_stable {p : Persisting} {start : WorkflowRecord}
    (h : ∀ op, persistOp p start op → Stable M k op) (recordedAt : Int) (record : WorkflowRecord)
    (response : Option RuntimeApiResponse) :
    (persistResponse p recordedAt record response).Obeys M (fun _ k' => k' = k) k := by
  cases response with
  | none => exact Program.obeys_pure rfl
  | some response =>
    have hplan : (persistPlanVersion p recordedAt record response).Obeys M
        (fun _ k' => k' = k) k := by
      unfold persistPlanVersion
      split
      · exact obeys_stable (h _ rfl) fun _ _ => Program.obeys_pure rfl
      · exact Program.obeys_pure rfl
    refine hplan.bind ?_
    rintro _ _ rfl
    unfold persistIdempotency
    split_ifs with hkey
    · exact Program.obeys_pure rfl
    · exact obeys_stable (h _ ⟨rfl, hkey⟩) fun _ _ => Program.obeys_pure rfl

theorem persistOp_recordEvent (p : Persisting) (recordedAt : Int) (record : WorkflowRecord)
    (event : WorkflowEvent) :
    persistOp p record (.upsertWorkflow (recordEvent recordedAt record event)) := by
  refine ⟨by simp, by simp, ?_⟩
  rw [recordEvent_latestPlanVersion]
  split_ifs <;> omega

/-- A monitor that no call of the persistence loop moves is kept by the whole loop, which yields
the events it was given. -/
theorem persistEvents_yields {p : Persisting} {record : WorkflowRecord}
    (h : ∀ op, persistOp p record op → Stable M k op) (events : List WorkflowEvent) :
    (persistEvents p record events).Obeys M (fun yielded k' => yielded = events ∧ k' = k) k := by
  induction events generalizing record with
  | nil => exact Program.obeys_pure ⟨rfl, rfl⟩
  | cons event rest ih =>
    have hevent : (persistEvent p record event).Obeys M
        (fun record' k' => persistOp p record (.upsertWorkflow record') ∧ k' = k) k := by
      refine obeys_stable (h _ trivial) fun recordedAt _ => ?_
      refine (persistResponse_stable h recordedAt _ event.response).bind ?_
      rintro _ _ rfl
      refine obeys_stable (h _ rfl) fun _ _ => ?_
      refine obeys_stable (h _ (persistOp_recordEvent p recordedAt record event)) fun _ _ => ?_
      refine (publish_stable (h _ trivial)).bind ?_
      rintro _ _ rfl
      exact Program.obeys_pure ⟨persistOp_recordEvent p recordedAt record event, rfl⟩
    refine hevent.bind ?_
    rintro record' _ ⟨⟨hid, hconfig, hversion⟩, rfl⟩
    have hrest : ∀ op, persistOp p record' op → persistOp p record op := by
      intro op hop
      cases op with
      | upsertWorkflow r => exact ⟨hop.1.trans hid, hop.2.1.trans hconfig, hversion.trans hop.2.2⟩
      | _ => exact hop
    refine (ih fun op hop => h op (hrest op hop)).bind ?_
    rintro _ _ ⟨rfl, rfl⟩
    exact Program.obeys_pure ⟨rfl, rfl⟩

theorem persistEvents_stable {p : Persisting} {record : WorkflowRecord}
    (h : ∀ op, persistOp p record op → Stable M k op) (events : List WorkflowEvent) :
    (persistEvents p record events).Obeys M (fun _ k' => k' = k) k :=
  (persistEvents_yields h events).mono fun _ _ hyields => hyields.2

end Stable

end TaskOrchestrator.System
