import Mathlib.Data.List.DropRight
import TaskOrchestrator.System.SessionRuns

/-!
# Pins of tasks

A pin overwrites the allow-list of its task in the session, and nothing keeps the submitted one. So
a pin outlives the planning pass that it was made for.
-/

namespace TaskOrchestrator.System

open Protocol Library ControlPlane

set_option autoImplicit false

def withoutPin (override : TaskStateOverride) : TaskStateOverride :=
  { override with pinnedActorId := none }

def withoutPins (request : ReorchestrateRequest) : ReorchestrateRequest :=
  { request with taskOverrides := request.taskOverrides.map withoutPin }

def followedByPlan (requests : List ReorchestrateRequest) : List ReorchestrateRequest :=
  requests.rdropWhile fun request => ¬ Plans request

/-- The requests since the last planning pass. -/
def notFollowedByPlan (requests : List ReorchestrateRequest) : List ReorchestrateRequest :=
  requests.rtakeWhile fun request => ¬ Plans request

/-- The requests without the pins that a planning pass has followed. -/
def expirePins (requests : List ReorchestrateRequest) : List ReorchestrateRequest :=
  (followedByPlan requests).map withoutPins ++ notFollowedByPlan requests

theorem followedByPlan_append (requests : List ReorchestrateRequest) :
    followedByPlan requests ++ notFollowedByPlan requests = requests :=
  List.rdropWhile_append_rtakeWhile

theorem takenOf_expirePins (env : Environment) (id : WorkflowId)
    (requests : List ReorchestrateRequest) :
    takenOf env id (expirePins (takenOf env id requests)) = expirePins
    (takenOf env id requests) := by
  have htakes : ∀ request ∈ takenOf env id requests, Takes env id request := by
    intro request hrequest
    simpa using (List.mem_filter.mp hrequest).2
  refine List.filter_eq_self.mpr fun request hrequest => decide_eq_true ?_
  have hparts := followedByPlan_append (takenOf env id requests)
  rcases List.mem_append.mp hrequest with hrequest | hrequest
  · obtain ⟨original, horiginal, rfl⟩ := List.mem_map.mp hrequest
    exact htakes original (hparts ▸ List.mem_append_left _ horiginal)
  · exact htakes request (hparts ▸ List.mem_append_right _ hrequest)

theorem flatMap_withoutPins (requests : List ReorchestrateRequest) :
    (requests.map withoutPins).flatMap (·.taskOverrides) =
      (requests.flatMap (·.taskOverrides)).map withoutPin := by
  rw [List.flatMap_map, List.map_flatMap]
  rfl

def clearAllowed (task : App.TaskConfig) : App.TaskConfig := { task with allowedActorIds := [] }

theorem map_clearAllowed_overrideTasks (override : TaskStateOverride)
    (tasks : List App.TaskConfig) :
    (App.overrideTasks override tasks).map clearAllowed =
      App.overrideTasks (withoutPin override) (tasks.map clearAllowed) := by
  have hcompleted : (withoutPin override).completed = override.completed := rfl
  unfold App.overrideTasks
  rw [hcompleted]
  split_ifs
  · unfold App.completeTask
    rw [List.any_map, List.eraseP_map, apply_ite (List.map clearAllowed), List.map_map,
      List.map_map]
    rfl
  · apply App.map_updateFirst
    · intro task
      rfl
    · intro task
      rfl

theorem map_clearAllowed_tasksAfter (overrides : List TaskStateOverride)
    (tasks : List App.TaskConfig) :
    (tasksAfter overrides tasks).map clearAllowed =
      tasksAfter (overrides.map withoutPin) (tasks.map clearAllowed) := by
  induction overrides generalizing tasks with
  | nil => rfl
  | cons override rest ih =>
    change (tasksAfter rest (App.overrideTasks override tasks)).map clearAllowed = _
    rw [ih, map_clearAllowed_overrideTasks]
    rfl

def allowedOf (taskId : TaskId) (tasks : List App.TaskConfig) : List (List ActorId) :=
  (tasks.filter fun task => task.id = taskId).map (·.allowedActorIds)

/-- Tasks are the same when they are but for the allow-lists and the allow-lists of every id are. -/
theorem eq_of_allowedOf {tasks others : List App.TaskConfig}
    (hclear : tasks.map clearAllowed = others.map clearAllowed)
    (hallowed : ∀ taskId, allowedOf taskId tasks = allowedOf taskId others) : tasks = others := by
  induction tasks generalizing others with
  | nil => exact (List.map_eq_nil_iff.mp hclear.symm).symm
  | cons task rest ih =>
    cases others with
    | nil => exact absurd hclear (by simp)
    | cons other others =>
      obtain ⟨hhead, hrest⟩ := List.cons.inj hclear
      have hid : other.id = task.id := (congrArg App.TaskConfig.id hhead).symm
      have hlists := hallowed task.id
      simp only [allowedOf, List.filter_cons, hid, decide_true, if_true, List.map_cons,
        List.cons.injEq] at hlists
      have hsame : task = other := by
        cases task
        cases other
        simp_all [clearAllowed]
      refine List.cons_eq_cons.mpr ⟨hsame, ih hrest fun taskId => ?_⟩
      by_cases htask : task.id = taskId
      · exact htask ▸ hlists.2
      · have hothers := hallowed taskId
        simpa [allowedOf, List.filter_cons, htask, hid] using hothers

def overrideAllowed (override : TaskStateOverride) (lists : List (List ActorId)) :
    List (List ActorId) :=
  if override.completed = some true then lists.tail
  else lists.modifyHead fun allowed =>
    (override.pinnedActorId.map fun actorId => [actorId]).getD allowed

def allowedAfter (overrides : List TaskStateOverride) (lists : List (List ActorId)) :
    List (List ActorId) :=
  overrides.foldl (fun lists override => overrideAllowed override lists) lists

section Allowed

variable {taskId : TaskId} {override : TaskStateOverride} {overrides : List TaskStateOverride}
  {tasks : List App.TaskConfig} {lists : List (List ActorId)}

theorem other_of_ne {id : TaskId} (hne : id ≠ taskId) (task : App.TaskConfig)
    (h : decide (task.id = id) = true) :
    decide (task.id = taskId) = false := by
  rw [decide_eq_true_eq] at h
  simpa [h] using hne

theorem allowedOf_eraseP (completedId : TaskId) (tasks : List App.TaskConfig) :
    allowedOf taskId (tasks.eraseP fun task => task.id = completedId) =
      if completedId = taskId then (allowedOf taskId tasks).tail else allowedOf taskId tasks := by
  unfold allowedOf
  split_ifs with hsame
  · rw [hsame, App.filter_eraseP_self, List.map_tail]
  · rw [App.filter_eraseP_other (other_of_ne hsame)]

theorem allowedOf_completeTask (completedId : TaskId) (tasks : List App.TaskConfig) :
    allowedOf taskId (App.completeTask completedId tasks) =
      if completedId = taskId then (allowedOf taskId tasks).tail else allowedOf taskId tasks := by
  have hdrop : ∀ list : List App.TaskConfig,
      allowedOf taskId (list.map (App.dropDependency completedId)) = allowedOf taskId list := by
    intro list
    rw [allowedOf, List.filter_map, List.map_map]
    rfl
  rw [← allowedOf_eraseP, App.completeTask]
  split_ifs with hany
  · exact hdrop _
  · rw [List.eraseP_of_forall_not fun task htask hid =>
      hany (List.any_eq_true.mpr ⟨task, htask, hid⟩)]

theorem allowedOf_updateFirst (override : TaskStateOverride) (tasks : List App.TaskConfig) :
    allowedOf taskId
    (App.updateFirst (fun task => task.id = override.taskId) (App.overrideTask override) tasks) =
      if override.taskId = taskId then
        (allowedOf taskId tasks).modifyHead fun allowed =>
          (override.pinnedActorId.map fun actorId => [actorId]).getD allowed
      else allowedOf taskId tasks := by
  unfold allowedOf
  split_ifs with hsame
  · subst hsame
    have hkeep : ∀ task : App.TaskConfig,
        decide ((App.overrideTask override task).id = override.taskId) =
        decide (task.id = override.taskId) := fun _ => rfl
    rw [App.filter_updateFirst_self hkeep]
    cases tasks.filter fun task => task.id = override.taskId with
    | nil => rfl
    | cons task rest => rfl
  · have hkeep : ∀ task : App.TaskConfig, decide (task.id = override.taskId) = true →
        decide ((App.overrideTask override task).id = taskId) = false := other_of_ne hsame
    rw [App.filter_updateFirst_other (other_of_ne hsame) hkeep]

theorem allowedOf_overrideTasks (override : TaskStateOverride) (tasks : List App.TaskConfig) :
    allowedOf taskId (App.overrideTasks override tasks) =
      if override.taskId = taskId then overrideAllowed override (allowedOf taskId tasks)
      else allowedOf taskId tasks := by
  unfold App.overrideTasks overrideAllowed
  split_ifs with hcompleted hsame hsame
  · rw [allowedOf_completeTask, if_pos hsame]
  · rw [allowedOf_completeTask, if_neg hsame]
  · rw [allowedOf_updateFirst, if_pos hsame]
  · rw [allowedOf_updateFirst, if_neg hsame]

theorem allowedOf_tasksAfter (overrides : List TaskStateOverride) (tasks : List App.TaskConfig) :
    allowedOf taskId (tasksAfter overrides tasks) =
      allowedAfter (overridesOfTask taskId overrides) (allowedOf taskId tasks) := by
  induction overrides generalizing tasks with
  | nil => rfl
  | cons override rest ih =>
    change allowedOf taskId (tasksAfter rest (App.overrideTasks override tasks)) = _
    rw [ih, allowedOf_overrideTasks, overridesOfTask, overridesOfTask]
    split_ifs with hid
    · rw [List.filter_cons_of_pos (by simpa using hid)]
      rfl
    · rw [List.filter_cons_of_neg (by simpa using hid)]

end Allowed

def pinAfter (pin : Option ActorId) (override : TaskStateOverride) : Option ActorId :=
  if override.completed = some true then none else override.pinnedActorId.or pin

/-- The actor that overrides of one task leave it pinned to. -/
def pinInForce (overrides : List TaskStateOverride) : Option ActorId :=
  overrides.foldl pinAfter none

/-- The override decides on its task's allow-list, whatever that was. -/
def Settles (override : TaskStateOverride) : Prop :=
  override.completed = some true ∨ override.pinnedActorId.isSome = true

instance : DecidablePred Settles := fun _ => inferInstanceAs (Decidable (_ ∨ _))

/-- What expired overrides of a task pinned is pinned again, or gone, or what was submitted. -/
def PinGone (expired later : List TaskStateOverride) (lists : List (List ActorId)) : Prop :=
  ∀ actorId ∈ pinInForce expired,
    (∃ override ∈ later, Settles override) ∨
      ∀ allowed ∈ lists[completions expired]?, allowed = [actorId]

section Lists

variable {override : TaskStateOverride} {overrides expired later : List TaskStateOverride}
  {lists : List (List ActorId)}

def pinnedOr (pin : Option ActorId) (allowed : List ActorId) : List ActorId :=
  (pin.map fun actorId => [actorId]).getD allowed

theorem pinnedOr_or (pin other : Option ActorId) (allowed : List ActorId) :
    pinnedOr (pin.or other) allowed = pinnedOr pin (pinnedOr other allowed) := by
  cases pin with
  | none => rfl
  | some actorId => rfl

theorem modifyHead_pinnedOr_none (lists : List (List ActorId)) :
    lists.modifyHead (pinnedOr none) = lists := by
  cases lists with
  | nil => rfl
  | cons allowed rest => rfl

theorem overrideAllowed_not_completed (hcompleted : override.completed ≠ some true) :
    overrideAllowed override lists = lists.modifyHead (pinnedOr override.pinnedActorId) :=
  if_neg hcompleted

/-- Overrides of a task delete some lists and pin the first one that stays, or not. -/
theorem allowedAfter_eq (overrides : List TaskStateOverride) (lists : List (List ActorId)) :
    allowedAfter overrides lists =
      (lists.drop (completions overrides)).modifyHead (pinnedOr (pinInForce overrides)) := by
  induction overrides using List.reverseRecOn with
  | nil => exact (modifyHead_pinnedOr_none lists).symm
  | append_singleton front override ih =>
    have hlast : allowedAfter (front ++ [override]) lists =
        overrideAllowed override (allowedAfter front lists) := by
      simp [allowedAfter]
    have hpin : pinInForce (front ++ [override]) = pinAfter (pinInForce front) override := by
      simp [pinInForce]
    rw [hlast, hpin, ih]
    by_cases hcompleted : override.completed = some true
    · have hone : completions (front ++ [override]) = completions front + 1 := by
        simp [completions, hcompleted]
      rw [overrideAllowed, if_pos hcompleted, pinAfter, if_pos hcompleted, hone,
        modifyHead_pinnedOr_none, List.tail_modifyHead, List.tail_drop]
    · have hnone : completions (front ++ [override]) = completions front := by
        simp [completions, hcompleted]
      have hsame : pinnedOr override.pinnedActorId ∘ pinnedOr (pinInForce front) =
          pinnedOr (override.pinnedActorId.or (pinInForce front)) := by
        funext allowed
        exact (pinnedOr_or _ _ _).symm
      rw [overrideAllowed_not_completed hcompleted, pinAfter, if_neg hcompleted, hnone,
        List.modifyHead_modifyHead, hsame]

theorem allowedAfter_withoutPins (overrides : List TaskStateOverride)
    (lists : List (List ActorId)) :
    allowedAfter (overrides.map withoutPin) lists = lists.drop (completions overrides) := by
  have hpin : pinInForce (overrides.map withoutPin) = none := by
    induction overrides using List.reverseRecOn with
    | nil => rfl
    | append_singleton front override ih =>
      rw [List.map_append, pinInForce, List.foldl_append]
      change pinAfter (pinInForce (front.map withoutPin)) (withoutPin override) = none
      rw [ih, pinAfter]
      split_ifs
      · rfl
      · rfl
  have hcompletions : completions (overrides.map withoutPin) = completions overrides := by
    rw [completions, List.countP_map]
    rfl
  rw [allowedAfter_eq, hpin, modifyHead_pinnedOr_none, hcompletions]

theorem allowedAfter_settled (hsettles : ∃ override ∈ overrides, Settles override)
    (change : List ActorId → List ActorId) :
    allowedAfter overrides (lists.modifyHead change) = allowedAfter overrides lists := by
  induction overrides generalizing lists change with
  | nil => exact absurd hsettles (by simp)
  | cons override rest ih =>
    change allowedAfter rest (overrideAllowed override (lists.modifyHead change)) =
      allowedAfter rest (overrideAllowed override lists)
    by_cases hcompleted : override.completed = some true
    · rw [overrideAllowed, if_pos hcompleted, overrideAllowed, if_pos hcompleted,
        List.tail_modifyHead]
    · rw [overrideAllowed_not_completed hcompleted, overrideAllowed_not_completed hcompleted,
        List.modifyHead_modifyHead]
      cases hpin : override.pinnedActorId with
      | some actorId => rfl
      | none =>
        have hrest : ∃ other ∈ rest, Settles other := by
          obtain ⟨other, hother, hsettled⟩ := hsettles
          rcases List.mem_cons.mp hother with rfl | hother
          · exact absurd hsettled (by simp [Settles, hcompleted, hpin])
          · exact ⟨other, hother, hsettled⟩
        rw [modifyHead_pinnedOr_none]
        exact ih hrest _

theorem allowedAfter_unsettled (hsettles : ¬ ∃ override ∈ overrides, Settles override) :
    allowedAfter overrides lists = lists := by
  induction overrides with
  | nil => rfl
  | cons override rest ih =>
    have hfirst : ¬ Settles override := fun h => hsettles ⟨override, List.mem_cons_self, h⟩
    obtain ⟨hcompleted, hpin⟩ := not_or.mp hfirst
    have hsame : overrideAllowed override lists = lists := by
      rw [overrideAllowed_not_completed hcompleted, Option.not_isSome_iff_eq_none.mp hpin,
        modifyHead_pinnedOr_none]
    change allowedAfter rest (overrideAllowed override lists) = lists
    rw [hsame]
    exact ih fun ⟨other, hother, h⟩ => hsettles ⟨other, List.mem_cons_of_mem _ hother, h⟩

theorem modifyHead_pinnedOr_iff (pin : Option ActorId) (lists : List (List ActorId)) :
    lists.modifyHead (pinnedOr pin) = lists ↔
      ∀ actorId ∈ pin, ∀ allowed ∈ lists.head?, allowed = [actorId] := by
  cases lists with
  | nil => simp
  | cons allowed rest =>
    cases pin with
    | none => simp [pinnedOr]
    | some actorId => simp [pinnedOr, eq_comm]

/-- Dropping the expired pins of a task leaves its allow-lists just when they are gone anyway. -/
theorem allowedAfter_expired_iff :
    allowedAfter (expired ++ later) lists = allowedAfter (expired.map withoutPin ++ later) lists ↔
      PinGone expired later lists := by
  have happend : ∀ front : List TaskStateOverride,
      allowedAfter (front ++ later) lists = allowedAfter later (allowedAfter front lists) :=
      fun front => by
    simp [allowedAfter]
  rw [happend, happend, allowedAfter_withoutPins, allowedAfter_eq expired]
  by_cases hsettles : ∃ override ∈ later, Settles override
  · rw [allowedAfter_settled hsettles]
    exact iff_of_true rfl fun actorId _ => Or.inl hsettles
  · rw [allowedAfter_unsettled hsettles, allowedAfter_unsettled hsettles, modifyHead_pinnedOr_iff,
      List.head?_drop]
    unfold PinGone
    simp only [hsettles, false_or]

end Lists

/-- The overrides of a task that a planning pass has followed. -/
def expiredOverrides (taskId : TaskId) (requests : List ReorchestrateRequest) :
    List TaskStateOverride :=
  overridesOfTask taskId ((followedByPlan requests).flatMap (·.taskOverrides))

/-- The overrides of a task that the next planning pass is the first to follow. -/
def laterOverrides (taskId : TaskId) (requests : List ReorchestrateRequest)
    (request : ReorchestrateRequest) :
    List TaskStateOverride :=
  overridesOfTask taskId ((notFollowedByPlan requests ++ [request]).flatMap (·.taskOverrides))

/-- No pin that has expired counts for the plan of the request. -/
def PinsGone (tasks : List App.TaskConfig) (requests : List ReorchestrateRequest)
    (request : ReorchestrateRequest) :
    Prop :=
  ∀ taskId, PinGone (expiredOverrides taskId requests) (laterOverrides taskId requests request)
    (allowedOf taskId tasks)

section Sessions

variable {session : App.WorkflowConfig} {requests : List ReorchestrateRequest}
variable {request : ReorchestrateRequest}

theorem overridesOfTask_parts (taskId : TaskId) (requests : List ReorchestrateRequest)
    (request : ReorchestrateRequest) :
    overridesOfTask taskId ((requests ++ [request]).flatMap (·.taskOverrides)) =
        expiredOverrides taskId requests ++ laterOverrides taskId requests request ∧
      overridesOfTask taskId ((expirePins requests ++ [request]).flatMap (·.taskOverrides)) =
        (expiredOverrides taskId requests).map withoutPin ++
          laterOverrides taskId requests request := by
  unfold expiredOverrides laterOverrides overridesOfTask
  constructor
  · rw [← List.filter_append, ← List.flatMap_append, ← List.append_assoc, followedByPlan_append]
  · rw [expirePins, List.append_assoc, List.flatMap_append, flatMap_withoutPins, List.filter_append,
      List.filter_map]
    rfl

theorem allowedOf_expirePins_iff :
    (∀ taskId, allowedOf taskId (withOverrides (requests ++ [request]) session).tasks =
        allowedOf taskId (withOverrides (expirePins requests ++ [request]) session).tasks) ↔
      PinsGone session.tasks requests request := by
  apply forall_congr'
  intro taskId
  obtain ⟨hactual, hexpired⟩ := overridesOfTask_parts taskId requests request
  rw [withOverrides_eq, withOverrides_eq, allowedOf_tasksAfter, allowedOf_tasksAfter,
    hactual, hexpired]
  exact allowedAfter_expired_iff

theorem map_clearAllowed_expirePins (session : App.WorkflowConfig)
    (requests : List ReorchestrateRequest) (request : ReorchestrateRequest) :
    (withOverrides (requests ++ [request]) session).tasks.map clearAllowed =
      (withOverrides (expirePins requests ++ [request]) session).tasks.map clearAllowed := by
  have htwice : ∀ overrides : List TaskStateOverride, (overrides.map withoutPin).map withoutPin =
      overrides.map withoutPin := fun overrides => List.map_map
  rw [withOverrides_eq, withOverrides_eq, map_clearAllowed_tasksAfter, map_clearAllowed_tasksAfter]
  congr 1
  nth_rewrite 1 [← followedByPlan_append requests]
  simp only [expirePins, List.flatMap_append, List.map_append, flatMap_withoutPins, htwice]

theorem withOverrides_expirePins (hgone : PinsGone session.tasks requests request) :
    withOverrides (requests ++ [request]) session =
      withOverrides (expirePins requests ++ [request]) session := by
  have htasks := eq_of_allowedOf (map_clearAllowed_expirePins session requests request)
    (allowedOf_expirePins_iff.mpr hgone)
  have hactors : (requests ++ [request]).flatMap (·.actorOverrides) =
      (expirePins requests ++ [request]).flatMap (·.actorOverrides) := by
    nth_rewrite 1 [← followedByPlan_append requests]
    rw [expirePins, List.flatMap_append, List.flatMap_append, List.flatMap_append,
      List.flatMap_append, List.flatMap_map]
    rfl
  rw [withOverrides_eq, withOverrides_eq] at htasks
  rw [withOverrides_eq, withOverrides_eq, hactors]
  simp only at htasks
  rw [htasks]

theorem allowedOf_of_model {other : App.WorkflowConfig}
    (h : App.toModel session = App.toModel other) (taskId : TaskId) :
    allowedOf taskId session.tasks = allowedOf taskId other.tasks := by
  have hread : ∀ config : App.WorkflowConfig, allowedOf taskId config.tasks =
      ((App.toModel config).tasks.filter fun task => task.id = taskId).map (·.allowedActorIds) := by
    intro config
    rw [App.toModel, List.filter_map, List.map_map]
    rfl
  rw [hread, hread, h]

end Sessions

open Classical in
noncomputable def assigningOnly (target : Optimizer.OptimizationModel) :
    Optimizer.Backend := fun model _ _ =>
  { assignments := if model = target then model.tasks.map fun task =>
    { taskId := task.id, actorId := "" } else [] }

theorem assigningOnly_assignsTask (target : Optimizer.OptimizationModel) :
    Optimizer.AllPlans Optimizer.AssignsTask
    (Optimizer.registeredAlone (assigningOnly target)) := by
  apply Optimizer.allPlans_registeredAlone
  intro model options a ha
  unfold assigningOnly at ha
  split_ifs at ha
  · obtain ⟨task, htask, rfl⟩ := List.mem_map.mp ha
    exact ⟨task, htask, rfl⟩
  · exact absurd ha List.not_mem_nil

section Plans

variable {env : Environment} {session other : App.WorkflowConfig}

theorem toModel_eq_of_plans
    (h : ∀ entries, Optimizer.AllPlans Optimizer.AssignsTask entries →
      sessionPlan (withBackends env entries) session = sessionPlan (withBackends env entries) other)
    (htasks : session.tasks ≠ []) : App.toModel session = App.toModel other := by
  by_contra hdiffer
  obtain ⟨task, htask⟩ := List.exists_mem_of_ne_nil _ htasks
  have hsame := h _ (assigningOnly_assignsTask (App.toModel session))
  have hassigned : { taskId := task.id, actorId := "" } ∈
      (assigningOnly (App.toModel session) (App.toModel session)
        (Optimizer.ConstraintIndex.build (App.toModel session))
        (App.toOptions session.optimization)).assignments := by
    simp only [assigningOnly, if_true]
    exact List.mem_map_of_mem (List.mem_map_of_mem htask)
  have hplanned : App.toProtoAssignment session
      (App.toAssignment { taskId := task.id, actorId := "" }) ∈
      sessionPlan
        (withBackends env (Optimizer.registeredAlone (assigningOnly (App.toModel session))))
        session :=
    mem_sessionPlan_registeredAlone.mpr ⟨_, hassigned, rfl⟩
  rw [hsame] at hplanned
  obtain ⟨a, ha, -⟩ := mem_sessionPlan_registeredAlone.mp hplanned
  simp only [assigningOnly, if_neg (Ne.symm hdiffer)] at ha
  exact absurd ha List.not_mem_nil

end Plans

/-- Whatever backends plan, a request gets the plan that it gets without the expired pins exactly
when none of them is left in its session. -/
theorem pins_expire_iff (env : Environment) (submission : SubmitWorkflowRequest)
    (sessions : App.Sessions) (haccepted : runtimeAccepts env submission sessions = true)
    (before : List ReorchestrateRequest) (request : ReorchestrateRequest)
    (htakes : Takes env submission.config.id request) (hplans : Plans request) :
    (∀ entries, Optimizer.AllPlans Optimizer.AssignsTask entries →
      planAfter (withBackends env entries) submission before request sessions =
        planAfter (withBackends env entries) submission
          (expirePins (takenOf env submission.config.id before))
          request sessions) ↔
    PinsGone (App.toAppWorkflow submission.config).tasks (takenOf env submission.config.id before)
      request := by
  have hactual : ∀ entries, planAfter (withBackends env entries) submission before request
      sessions =
      sessionPlan (withBackends env entries) (sessionAfter env submission before request) :=
        fun entries =>
    (planAfter_eq (withBackends env entries) submission haccepted before htakes).trans
      (if_pos hplans)
  have hexpired : ∀ entries, planAfter (withBackends env entries) submission
        (expirePins (takenOf env submission.config.id before)) request sessions =
      sessionPlan (withBackends env entries)
        (sessionAfter env submission (expirePins (takenOf env submission.config.id before))
          request) := fun entries =>
    (planAfter_eq (withBackends env entries) submission haccepted _ htakes).trans (if_pos hplans)
  simp only [hactual, hexpired]
  unfold sessionAfter
  rw [takenOf_expirePins]
  constructor
  · intro hsame
    rw [← allowedOf_expirePins_iff]
    intro taskId
    have hclear := map_clearAllowed_expirePins (App.toAppWorkflow submission.config)
      (takenOf env submission.config.id before) request
    by_cases htasks : (withOverrides (takenOf env submission.config.id before ++ [request])
        (App.toAppWorkflow submission.config)).tasks = []
    · rw [htasks, List.map_nil] at hclear
      rw [htasks, List.map_eq_nil_iff.mp hclear.symm]
    · exact allowedOf_of_model (toModel_eq_of_plans hsame htasks) taskId
  · intro hgone entries _
    rw [withOverrides_expirePins hgone]

def pinSubmission : SubmitWorkflowRequest where
  config :=
    { id := "w"
      actors :=
        [{ id := "x", windows := [{ start := 0, stop := 10 }] },
          { id := "y", windows := [{ start := 0, stop := 10 }] }]
      tasks := [{ id := "a", duration := 5 }] }

def pin (actorId : ActorId) : ReorchestrateRequest where
  workflowId := "w"
  taskOverrides := [{ taskId := "a", pinnedActorId := some actorId }]

/-- A pin that replaces the expired one. -/
theorem pin_replaced :
    planAfter (withBackends openEnvironment [Optimizer.indexedExactEntry]) pinSubmission [pin "y"]
      (pin "x") .empty =
      planAfter (withBackends openEnvironment [Optimizer.indexedExactEntry]) pinSubmission
        (expirePins (takenOf openEnvironment pinSubmission.config.id [pin "y"]))
        (pin "x") .empty := by
  have hassigns := Optimizer.indexedExact_placesInWindow.mono fun _ _ h => h.assignsTask
  refine (pins_expire_iff openEnvironment pinSubmission .empty (by decide) [pin "y"] (pin "x")
    (by decide) (by decide)).mpr ?_ [Optimizer.indexedExactEntry] hassigns
  intro taskId actorId hpin
  by_cases htask : taskId = "a"
  · subst htask
    exact Or.inl (by decide)
  · have hnone : expiredOverrides taskId
        (takenOf openEnvironment pinSubmission.config.id [pin "y"]) = [] := by
      have hoverrides :
          (followedByPlan (takenOf openEnvironment pinSubmission.config.id [pin "y"])).flatMap
          (·.taskOverrides) = [{ taskId := "a", pinnedActorId := some "y" }] := by decide
      rw [expiredOverrides, hoverrides, overridesOfTask,
        List.filter_cons_of_neg (by simpa using Ne.symm htask)]
      rfl
    rw [hnone] at hpin
    exact absurd hpin (by simp [pinInForce])

/-- The second planning pass still plans the task for the actor that it was pinned to for the first
one. -/
theorem pin_still_in_force :
    planAfter (withBackends openEnvironment [Optimizer.indexedExactEntry]) pinSubmission []
      (pin "y") .empty =
        [{ taskId := "a", actorId := "y", startTime := 0, endTime := 5 }] ∧
      planAfter (withBackends openEnvironment [Optimizer.indexedExactEntry]) pinSubmission [pin "y"]
          { workflowId := "w" } .empty =
            [{ taskId := "a", actorId := "y", startTime := 0, endTime := 5 }] ∧
      planAfter (withBackends openEnvironment [Optimizer.indexedExactEntry]) pinSubmission
          (expirePins (takenOf openEnvironment pinSubmission.config.id [pin "y"]))
          { workflowId := "w" } .empty =
        [{ taskId := "a", actorId := "x", startTime := 0, endTime := 5 }] :=
  ⟨by decide +kernel, by decide +kernel, by decide +kernel⟩

end TaskOrchestrator.System
