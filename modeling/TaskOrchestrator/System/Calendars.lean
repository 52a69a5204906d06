import TaskOrchestrator.System.SessionRuns

/-!
# Calendars of actors

Taking an actor offline clears its windows and nothing keeps them. Taking it back online gives it
one long window, so a submitted calendar is lost unless it is that window.
-/

namespace TaskOrchestrator.System

open Protocol Library ControlPlane

set_option autoImplicit false

/-- The calendar of an actor that is brought back online. -/
def overrideCalendar : List App.AvailabilityWindowConfig :=
  [{ start := App.kRuntimeOverrideAvailabilityStart, stop := App.kRuntimeOverrideAvailabilityEnd }]

def windowsAfter (overrides : List ActorStateOverride)
    (windows : List App.AvailabilityWindowConfig) :
    List App.AvailabilityWindowConfig :=
  overrides.foldl (fun windows override => App.overrideWindows override.unavailable windows) windows

def overridesOf (actorId : ActorId) (overrides : List ActorStateOverride) :
    List ActorStateOverride :=
  overrides.filter fun override => override.actorId = actorId

/-- No override takes the actor back online after another one took it offline. -/
def NeverReturns (actorId : ActorId) (overrides : List ActorStateOverride) : Prop :=
  (overridesOf actorId overrides).Pairwise fun earlier later =>
    earlier.unavailable = some true → later.unavailable ≠ some false

instance (actorId : ActorId) : DecidablePred (NeverReturns actorId) := fun _ =>
  inferInstanceAs (Decidable (List.Pairwise _ _))

section Windows

variable {overrides front : List ActorStateOverride} {windows : List App.AvailabilityWindowConfig}

theorem windowsAfter_cons (override : ActorStateOverride) (rest : List ActorStateOverride) :
    windowsAfter (override :: rest) windows =
      windowsAfter rest (App.overrideWindows override.unavailable windows) := rfl

theorem windowsAfter_concat (override : ActorStateOverride) :
    windowsAfter (front ++ [override]) windows =
      App.overrideWindows override.unavailable (windowsAfter front windows) := by
  simp [windowsAfter]

theorem windowsAfter_kept (hwindows : windows ≠ [])
    (h : ∀ override ∈ overrides, override.unavailable ≠ some true) :
    windowsAfter overrides windows = windows := by
  induction overrides with
  | nil => rfl
  | cons override rest ih =>
    have hsame : App.overrideWindows override.unavailable windows = windows := by
      cases hvalue : override.unavailable with
      | none => rfl
      | some offline =>
        cases offline with
        | false => exact if_neg hwindows
        | true => exact absurd hvalue (h override List.mem_cons_self)
    rw [windowsAfter_cons, hsame, ih fun other hother => h other (List.mem_cons_of_mem _ hother)]

theorem windowsAfter_offline (h : ∀ override ∈ overrides, override.unavailable ≠ some false) :
    windowsAfter overrides [] = [] := by
  induction overrides with
  | nil => rfl
  | cons override rest ih =>
    have hsame : App.overrideWindows override.unavailable [] = [] := by
      cases hvalue : override.unavailable with
      | none => rfl
      | some offline =>
        cases offline with
        | false => exact absurd hvalue (h override List.mem_cons_self)
        | true => rfl
    rw [windowsAfter_cons, hsame, ih fun other hother => h other (List.mem_cons_of_mem _ hother)]

/-- An actor that is never brought back has its calendar or none. -/
theorem windowsAfter_neverReturns (hwindows : windows ≠ [])
    (h : overrides.Pairwise fun earlier later => earlier.unavailable = some true →
      later.unavailable ≠ some false) :
    windowsAfter overrides windows = windows ∨ windowsAfter overrides windows = [] := by
  induction overrides with
  | nil => exact Or.inl rfl
  | cons override rest ih =>
    obtain ⟨hfirst, hrest⟩ := List.pairwise_cons.mp h
    rw [windowsAfter_cons]
    cases hvalue : override.unavailable with
    | none => exact ih hrest
    | some offline =>
      cases offline with
      | false =>
        have hsame : App.overrideWindows (some false) windows = windows := if_neg hwindows
        rw [hsame]
        exact ih hrest
      | true => exact Or.inr (windowsAfter_offline fun other hother => hfirst other hother hvalue)

theorem windowsAfter_overrideCalendar (h : windows = overrideCalendar ∨ windows = []) :
    windowsAfter overrides windows = overrideCalendar ∨ windowsAfter overrides windows = [] := by
  induction overrides generalizing windows with
  | nil => exact h
  | cons override rest ih =>
    rw [windowsAfter_cons]
    apply ih
    cases override.unavailable with
    | none => exact h
    | some offline =>
      cases offline with
      | false =>
        rcases h with rfl | rfl
        · exact Or.inl rfl
        · exact Or.inl rfl
      | true => exact Or.inr rfl

theorem windowsAfter_was_offline (h : ∃ override ∈ overrides, override.unavailable = some true) :
    windowsAfter overrides windows = overrideCalendar ∨ windowsAfter overrides windows = [] := by
  obtain ⟨override, hmem, hvalue⟩ := h
  obtain ⟨before, after, rfl⟩ := List.append_of_mem hmem
  have happly : windowsAfter (before ++ override :: after) windows =
      windowsAfter after
      (App.overrideWindows override.unavailable (windowsAfter before windows)) := by
    simp [windowsAfter]
  rw [happly, hvalue]
  exact windowsAfter_overrideCalendar (Or.inr rfl)

theorem overrideWindows_online (h : windows = overrideCalendar ∨ windows = []) :
    App.overrideWindows (some false) windows = overrideCalendar := by
  rcases h with rfl | rfl
  · rfl
  · rfl

/-- An override that brings the actor online leaves its calendar just when it was not offline
before or the calendar is the one long window. -/
theorem windowsAfter_online_iff (hwindows : windows ≠ []) {override : ActorStateOverride}
    (honline : override.unavailable = some false) :
    windowsAfter (front ++ [override]) windows = windows ↔
      (∀ earlier ∈ front, earlier.unavailable ≠ some true) ∨ windows = overrideCalendar := by
  rw [windowsAfter_concat, honline]
  constructor
  · intro hsame
    by_cases hoffline : ∃ earlier ∈ front, earlier.unavailable = some true
    · rw [overrideWindows_online (windowsAfter_was_offline hoffline)] at hsame
      exact Or.inr hsame.symm
    · exact Or.inl fun earlier hearlier hvalue => hoffline ⟨earlier, hearlier, hvalue⟩
  · rintro (hnever | rfl)
    · rw [windowsAfter_kept hwindows hnever]
      exact if_neg hwindows
    · exact overrideWindows_online (windowsAfter_overrideCalendar (Or.inl rfl))

end Windows

section Actors

variable {overrides : List ActorStateOverride} {actors : List App.ActorConfig} {actorId : ActorId}

theorem foldl_overrideActor (overrides : List ActorStateOverride) (actor : App.ActorConfig) :
    (overrides.foldl (fun actor override => App.overrideActor override actor) actor).id = actor.id ∧
      (overrides.foldl (fun actor override => App.overrideActor override actor) actor).windows =
        windowsAfter overrides actor.windows := by
  induction overrides generalizing actor with
  | nil => exact ⟨rfl, rfl⟩
  | cons override rest ih => exact ih (App.overrideActor override actor)

theorem actorsAfter_cons (overrides : List ActorStateOverride) (actor : App.ActorConfig)
    (rest : List App.ActorConfig) :
    actorsAfter overrides (actor :: rest) =
      (overridesOf actor.id overrides).foldl
        (fun actor override => App.overrideActor override actor) actor ::
        actorsAfter (overrides.filter fun override => override.actorId ≠ actor.id) rest := by
  induction overrides generalizing actor rest with
  | nil => rfl
  | cons override others ih =>
    change actorsAfter others (App.overrideActors override (actor :: rest)) = _
    unfold overridesOf
    by_cases hid : override.actorId = actor.id
    · have hfirst : App.overrideActors override (actor :: rest) =
          App.overrideActor override actor :: rest := by
        simp [App.overrideActors, App.updateFirst, hid]
      rw [hfirst, ih, App.overrideActor_id, List.filter_cons_of_pos (by simpa using hid),
        List.filter_cons_of_neg (by simpa using hid)]
      rfl
    · have hlater : App.overrideActors override (actor :: rest) =
          actor :: App.overrideActors override rest := by
        simp [App.overrideActors, App.updateFirst, Ne.symm hid]
      rw [hlater, ih, List.filter_cons_of_neg (by simpa using hid),
        List.filter_cons_of_pos (by simpa using hid)]
      rfl

theorem overridesOf_others {otherId : ActorId} :
    overridesOf actorId (overrides.filter fun override => override.actorId ≠ otherId) =
      if actorId = otherId then [] else overridesOf actorId overrides := by
  unfold overridesOf
  rw [List.filter_filter]
  split_ifs with hsame
  · rw [List.filter_eq_nil_iff]
    intro override _
    simp [hsame]
  · apply List.filter_congr
    intro override _
    by_cases hid : override.actorId = actorId
    · simp [hid, hsame]
    · simp [hid]

/-- Every actor has its submitted calendar, or it is the first one with its id and has what the
overrides make of it. -/
theorem actorsAfter_windows (overrides : List ActorStateOverride) (actors : List App.ActorConfig) :
    List.Forall₂ (fun submitted current : App.ActorConfig => current.id = submitted.id ∧
      (current.windows = submitted.windows ∨
        (actors.find? fun actor => actor.id = submitted.id) = some submitted ∧
          current.windows = windowsAfter (overridesOf submitted.id overrides) submitted.windows))
      actors (actorsAfter overrides actors) := by
  induction actors generalizing overrides with
  | nil =>
    have hnil : actorsAfter overrides [] = [] := by
      induction overrides with
      | nil => rfl
      | cons override others ih => exact ih
    rw [hnil]
    exact .nil
  | cons actor rest ih =>
    rw [actorsAfter_cons]
    obtain ⟨hid, hwindows⟩ := foldl_overrideActor (overridesOf actor.id overrides) actor
    refine .cons ⟨hid, Or.inr ⟨List.find?_cons_of_pos (by simp), hwindows⟩⟩ ((ih _).imp ?_)
    rintro submitted current ⟨hid, hwindows⟩
    refine ⟨hid, ?_⟩
    rcases hwindows with hwindows | ⟨hfirst, hwindows⟩
    · exact Or.inl hwindows
    · rw [overridesOf_others] at hwindows
      split_ifs at hwindows with hsame
      · exact Or.inl hwindows
      · exact Or.inr ⟨by rwa [List.find?_cons_of_neg (by simpa using Ne.symm hsame)], hwindows⟩

theorem windowsAfter_of_first {actor : App.ActorConfig}
    (hfirst : (actors.find? fun actor => actor.id = actorId) = some actor)
    (hsame : List.Forall₂ (fun submitted current : App.ActorConfig =>
      submitted.id = actorId → current.windows = submitted.windows) actors
        (actorsAfter overrides actors)) :
    windowsAfter (overridesOf actorId overrides) actor.windows = actor.windows := by
  induction actors generalizing overrides with
  | nil => exact absurd hfirst (by simp)
  | cons head rest ih =>
    rw [actorsAfter_cons] at hsame
    obtain ⟨hhead, hrest⟩ := List.forall₂_cons.mp hsame
    by_cases hid : head.id = actorId
    · rw [List.find?_cons_of_pos (by simpa using hid)] at hfirst
      obtain rfl := Option.some.inj hfirst
      have hwindows := hhead hid
      rwa [(foldl_overrideActor _ _).2, hid] at hwindows
    · rw [List.find?_cons_of_neg (by simpa using hid)] at hfirst
      have hwindows := ih hfirst hrest
      rwa [overridesOf_others, if_neg (Ne.symm hid)] at hwindows

end Actors

/-- Whenever an override brings the actor online, its windows are the submitted ones. -/
def CalendarRestored (actorId : ActorId) (overrides : List ActorStateOverride)
    (actors : List App.ActorConfig) :
    Prop :=
  ∀ front override rest, overrides = front ++ override :: rest → override.actorId = actorId →
    override.unavailable = some false →
    List.Forall₂ (fun submitted current : App.ActorConfig => submitted.id = actorId →
      current.windows = submitted.windows) actors (actorsAfter (front ++ [override]) actors)

/-- A task that takes time is planned in a window that was submitted for its actor. -/
def PlannedInCalendar (config : App.WorkflowConfig) (assignment : Assignment) : Prop :=
  ∃ task ∈ config.tasks, task.id = assignment.taskId ∧
    (0 < task.duration → ∃ actor ∈ config.actors, actor.id = assignment.actorId ∧
      ∃ window ∈ actor.windows, window.start ≤ assignment.startTime ∧
        assignment.startTime + task.duration ≤ window.stop)

/-- The actor is never brought back, or its calendar is the one it is brought back with. -/
def CalendarSafe (actorId : ActorId) (overrides : List ActorStateOverride)
    (actors : List App.ActorConfig) : Prop :=
  NeverReturns actorId overrides ∨
    ∀ actor, (actors.find? fun actor => actor.id = actorId) = some actor →
    actor.windows = overrideCalendar

section Calendar

variable {actorId : ActorId} {overrides : List ActorStateOverride} {actors : List App.ActorConfig}

theorem overridesOf_concat (front : List ActorStateOverride) {override : ActorStateOverride}
    (hid : override.actorId = actorId) :
    overridesOf actorId (front ++ [override]) = overridesOf actorId front ++ [override] := by
  simp [overridesOf, List.filter_append, hid]

theorem neverReturns_iff :
    NeverReturns actorId overrides ↔
      ∀ front override rest, overrides = front ++ override :: rest → override.actorId = actorId →
        override.unavailable = some false →
          ∀ earlier ∈ overridesOf actorId front, earlier.unavailable ≠ some true := by
  constructor
  · rintro hnever front override rest rfl hid honline earlier hearlier hoffline
    have hsplit : overridesOf actorId (front ++ override :: rest) =
        overridesOf actorId front ++ override :: overridesOf actorId rest := by
      simp [overridesOf, List.filter_append, hid]
    rw [NeverReturns, hsplit] at hnever
    exact (List.pairwise_append.mp hnever).2.2 earlier hearlier override List.mem_cons_self
      hoffline honline
  · intro h
    induction overrides using List.reverseRecOn with
    | nil => exact List.Pairwise.nil
    | append_singleton front override ih =>
      have hfront : NeverReturns actorId front := ih fun before other after hsplit =>
        h before other (after ++ [override]) (by rw [hsplit, List.append_assoc, List.cons_append])
      by_cases hid : override.actorId = actorId
      · rw [NeverReturns, overridesOf_concat front hid]
        refine List.pairwise_append.mpr ⟨hfront, List.pairwise_singleton _ _, ?_⟩
        intro earlier hearlier later hlater hoffline honline
        obtain rfl := List.mem_singleton.mp hlater
        exact h front later [] rfl hid honline earlier hearlier hoffline
      · have hsame : overridesOf actorId (front ++ [override]) = overridesOf actorId front := by
          simp [overridesOf, List.filter_append, hid]
        rwa [NeverReturns, hsame]

theorem calendarRestored_iff
    (hwindows : ∀ actor, (actors.find? fun actor => actor.id = actorId) = some actor →
      actor.windows ≠ []) :
    CalendarRestored actorId overrides actors ↔ CalendarSafe actorId overrides actors := by
  constructor
  · intro hrestored
    by_cases hcalendar : ∀ actor, (actors.find? fun actor => actor.id = actorId) = some actor →
        actor.windows = overrideCalendar
    · exact Or.inr hcalendar
    · push Not at hcalendar
      obtain ⟨actor, hfirst, hother⟩ := hcalendar
      refine Or.inl (neverReturns_iff.mpr fun front override rest hsplit hid honline => ?_)
      have hsame := windowsAfter_of_first hfirst (hrestored front override rest hsplit hid honline)
      rw [overridesOf_concat front hid, windowsAfter_online_iff (hwindows _ hfirst) honline]
        at hsame
      exact hsame.resolve_right hother
  · rintro hsafe front override rest hsplit hid honline
    refine (actorsAfter_windows (front ++ [override]) actors).imp ?_
    rintro submitted current ⟨-, hcurrent⟩ hsubmitted
    rcases hcurrent with hcurrent | ⟨hfirst, hcurrent⟩
    · exact hcurrent
    · rw [hsubmitted] at hfirst hcurrent
      rw [hcurrent, overridesOf_concat front hid,
        windowsAfter_online_iff (hwindows _ hfirst) honline]
      rcases hsafe with hnever | hcalendar
      · exact Or.inl (neverReturns_iff.mp hnever front override rest hsplit hid honline)
      · exact Or.inr (hcalendar submitted hfirst)

theorem exists_of_forall₂ {R : App.ActorConfig → App.ActorConfig → Prop}
    {others : List App.ActorConfig} (h : List.Forall₂ R actors others) {other : App.ActorConfig}
    (hother : other ∈ others) :
    ∃ actor ∈ actors, R actor other := by
  induction h with
  | nil => exact absurd hother List.not_mem_nil
  | cons hhead _ ih =>
    rcases List.mem_cons.mp hother with rfl | hrest
    · exact ⟨_, List.mem_cons_self, hhead⟩
    · obtain ⟨actor, hactor, hrelated⟩ := ih hrest
      exact ⟨actor, List.mem_cons_of_mem _ hactor, hrelated⟩

theorem calendar_kept
    (hwindows : ∀ actor, (actors.find? fun actor => actor.id = actorId) = some actor →
      actor.windows ≠ [])
    (hsafe : CalendarSafe actorId overrides actors) :
    List.Forall₂ (fun submitted current : App.ActorConfig => current.id = submitted.id ∧
      (submitted.id = actorId → current.windows = submitted.windows ∨ current.windows = []))
      actors (actorsAfter overrides actors) := by
  refine (actorsAfter_windows overrides actors).imp ?_
  rintro submitted current ⟨hid, hcurrent⟩
  refine ⟨hid, fun hsubmitted => ?_⟩
  rcases hcurrent with hcurrent | ⟨hfirst, hcurrent⟩
  · exact Or.inl hcurrent
  · rw [hsubmitted] at hfirst hcurrent
    rw [hcurrent]
    rcases hsafe with hnever | hcalendar
    · exact windowsAfter_neverReturns (hwindows _ hfirst) hnever
    · rw [hcalendar submitted hfirst]
      exact windowsAfter_overrideCalendar (Or.inl rfl)

theorem withOverrides_tasks (requests : List ReorchestrateRequest) (session : App.WorkflowConfig) :
    ∀ task ∈ (withOverrides requests session).tasks,
      ∃ submitted ∈ session.tasks, submitted.id = task.id ∧ submitted.duration = task.duration := by
  induction requests using List.reverseRecOn with
  | nil => exact fun task htask => ⟨task, htask, rfl, rfl⟩
  | append_singleton rest request ih =>
    rw [withOverrides_append]
    exact App.forall_tasks_applyOverrides (fun _ _ h => h) (fun _ _ h => h) ih

end Calendar

/-- A task is planned within the submitted windows of the actor while these are all that is left in
the session. -/
theorem plannedInCalendar_of_planned {env : Environment} {entries : List Optimizer.BackendEntry}
    (hentries : Optimizer.AllPlans Optimizer.PlacesInWindow entries)
    {requests : List ReorchestrateRequest} {config : App.WorkflowConfig} {actorId : ActorId}
    (hwindows : ∀ actor, (config.actors.find? fun actor => actor.id = actorId) = some actor →
      actor.windows ≠ [])
    (hsafe : CalendarSafe actorId (requests.flatMap (·.actorOverrides)) config.actors)
    {assignment : Assignment}
    (h : assignment ∈ sessionPlan (withBackends env entries) (withOverrides requests config))
    (hactor : assignment.actorId = actorId) : PlannedInCalendar config assignment := by
  obtain ⟨a, ⟨task, htask, hid, hplaced⟩, rfl⟩ := sessionPlan_of_allPlans hentries h
  obtain ⟨source, hsource, rfl⟩ := List.mem_map.mp htask
  obtain ⟨submittedTask, hsubmittedTask, htaskId, hduration⟩ :=
    withOverrides_tasks requests config source hsource
  refine ⟨submittedTask, hsubmittedTask, htaskId.trans hid, fun hpositive => ?_⟩
  rw [hduration] at hpositive ⊢
  obtain ⟨modelActor, hmodelActor, hactorId, window, hwindow, hstart, hstop⟩ := hplaced hpositive
  obtain ⟨current, hcurrent, rfl⟩ := List.mem_map.mp hmodelActor
  obtain ⟨sessionWindow, hsessionWindow, rfl⟩ := List.mem_map.mp hwindow
  rw [withOverrides_eq] at hcurrent
  obtain ⟨submitted, hsubmitted, hsame, hkept⟩ :=
    exists_of_forall₂ (calendar_kept hwindows hsafe) hcurrent
  have hplannedActor : submitted.id = actorId := (hsame.symm.trans hactorId).trans hactor
  refine ⟨submitted, hsubmitted, hsame.symm.trans hactorId, sessionWindow, ?_, hstart, hstop⟩
  rcases hkept hplannedActor with hkept | hkept
  · rwa [← hkept]
  · rw [hkept] at hsessionWindow
    exact absurd hsessionWindow List.not_mem_nil

/-- The overrides of actors that the session has had when the request is answered. -/
def actorOverridesOf (env : Environment) (submission : SubmitWorkflowRequest)
    (before : List ReorchestrateRequest) (request : ReorchestrateRequest) :
    List ActorStateOverride :=
  (takenOf env submission.config.id before ++ [request]).flatMap (·.actorOverrides)

/-- Overrides keep the calendar of an actor, and plans keep within it, exactly when no override
brings the actor back after one took it offline,
or its calendar is the one it is brought back with. -/
theorem calendar_restored_iff (env : Environment) (entries : List Optimizer.BackendEntry)
    (hentries : Optimizer.AllPlans Optimizer.PlacesInWindow entries)
    (submission : SubmitWorkflowRequest) (sessions : App.Sessions)
    (haccepted : runtimeAccepts env submission sessions = true) (before : List ReorchestrateRequest)
    (request : ReorchestrateRequest) (htakes : Takes env submission.config.id request)
    (actorId : ActorId) (hwindows : ∀ actor,
      ((App.toAppWorkflow submission.config).actors.find? fun actor => actor.id = actorId) =
        some actor →
        actor.windows ≠ []) :
    (CalendarRestored actorId (actorOverridesOf env submission before request)
        (App.toAppWorkflow submission.config).actors ∧
      ∀ assignment ∈ planAfter (withBackends env entries) submission before request sessions,
        assignment.actorId = actorId →
          PlannedInCalendar (App.toAppWorkflow submission.config) assignment) ↔
    CalendarSafe actorId (actorOverridesOf env submission before request)
      (App.toAppWorkflow submission.config).actors := by
  constructor
  · rintro ⟨hrestored, -⟩
    exact (calendarRestored_iff hwindows).mp hrestored
  · intro hsafe
    refine ⟨(calendarRestored_iff hwindows).mpr hsafe, fun assignment hassignment hactor => ?_⟩
    have hplan : planAfter (withBackends env entries) submission before request sessions =
        if Plans request then sessionPlan (withBackends env entries)
          (sessionAfter env submission before request)
        else [] := planAfter_eq (withBackends env entries) submission haccepted before htakes
    rw [hplan] at hassignment
    split_ifs at hassignment
    · exact plannedInCalendar_of_planned hentries hwindows hsafe hassignment hactor
    · exact absurd hassignment List.not_mem_nil

def shiftSubmission (requestedTime : Time) : SubmitWorkflowRequest where
  config :=
    { id := "w"
      actors := [{ id := "x", windows := [{ start := 8, stop := 16 }] }]
      tasks := [{ id := "a", requestedTime := requestedTime, duration := 2 }] }

def availability (unavailable : Bool) : ReorchestrateRequest where
  workflowId := "w"
  actorOverrides := [{ actorId := "x", unavailable := some unavailable }]

/-- An actor whose calendar is the one that an actor is brought back with. -/
def alwaysOnSubmission : SubmitWorkflowRequest where
  config :=
    { id := "w"
      actors := [{ id := "x", windows := [{ start := 0, stop := 1000000 }] }]
      tasks := [{ id := "a", requestedTime := 8, duration := 2 }] }

/-- Taken offline and back online, such an actor has its calendar again. -/
theorem calendar_restored_after_outage :
    CalendarRestored "x"
    (actorOverridesOf openEnvironment alwaysOnSubmission [availability true] (availability false))
        (App.toAppWorkflow alwaysOnSubmission.config).actors ∧
      (∀ assignment ∈
        planAfter (withBackends openEnvironment [Optimizer.indexedExactEntry]) alwaysOnSubmission
          [availability true] (availability false) .empty,
        assignment.actorId = "x" → PlannedInCalendar
        (App.toAppWorkflow alwaysOnSubmission.config) assignment) ∧
      ¬NeverReturns "x"
        (actorOverridesOf openEnvironment alwaysOnSubmission [availability true]
          (availability false)) := by
  have hcalendar : ∀ actor,
      ((App.toAppWorkflow alwaysOnSubmission.config).actors.find? fun actor => actor.id = "x") =
        some actor →
        actor.windows = overrideCalendar := by
    intro actor hfirst
    obtain rfl := Option.some.inj hfirst
    rfl
  have hwindows : overrideCalendar ≠ [] := List.cons_ne_nil _ _
  obtain ⟨hrestored, hplanned⟩ :=
    (calendar_restored_iff openEnvironment [Optimizer.indexedExactEntry]
      Optimizer.indexedExact_placesInWindow alwaysOnSubmission .empty (by decide)
      [availability true] (availability false) (by decide) "x"
      fun actor hfirst => (hcalendar actor hfirst).symm ▸ hwindows).mpr (Or.inr hcalendar)
  exact ⟨hrestored, hplanned, by decide⟩

/-- Taken offline and back online, the actor has lost its shift, and the exact search plans the task
long after it. -/
theorem calendar_lost :
    (sessionAfter openEnvironment (shiftSubmission 999990) [availability true]
      (availability false)).actors.map App.ActorConfig.windows = [overrideCalendar] ∧
      planAfter (withBackends openEnvironment [Optimizer.indexedExactEntry])
        (shiftSubmission 999990) [availability true]
          (availability false) .empty =
          [{ taskId := "a", actorId := "x", startTime := 999990, endTime := 999992 }] ∧
      ¬ PlannedInCalendar (App.toAppWorkflow (shiftSubmission 999990).config)
        { taskId := "a", actorId := "x", startTime := 999990, endTime := 999992 } := by
  refine ⟨by decide, by decide +kernel, ?_⟩
  rintro ⟨task, htask, -, hplaced⟩
  obtain rfl := List.mem_singleton.mp htask
  obtain ⟨actor, hactor, -, window, hwindow, -, hstop⟩ := hplaced (by decide)
  obtain rfl := List.mem_singleton.mp hactor
  obtain rfl := List.mem_singleton.mp hwindow
  exact absurd hstop (by decide)

end TaskOrchestrator.System
