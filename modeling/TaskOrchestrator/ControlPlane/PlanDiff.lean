import TaskOrchestrator.ControlPlane.Service
import Mathlib.Data.String.Basic

/-!
# Differences between plan versions

`diff_plan_versions` indexes the assignments of two responses by task and compares the indices. A
response that failed has no assignments. A `std::map` is a table whose entries are visited in the
order of their keys.
-/

namespace TaskOrchestrator.ControlPlane

open Protocol Library

set_option autoImplicit false

structure AssignmentDiff where
  before : Assignment := {}
  after : Assignment := {}
  deriving DecidableEq

structure WorkflowPlanDiff where
  addedAssignments : List Assignment := []
  removedAssignments : List Assignment := []
  changedAssignments : List AssignmentDiff := []
  deriving DecidableEq

structure GetPlanDiffRequest where
  workflowId : WorkflowId := ""
  fromPlanVersion : Int := 0
  toPlanVersion : Int := 0

structure GetPlanDiffResponse where
  ok : Bool := false
  diff : WorkflowPlanDiff := {}
  errorMessage : String := ""
  deriving DecidableEq

abbrev AssignmentMap := Dictionary TaskId Assignment

def indexAssignments (response : RuntimeApiResponse) : AssignmentMap :=
  if carriesPlan response then
    response.result.assignments.foldl
      (fun assignments assignment => assignments.emplace assignment.taskId assignment) .empty
  else .empty

def inKeyOrder (assignments : AssignmentMap) : List (TaskId × Assignment) :=
  assignments.rows.insertionSort fun a b => a.1 ≤ b.1

def assignmentChanged (before after : Assignment) : Bool :=
  before.actorId ≠ after.actorId || before.startTime ≠ after.startTime || before.endTime ≠
    after.endTime

def addedTo (fromAssignments : AssignmentMap) (entry : TaskId × Assignment) : Option Assignment :=
  match fromAssignments.lookup entry.1 with
  | none => some entry.2
  | some _ => none

def changedTo (fromAssignments : AssignmentMap) (entry : TaskId × Assignment) :
    Option AssignmentDiff :=
  match fromAssignments.lookup entry.1 with
  | none => none
  | some before => if assignmentChanged before entry.2
    then some { before := before, after := entry.2 } else none

def diffPlanVersions (fromResponse toResponse : RuntimeApiResponse) : WorkflowPlanDiff :=
  let fromAssignments := indexAssignments fromResponse
  let toAssignments := indexAssignments toResponse
  { addedAssignments := (inKeyOrder toAssignments).filterMap (addedTo fromAssignments)
    changedAssignments := (inKeyOrder toAssignments).filterMap (changedTo fromAssignments)
    removedAssignments := (inKeyOrder fromAssignments).filterMap (addedTo toAssignments) }

/-- `ORDER BY version ASC`. -/
def listPlanVersions (store : Store) (workflowId : WorkflowId) : List WorkflowPlanVersion :=
  ((store.planVersions.rows.filter fun row => row.workflowId = workflowId).insertionSort
    fun a b => a.sequence ≤ b.sequence).map fun row =>
      { version := row.sequence, recordedAtUnixMs := row.recordedAtUnixMs, response := row.payload }

def getPlanDiff (store : Store) (request : GetPlanDiffRequest) : GetPlanDiffResponse :=
  let planVersions := listPlanVersions store request.workflowId
  match planVersions.find? (fun version => version.version = request.fromPlanVersion),
      planVersions.find? fun version => version.version = request.toPlanVersion with
  | some fromVersion, some toVersion =>
    { ok := true, diff := diffPlanVersions fromVersion.response toVersion.response }
  | _, _ => { ok := false, errorMessage := "Requested plan versions were not found." }

structure AssignsOnce (response : RuntimeApiResponse) : Prop where
  plan : carriesPlan response = true
  nodup : (response.result.assignments.map Assignment.taskId).Nodup

theorem lookup_indexAssignments {response : RuntimeApiResponse} (h : AssignsOnce response)
    {taskId : TaskId} {assignment : Assignment} :
    (indexAssignments response).lookup taskId = some assignment ↔
      assignment ∈ response.result.assignments ∧ assignment.taskId = taskId := by
  have hlookup := Dictionary.lookup_foldl_emplace Assignment.taskId (fun a => a) KeyedRows.empty
    response.result.assignments taskId
  rw [indexAssignments, if_pos h.plan, hlookup, Dictionary.lookup_empty, Option.none_or,
    Option.map_id']
  constructor
  · intro hfound
    exact ⟨List.mem_of_find?_eq_some hfound, by simpa using List.find?_some hfound⟩
  · rintro ⟨hmem, rfl⟩
    exact (KeyedRows.get?_eq_some_iff ⟨response.result.assignments, h.nodup⟩ _ _).mpr ⟨hmem, rfl⟩

theorem lookup_indexAssignments_none {response : RuntimeApiResponse} (h : AssignsOnce response)
    {taskId : TaskId} :
    (indexAssignments response).lookup taskId = none ↔
      ∀ a ∈ response.result.assignments, a.taskId ≠ taskId := by
  rw [Option.eq_none_iff_forall_ne_some]
  simp only [ne_eq, lookup_indexAssignments h, not_and]

theorem mem_inKeyOrder {response : RuntimeApiResponse} (h : AssignsOnce response)
    {entry : TaskId × Assignment} :
    entry ∈ inKeyOrder (indexAssignments response) ↔
      entry.2 ∈ response.result.assignments ∧ entry.2.taskId = entry.1 := by
  obtain ⟨taskId, assignment⟩ := entry
  rw [inKeyOrder, List.mem_insertionSort, Dictionary.mem_rows_iff, lookup_indexAssignments h]

theorem pairwise_inKeyOrder (assignments : AssignmentMap) :
    (inKeyOrder assignments).Pairwise fun a b => a.1 < b.1 := by
  have htotal : Std.Total fun a b : TaskId × Assignment => a.1 ≤ b.1 :=
    ⟨fun a b => String.le_total a.1 b.1⟩
  have htrans : IsTrans (TaskId × Assignment) fun a b => a.1 ≤ b.1 := ⟨fun _ _ _ => String.le_trans⟩
  have hsorted : (inKeyOrder assignments).Pairwise fun a b => a.1 ≤ b.1 :=
    List.pairwise_insertionSort _ _
  have hperm :=
    (List.perm_insertionSort (fun a b : TaskId × Assignment =>
      a.1 ≤ b.1) assignments.rows).map Prod.fst
  have hdistinct : (inKeyOrder assignments).Pairwise fun a b => a.1 ≠ b.1 :=
    List.pairwise_map.mp (hperm.nodup_iff.mpr assignments.nodup)
  apply (hsorted.and hdistinct).imp
  intro a b ⟨hle, hne⟩
  exact lt_of_le_of_ne hle hne

section Contents

variable {a b : RuntimeApiResponse}

theorem mem_filterMap_addedTo (ha : AssignsOnce a) (hb : AssignsOnce b) {x : Assignment} :
    x ∈ (inKeyOrder (indexAssignments b)).filterMap (addedTo (indexAssignments a)) ↔
      x ∈ b.result.assignments ∧ ∀ y ∈ a.result.assignments, y.taskId ≠ x.taskId := by
  rw [List.mem_filterMap]
  constructor
  · rintro ⟨entry, hentry, hadded⟩
    obtain ⟨hmem, hid⟩ := (mem_inKeyOrder hb).mp hentry
    unfold addedTo at hadded
    split at hadded
    · rename_i hnone
      obtain rfl := Option.some.inj hadded
      rw [hid]
      exact ⟨hmem, (lookup_indexAssignments_none ha).mp hnone⟩
    · exact absurd hadded (by simp)
  · rintro ⟨hmem, hnone⟩
    refine ⟨(x.taskId, x), (mem_inKeyOrder hb).mpr ⟨hmem, rfl⟩, ?_⟩
    simp only [addedTo, (lookup_indexAssignments_none ha).mpr hnone]

/-- Two assignments of one task differ just when one of the compared fields does. -/
theorem assignmentChanged_iff {before after : Assignment} (h : before.taskId = after.taskId) :
    assignmentChanged before after = true ↔ before ≠ after := by
  obtain ⟨taskId, actorId, startTime, endTime⟩ := before
  obtain ⟨taskId', actorId', startTime', endTime'⟩ := after
  obtain rfl : taskId = taskId' := h
  simp only [assignmentChanged, Bool.or_eq_true, decide_eq_true_eq, ne_eq,
    Assignment.mk.injEq, true_and]
  grind

theorem mem_changed (ha : AssignsOnce a) (hb : AssignsOnce b) {c : AssignmentDiff} :
    c ∈ (diffPlanVersions a b).changedAssignments ↔
      c.before ∈ a.result.assignments ∧ c.after ∈ b.result.assignments ∧
      c.before.taskId = c.after.taskId ∧
        c.before ≠ c.after := by
  rw [diffPlanVersions, List.mem_filterMap]
  constructor
  · rintro ⟨entry, hentry, hchanged⟩
    obtain ⟨hafter, hid⟩ := (mem_inKeyOrder hb).mp hentry
    unfold changedTo at hchanged
    split at hchanged
    · exact absurd hchanged (by simp)
    · rename_i before hfound
      obtain ⟨hbefore, hsame⟩ := (lookup_indexAssignments ha).mp hfound
      have htask : before.taskId = entry.2.taskId := hsame.trans hid.symm
      split_ifs at hchanged with hdiffer
      obtain rfl := Option.some.inj hchanged
      exact ⟨hbefore, hafter, htask, (assignmentChanged_iff htask).mp hdiffer⟩
  · rintro ⟨hbefore, hafter, htask, hne⟩
    refine ⟨(c.after.taskId, c.after), (mem_inKeyOrder hb).mpr ⟨hafter, rfl⟩, ?_⟩
    have hfound := (lookup_indexAssignments ha).mpr ⟨hbefore, htask⟩
    simp only [changedTo, hfound, (assignmentChanged_iff htask).mpr hne, if_true]

theorem mem_added (ha : AssignsOnce a) (hb : AssignsOnce b) {x : Assignment} :
    x ∈ (diffPlanVersions a b).addedAssignments ↔
      x ∈ b.result.assignments ∧ ∀ y ∈ a.result.assignments, y.taskId ≠ x.taskId :=
  mem_filterMap_addedTo ha hb

theorem mem_removed (ha : AssignsOnce a) (hb : AssignsOnce b) {x : Assignment} :
    x ∈ (diffPlanVersions a b).removedAssignments ↔
      x ∈ a.result.assignments ∧ ∀ y ∈ b.result.assignments, y.taskId ≠ x.taskId :=
  mem_filterMap_addedTo hb ha

/-- A list made from the entries of an index in their order has the order of the tasks. -/
theorem pairwise_filterMap {α : Type} {f : TaskId × Assignment → Option α} {taskOf : α → TaskId}
    (hf : ∀ entry ∈ inKeyOrder (indexAssignments b), ∀ x ∈ f entry, taskOf x = entry.1) :
    ((inKeyOrder (indexAssignments b)).filterMap f).Pairwise fun x y => taskOf x < taskOf y := by
  rw [List.pairwise_filterMap]
  apply (pairwise_inKeyOrder (indexAssignments b)).imp_of_mem
  intro first second hfirst hsecond hlt x hx y hy
  rw [hf first hfirst x hx, hf second hsecond y hy]
  exact hlt

theorem addedTo_taskId (hb : AssignsOnce b) (other : AssignmentMap) :
    ∀ entry ∈ inKeyOrder (indexAssignments b), ∀ x ∈ addedTo other entry, x.taskId = entry.1 := by
  intro entry hentry x hx
  unfold addedTo at hx
  split at hx
  · obtain rfl := Option.some.inj hx
    exact ((mem_inKeyOrder hb).mp hentry).2
  · exact absurd hx (by simp)

theorem pairwise_added (hb : AssignsOnce b) :
    (diffPlanVersions a b).addedAssignments.Pairwise fun x y => x.taskId < y.taskId :=
  pairwise_filterMap (addedTo_taskId hb (indexAssignments a))

theorem pairwise_removed (ha : AssignsOnce a) :
    (diffPlanVersions a b).removedAssignments.Pairwise fun x y => x.taskId < y.taskId :=
  pairwise_filterMap (addedTo_taskId ha (indexAssignments b))

theorem pairwise_changed (ha : AssignsOnce a) (hb : AssignsOnce b) :
    (diffPlanVersions a b).changedAssignments.Pairwise fun c d =>
      c.before.taskId < d.before.taskId := by
  apply pairwise_filterMap
  intro entry hentry c hc
  have hmem : c ∈ (diffPlanVersions a b).changedAssignments :=
    List.mem_filterMap.mpr ⟨entry, hentry, hc⟩
  unfold changedTo at hc
  split at hc
  · exact absurd hc (by simp)
  · split_ifs at hc
    · obtain rfl := Option.some.inj hc
      exact ((mem_changed ha hb).mp hmem).2.2.1.trans ((mem_inKeyOrder hb).mp hentry).2
    · exact absurd hc (by simp)

/-- The removed assignments are taken away, the changed ones are replaced, and the added ones are
put in. -/
def applyDiff (diff : WorkflowPlanDiff) (assignments : List Assignment) : List Assignment :=
  ((assignments.filter fun assignment => assignment ∉ diff.removedAssignments).map fun assignment =>
    match diff.changedAssignments.find? fun change => change.before = assignment with
    | some change => change.after
    | none => assignment) ++ diff.addedAssignments

def reverseChange (change : AssignmentDiff) : AssignmentDiff :=
  { before := change.after, after := change.before }

def reverseDiff (diff : WorkflowPlanDiff) : WorkflowPlanDiff where
  addedAssignments := diff.removedAssignments
  removedAssignments := diff.addedAssignments
  changedAssignments := diff.changedAssignments.map reverseChange

def diffTaskIds (diff : WorkflowPlanDiff) : List TaskId :=
  diff.addedAssignments.map Assignment.taskId ++ diff.removedAssignments.map Assignment.taskId ++
    diff.changedAssignments.map fun change => change.before.taskId

theorem AssignsOnce.eq_of_taskId (h : AssignsOnce a) {x y : Assignment}
    (hx : x ∈ a.result.assignments) (hy : y ∈ a.result.assignments)
    (hid : x.taskId = y.taskId) : x = y :=
  List.inj_on_of_nodup_map h.nodup hx hy hid

/-- What the patch makes of an assignment that it does not take away. -/
theorem replaced_eq (ha : AssignsOnce a) (hb : AssignsOnce b) {x y : Assignment}
    (hx : x ∈ a.result.assignments) (hy : y ∈ b.result.assignments) (hid : x.taskId = y.taskId) :
    (match (diffPlanVersions a b).changedAssignments.find? fun change => change.before = x with
      | some change => change.after
      | none => x) = y := by
  cases hfound : (diffPlanVersions a b).changedAssignments.find? fun change =>
    change.before = x with
  | some change =>
    obtain ⟨-, hafter, htask, -⟩ := (mem_changed ha hb).mp (List.mem_of_find?_eq_some hfound)
    have hbefore : change.before = x := by simpa using List.find?_some hfound
    rw [hbefore] at htask
    exact hb.eq_of_taskId hafter hy (htask.symm.trans hid)
  | none =>
    by_contra hne
    have hchange : { before := x, after := y } ∈ (diffPlanVersions a b).changedAssignments :=
      (mem_changed ha hb).mpr ⟨hx, hy, hid, hne⟩
    have hnot := List.find?_eq_none.mp hfound _ hchange
    simp at hnot

theorem mem_applyDiff (ha : AssignsOnce a) (hb : AssignsOnce b) {x : Assignment} :
    x ∈ applyDiff (diffPlanVersions a b) a.result.assignments ↔ x ∈ b.result.assignments := by
  rw [applyDiff, List.mem_append, List.mem_map]
  constructor
  · rintro (⟨y, hy, rfl⟩ | hadded)
    · obtain ⟨hmem, hkept⟩ := List.mem_filter.mp hy
      have hkept : y ∉ (diffPlanVersions a b).removedAssignments := by simpa using hkept
      obtain ⟨z, hz, hid⟩ : ∃ z ∈ b.result.assignments, z.taskId = y.taskId := by
        by_contra hnone
        exact hkept ((mem_removed ha hb).mpr ⟨hmem, fun z hz hid => hnone ⟨z, hz, hid⟩⟩)
      rw [replaced_eq ha hb hmem hz hid.symm]
      exact hz
    · exact ((mem_added ha hb).mp hadded).1
  · intro hx
    by_cases hold : ∃ y ∈ a.result.assignments, y.taskId = x.taskId
    · obtain ⟨y, hy, hid⟩ := hold
      refine Or.inl ⟨y, List.mem_filter.mpr ⟨hy, ?_⟩, replaced_eq ha hb hy hx hid⟩
      rw [decide_eq_true_eq, mem_removed ha hb]
      rintro ⟨-, hnone⟩
      exact hnone x hx hid.symm
    · exact Or.inr ((mem_added ha hb).mpr ⟨hx, fun y hy hid => hold ⟨y, hy, hid⟩⟩)

/-- No two of the added, removed and changed assignments are of one task. -/
theorem nodup_diffTaskIds (ha : AssignsOnce a) (hb : AssignsOnce b) :
    (diffTaskIds (diffPlanVersions a b)).Nodup := by
  have hdistinct : ∀ {α : Type} {list : List α} {taskOf : α → TaskId},
      (list.Pairwise fun x y => taskOf x < taskOf y) → (list.map taskOf).Nodup := by
    intro α list taskOf h
    exact List.pairwise_map.mpr (h.imp ne_of_lt)
  rw [diffTaskIds, List.nodup_append, List.nodup_append]
  refine ⟨⟨hdistinct (pairwise_added hb), hdistinct (pairwise_removed ha), ?_⟩,
    hdistinct (pairwise_changed ha hb), ?_⟩
  · intro id hid other hother heq
    obtain ⟨x, hx, rfl⟩ := List.mem_map.mp hid
    obtain ⟨y, hy, rfl⟩ := List.mem_map.mp hother
    exact ((mem_added ha hb).mp hx).2 y ((mem_removed ha hb).mp hy).1 heq.symm
  · intro id hid other hother heq
    obtain ⟨c, hc, rfl⟩ := List.mem_map.mp hother
    obtain ⟨hbefore, hafter, htask, -⟩ := (mem_changed ha hb).mp hc
    rcases List.mem_append.mp hid with hid | hid
    · obtain ⟨x, hx, rfl⟩ := List.mem_map.mp hid
      exact ((mem_added ha hb).mp hx).2 c.before hbefore heq.symm
    · obtain ⟨x, hx, rfl⟩ := List.mem_map.mp hid
      exact ((mem_removed ha hb).mp hx).2 c.after hafter (htask.symm.trans heq.symm)

theorem diffPlanVersions_self (ha : AssignsOnce a) : diffPlanVersions a a = {} := by
  have hadded : (diffPlanVersions a a).addedAssignments = [] := by
    apply List.eq_nil_iff_forall_not_mem.mpr
    intro x hx
    obtain ⟨hmem, hnone⟩ := (mem_added ha ha).mp hx
    exact hnone x hmem rfl
  have hchanged : (diffPlanVersions a a).changedAssignments = [] := by
    apply List.eq_nil_iff_forall_not_mem.mpr
    intro c hc
    obtain ⟨hbefore, hafter, htask, hne⟩ := (mem_changed ha ha).mp hc
    exact hne (ha.eq_of_taskId hbefore hafter htask)
  calc diffPlanVersions a a
      = { addedAssignments := (diffPlanVersions a a).addedAssignments
          removedAssignments := (diffPlanVersions a a).addedAssignments
          changedAssignments := (diffPlanVersions a a).changedAssignments } := rfl
    _ = {} := by rw [hadded, hchanged]

/-- The changes of the diff the other way round are the changes reversed: both are in the order of
their tasks. -/
theorem changed_reversed (ha : AssignsOnce a) (hb : AssignsOnce b) :
    (diffPlanVersions b a).changedAssignments =
      (diffPlanVersions a b).changedAssignments.map reverseChange := by
  have hreversed : ((diffPlanVersions a b).changedAssignments.map reverseChange).Pairwise
      fun c d => c.before.taskId < d.before.taskId := by
    rw [List.pairwise_map]
    apply (pairwise_changed ha hb).imp_of_mem
    intro c d hc hd hlt
    have hctask := ((mem_changed ha hb).mp hc).2.2.1
    have hdtask := ((mem_changed ha hb).mp hd).2.2.1
    rw [hctask, hdtask] at hlt
    exact hlt
  have : Std.Asymm fun c d : AssignmentDiff => c.before.taskId < d.before.taskId :=
    ⟨fun _ _ h => not_lt_of_gt h⟩
  apply List.Pairwise.eq_of_mem_iff (pairwise_changed hb ha) hreversed
  intro c
  rw [mem_changed hb ha, List.mem_map]
  constructor
  · rintro ⟨hbefore, hafter, htask, hne⟩
    exact ⟨reverseChange c, (mem_changed ha hb).mpr ⟨hafter, hbefore, htask.symm, Ne.symm hne⟩, rfl⟩
  · rintro ⟨d, hd, rfl⟩
    obtain ⟨hbefore, hafter, htask, hne⟩ := (mem_changed ha hb).mp hd
    exact ⟨hafter, hbefore, htask.symm, Ne.symm hne⟩

theorem diffPlanVersions_reversed (ha : AssignsOnce a) (hb : AssignsOnce b) :
    diffPlanVersions b a = reverseDiff (diffPlanVersions a b) := by
  calc diffPlanVersions b a
      = { addedAssignments := (diffPlanVersions a b).removedAssignments
          removedAssignments := (diffPlanVersions a b).addedAssignments
          changedAssignments := (diffPlanVersions b a).changedAssignments } := rfl
    _ = reverseDiff (diffPlanVersions a b) := by rw [changed_reversed ha hb, reverseDiff]

end Contents

structure ExactPatch (a b : RuntimeApiResponse) (diff : WorkflowPlanDiff) : Prop where
  patched : ∀ x, x ∈ applyDiff diff a.result.assignments ↔ x ∈ b.result.assignments
  disjoint : (diffTaskIds diff).Nodup
  sameTask : ∀ change ∈ diff.changedAssignments, change.before.taskId = change.after.taskId
  empty : diff = {} → ∀ x, x ∈ a.result.assignments ↔ x ∈ b.result.assignments

/-- The diff of two plans is an exact patch, that of a plan with itself is empty, and the diff the
other way round is the reversed one. -/
theorem plan_diff_exact (a b : RuntimeApiResponse) (ha : AssignsOnce a) (hb : AssignsOnce b) :
    ExactPatch a b (diffPlanVersions a b) ∧ diffPlanVersions a a = {} ∧
      diffPlanVersions b a = reverseDiff (diffPlanVersions a b) := by
  refine ⟨⟨fun x => mem_applyDiff ha hb, nodup_diffTaskIds ha hb, ?_, ?_⟩, diffPlanVersions_self ha,
    diffPlanVersions_reversed ha hb⟩
  · intro change hchange
    exact ((mem_changed ha hb).mp hchange).2.2.1
  · intro hempty x
    rw [← mem_applyDiff ha hb, hempty]
    simp [applyDiff]

/-- The two responses of the test: one task moves to another actor, one goes and one comes. -/
def planBefore : RuntimeApiResponse where
  ok := true
  result :=
    { ok := true
      assignments :=
        [{ taskId := "pick", actorId := "robot_1", startTime := 0, endTime := 5 },
          { taskId := "pack", actorId := "robot_2", startTime := 5, endTime := 10 }] }

def planAfter : RuntimeApiResponse where
  ok := true
  result :=
    { ok := true
      assignments :=
        [{ taskId := "pick", actorId := "robot_3", startTime := 1, endTime := 6 },
          { taskId := "ship", actorId := "robot_2", startTime := 10, endTime := 12 }] }

theorem two_plans_diff_exact :
    ExactPatch planBefore planAfter (diffPlanVersions planBefore planAfter) ∧
      diffPlanVersions planBefore planBefore = {} ∧
      diffPlanVersions planAfter planBefore = reverseDiff (diffPlanVersions planBefore planAfter) :=
  plan_diff_exact planBefore planAfter ⟨by decide, by decide⟩ ⟨by decide, by decide⟩

theorem find?_listPlanVersions {store : Store} {workflowId : WorkflowId} {version : Int}
    {row : HistoryRow RuntimeApiResponse}
    (h : store.planVersions.get? (workflowId, version) = some row) :
    (listPlanVersions store workflowId).find? (fun planVersion => planVersion.version = version) =
      some { version := row.sequence, recordedAtUnixMs := row.recordedAtUnixMs,
             response := row.payload } := by
  obtain ⟨hmem, hkey⟩ := (KeyedRows.get?_eq_some_iff _ _ _).mp h
  obtain ⟨hid, hversion⟩ := Prod.mk.inj hkey
  have hperm := List.perm_insertionSort (fun a b => a.sequence ≤ b.sequence)
    (store.planVersions.rows.filter fun row => row.workflowId = workflowId)
  -- The rows of one workflow have different versions.
  have hnodup : ((store.planVersions.rows.filter fun row => row.workflowId = workflowId).map
      HistoryRow.sequence).Nodup := by
    have hkeys := List.pairwise_map.mp (store.planVersions.nodup.sublist ((List.filter_sublist
      (p := fun row => row.workflowId = workflowId)).map HistoryRow.key))
    apply List.pairwise_map.mpr
    apply hkeys.imp_of_mem
    intro first second hfirst hsecond hne heq
    have hfirstId : first.workflowId = workflowId := by simpa using (List.mem_filter.mp hfirst).2
    have hsecondId : second.workflowId = workflowId := by simpa using (List.mem_filter.mp hsecond).2
    exact hne (Prod.ext (hfirstId.trans hsecondId.symm) heq)
  have hfound := (KeyedRows.get?_eq_some_iff
    ⟨_, (hperm.map HistoryRow.sequence).nodup_iff.mpr hnodup⟩ version row).mpr
      ⟨hperm.mem_iff.mpr (List.mem_filter.mpr ⟨hmem, by simpa using hid⟩), hversion⟩
  rw [listPlanVersions, List.find?_map]
  exact congrArg _ hfound

theorem getPlanDiff_stored (store : Store) (request : GetPlanDiffRequest)
    {fromRow toRow : HistoryRow RuntimeApiResponse}
    (hfrom : store.planVersions.get? (request.workflowId, request.fromPlanVersion) = some fromRow)
    (hto : store.planVersions.get? (request.workflowId, request.toPlanVersion) = some toRow) :
    getPlanDiff store
    request = { ok := true, diff := diffPlanVersions fromRow.payload toRow.payload } := by
  simp only [getPlanDiff, find?_listPlanVersions hfrom, find?_listPlanVersions hto]

end TaskOrchestrator.ControlPlane
