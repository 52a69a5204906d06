import TaskOrchestrator.System.SharedCalls

/-!
# The state that a pause or a cancel sets

A pause or a cancel that answers ok has stored its state. When two calls on one workflow are
isolated from each other, the state that the later one sets is still stored after both.
-/

namespace TaskOrchestrator.System

open Protocol Library ControlPlane
open Program (Stable obeys_stable)

set_option autoImplicit false

/-- What a party that sets the state knows: whether it has read the record and stored it. -/
structure Setter where
  read : Bool
  stored : Bool

/-- The party stores the record only after reading it, and only in the given state. -/
def setter (id : WorkflowId) (state : WorkflowLifecycleState) : Monitor calls Setter where
  allows k op := match op with
    | .upsertWorkflow r => r.summary.workflowId = id → k.read = true ∧ r.summary.state = state
    | _ => True
  replies := repliesKeyed
  next k op _ := match op with
    | .getWorkflow id' => { k with read := k.read || decide (id' = id) }
    | .upsertWorkflow r => { k with stored := k.stored || decide (r.summary.workflowId = id) }
    | _ => k

/-- A party that leaves a paused or cancelled workflow in its state. The monitor's state is
the lifecycle state that the party last read. -/
def respecting (id : WorkflowId) : Monitor calls (Option WorkflowLifecycleState) where
  allows k op := match op with
    | .upsertWorkflow r => r.summary.workflowId = id →
        ∃ seen, k = some seen ∧ (seen = .paused ∨ seen = .cancelled → r.summary.state = seen)
    | .listAllWorkflows => False
    | _ => True
  replies := repliesKeyed
  next k op reply := match op, reply with
    | .getWorkflow id', reply => if id' = id then reply.map fun r => r.summary.state else k
    | _, _ => k

def readingOnce (id : WorkflowId) : Monitor calls Bool where
  allows k op := match op with
    | .getWorkflow id' => id' = id → k = false
    | .listAllWorkflows => False
    | _ => True
  replies _ _ := True
  next k op _ := match op with
    | .getWorkflow id' => k || decide (id' = id)
    | _ => k

section States

variable {env : Environment} {id : WorkflowId}

/-- A pause or a cancel that answers ok has stored the record in its state. -/
theorem lifecycleAction_setter (state : WorkflowLifecycleState) (action defaultDetail : String)
    {request : LifecycleRequest} (hid : request.workflowId = id) :
    (lifecycleAction (fun _ => state) action defaultDetail request).Obeys (setter id state)
      (fun response k => response.ok = true → k.stored = true) ⟨false, false⟩ := by
  refine Program.obeys_perform_bind trivial fun reply hreply => ?_
  cases reply with
  | none => exact Program.obeys_pure fun h => absurd h Bool.false_ne_true
  | some stored =>
    have hstored : stored.summary.workflowId = id := (hreply stored rfl).trans hid
    have hread : (setter id state).next ⟨false, false⟩ (.getWorkflow request.workflowId)
        (some stored) = ⟨true, false⟩ := by simp [setter, hid]
    simp only [hread]
    refine Program.obeys_perform_bind trivial fun updatedAt _ => ?_
    refine Program.obeys_perform_bind (fun _ => ⟨rfl, rfl⟩) fun _ _ => ?_
    refine Program.obeys_perform_bind trivial fun recordedAt _ => ?_
    refine Program.obeys_perform_bind trivial fun _ _ => ?_
    refine Program.obeys_perform_bind (fun _ => ⟨rfl, rfl⟩) fun _ _ => ?_
    refine (publish_stable ⟨trivial, fun _ => rfl⟩).bind ?_
    rintro _ _ rfl
    exact Program.obeys_pure fun _ => by simp [setter, hstored]

theorem setter_program {call : SharedCall} {state : WorkflowLifecycleState}
    (hstate : call.target = some state) (hid : call.workflowId = id) :
    (call.program env).Obeys (setter id state)
      (fun answer k => ∀ response, answer = .action response → response.ok = true → k.stored = true)
      ⟨false, false⟩ := by
  cases call with
  | pause request =>
    obtain rfl := Option.some.inj hstate
    refine (lifecycleAction_setter .paused _ _ hid).bind fun response k h => Program.obeys_pure ?_
    rintro _ ⟨rfl⟩
    exact h
  | cancel request =>
    obtain rfl := Option.some.inj hstate
    refine (lifecycleAction_setter .cancelled _ _ hid).bind fun response k h =>
      Program.obeys_pure ?_
    rintro _ ⟨rfl⟩
    exact h
  | submit _ _ _ | reorchestrate _ | intervene _ | appendAuditEntry _ _ _ _ =>
    exact absurd hstate (by simp [SharedCall.target])

/-- A workflow that was neither paused nor cancelled when it was read may be stored in any state. -/
theorem respecting_stable {seen : WorkflowLifecycleState} (hpaused : seen ≠ .paused)
    (hcancelled : seen ≠ .cancelled) {op : Op} (hread : ∀ id, op ≠ .getWorkflow id)
    (hlist : op ≠ .listAllWorkflows) :
    Stable (respecting id) (some seen) op := by
  cases op with
  | getWorkflow id' => exact absurd rfl (hread id')
  | listAllWorkflows => exact absurd rfl hlist
  | upsertWorkflow r =>
    refine ⟨fun _ => ⟨seen, rfl, fun h => ?_⟩, fun _ => rfl⟩
    rcases h with h | h
    · exact absurd h hpaused
    · exact absurd h hcancelled
  | _ => exact ⟨trivial, fun _ => rfl⟩

theorem respecting_reorchestrateAccepted {seen : WorkflowLifecycleState} (hpaused : seen ≠ .paused)
    (hcancelled : seen ≠ .cancelled) (request : ReorchestrateRequest) (record : WorkflowRecord) :
    (reorchestrateAccepted env request record).Obeys (respecting id) (fun _ _ => True)
      (some seen) := by
  refine obeys_stable (respecting_stable hpaused hcancelled (by simp) (by simp)) fun events _ => ?_
  refine (persistEvents_stable (fun op hop => ?_) events).mono fun _ _ _ => trivial
  refine respecting_stable hpaused hcancelled ?_ ?_
  · rintro _ rfl
    exact hop
  · rintro rfl
    exact hop

theorem respecting_streamReorchestrate {request : ReorchestrateRequest}
    (hid : request.workflowId = id) (k : Option WorkflowLifecycleState) :
    (streamReorchestrate env request).Obeys (respecting id) (fun _ _ => True) k := by
  refine Program.obeys_perform_bind trivial fun reply _ => ?_
  cases reply with
  | none => exact Program.obeys_pure trivial
  | some record =>
    have hread : (respecting id).next k (.getWorkflow request.workflowId) (some record) =
        some record.summary.state := by simp [respecting, hid]
    simp only [hread]
    split
    · exact Program.obeys_pure trivial
    · rename_i hrefusal
      obtain ⟨hpaused, hcancelled, -⟩ := reorchestrateRefusal_eq_none.mp hrefusal
      have hstable : ∀ op, (∀ id, op ≠ .getWorkflow id) → op ≠ .listAllWorkflows →
          Stable (respecting id) (some record.summary.state) op :=
          fun _ => respecting_stable hpaused hcancelled
      have hhydrate : (hydrate request.auth request.workflowId record.config).Obeys (respecting id)
          (fun _ k' => k' = some record.summary.state) (some record.summary.state) := by
        refine obeys_stable (hstable _ (by simp) (by simp)) fun hydrated _ => ?_
        split
        · exact Program.obeys_pure rfl
        · refine obeys_stable (hstable _ (by simp) (by simp)) fun events _ => ?_
          dsimp only
          split
          · exact Program.obeys_pure rfl
          · exact obeys_stable (hstable _ (by simp) (by simp)) fun _ _ => Program.obeys_pure rfl
      refine hhydrate.bind ?_
      rintro failure _ rfl
      cases failure with
      | some response => exact Program.obeys_pure trivial
      | none =>
        dsimp only
        split
        · exact respecting_reorchestrateAccepted hpaused hcancelled request record
        · refine obeys_stable (hstable _ (by simp) (by simp)) fun existing _ => ?_
          cases existing with
          | none => exact respecting_reorchestrateAccepted hpaused hcancelled request record
          | some existing =>
            dsimp only
            split <;> exact Program.obeys_pure trivial

/-- The calls that set no state leave a paused or cancelled workflow as it is. -/
theorem respecting_program {call : SharedCall} (hsets : call.setsState = false)
    (hid : call.workflowId = id) :
    (call.program env).Obeys (respecting id) (fun _ _ => True) none := by
  cases call with
  | submit _ _ _ | pause _ | cancel _ => exact absurd hsets (by simp [SharedCall.setsState])
  | reorchestrate request =>
    exact (respecting_streamReorchestrate hid none).bind fun _ _ _ => Program.obeys_pure trivial
  | intervene request =>
    refine Program.Obeys.bind (Q := fun _ _ => True) ?_ fun _ _ _ => Program.obeys_pure trivial
    refine Program.obeys_perform_bind trivial fun reply _ => ?_
    cases reply with
    | none => exact Program.obeys_pure trivial
    | some stored =>
      refine Program.obeys_perform_bind trivial fun _ _ => ?_
      refine Program.obeys_perform_bind trivial fun _ _ => ?_
      refine Program.obeys_perform_bind (fun _ => ⟨stored.summary.state, ?_, fun _ => rfl⟩)
        fun _ _ => ?_
      · exact if_pos hid
      · refine (publish_stable ⟨trivial, fun _ => rfl⟩).bind fun _ _ _ => ?_
        refine (respecting_streamReorchestrate hid _).bind fun _ _ _ => ?_
        refine Program.obeys_perform_bind trivial fun refreshed _ => ?_
        split <;> exact Program.obeys_pure trivial
  | appendAuditEntry id actor action detail =>
    refine Program.Obeys.bind (Q := fun _ _ => True) ?_ fun _ _ _ => Program.obeys_pure trivial
    refine Program.obeys_perform_bind trivial fun reply _ => ?_
    cases reply with
    | none => exact Program.obeys_pure trivial
    | some stored =>
      refine Program.obeys_perform_bind trivial fun _ _ => ?_
      refine Program.obeys_perform_bind trivial fun _ _ => ?_
      refine Program.obeys_perform_bind (fun _ => ⟨stored.summary.state, ?_, fun _ => rfl⟩)
        fun _ _ => ?_
      · exact if_pos hid
      · exact (publish_stable ⟨trivial, fun _ => rfl⟩).mono fun _ _ _ => trivial

theorem readingOnce_program {call : SharedCall} (hsets : call.setsState = true) :
    (call.program env).Obeys (readingOnce id) (fun _ _ => True) false := by
  have hlifecycle : ∀ newState action detail request,
      (lifecycleAction newState action detail request).Obeys (readingOnce id)
        (fun _ _ => True) false := by
    intro newState action detail request
    refine Program.obeys_perform_bind (fun _ => rfl) fun reply _ => ?_
    cases reply with
    | none => exact Program.obeys_pure trivial
    | some stored =>
      refine Program.obeys_perform_bind trivial fun _ _ => ?_
      refine Program.obeys_perform_bind trivial fun _ _ => ?_
      refine Program.obeys_perform_bind trivial fun _ _ => ?_
      refine Program.obeys_perform_bind trivial fun _ _ => ?_
      refine Program.obeys_perform_bind trivial fun _ _ => ?_
      exact (publish_stable ⟨trivial, fun _ => rfl⟩).bind fun _ _ _ => Program.obeys_pure trivial
  have hsubmit : ∀ config auth key,
      (submitAccepted env (Operator.replacementRequest config auth key)).Obeys
      (readingOnce id) (fun _ _ => True) false := by
    intro config auth key
    refine Program.obeys_perform_bind trivial fun now _ => ?_
    refine Program.obeys_perform_bind (fun _ => rfl) fun existing _ => ?_
    refine Program.obeys_perform_bind trivial fun _ _ => ?_
    refine (publish_stable ⟨trivial, fun _ => rfl⟩).bind fun _ _ _ => ?_
    refine Program.obeys_perform_bind trivial fun _ _ => ?_
    refine Program.obeys_perform_bind trivial fun events _ => ?_
    refine (persistEvents_stable (fun op hop => ?_) events).mono fun _ _ _ => trivial
    cases op <;> first | exact absurd hop not_false | exact ⟨trivial, fun _ => rfl⟩
  cases call with
  | reorchestrate _ | intervene _ | appendAuditEntry _ _ _ _ =>
    exact absurd hsets (by simp [SharedCall.setsState])
  | pause request => exact (hlifecycle _ _ _ request).bind fun _ _ _ => Program.obeys_pure trivial
  | cancel request => exact (hlifecycle _ _ _ request).bind fun _ _ _ => Program.obeys_pure trivial
  | submit config auth key =>
    refine Program.Obeys.bind (Q := fun _ _ => True) ?_ fun _ _ _ => Program.obeys_pure trivial
    simp only [streamSubmitWorkflow]
    split
    · exact hsubmit config auth key
    · refine Program.obeys_perform_bind trivial fun existing _ => ?_
      cases existing with
      | none => exact hsubmit config auth key
      | some existing =>
        dsimp only
        split <;> exact Program.obeys_pure trivial

def StateIs (id : WorkflowId) (state : WorkflowLifecycleState) (w : World) : Prop :=
  ∃ record, w.store.getWorkflow id = some record ∧ record.summary.state = state

theorem stateIs_upsert {r : WorkflowRecord} (hid : r.summary.workflowId = id) (w : World) :
    StateIs id r.summary.state (handle env (.upsertWorkflow r) w).2 := by
  refine ⟨r, ?_, rfl⟩
  simp only [handle, Store.getWorkflow_upsertWorkflow, hid, if_true]

theorem getWorkflow_handle_other {op : Op}
    (h : ∀ r, op = .upsertWorkflow r → r.summary.workflowId ≠ id) (w : World) :
    (handle env op w).2.store.getWorkflow id = w.store.getWorkflow id := by
  cases op with
  | upsertWorkflow r => simp only [handle, Store.getWorkflow_upsertWorkflow, if_neg (h r rfl)]
  | _ => rfl

theorem stateIs_other {state : WorkflowLifecycleState} {op : Op}
    (h : ∀ r, op = .upsertWorkflow r → r.summary.workflowId ≠ id) {w : World}
    (hw : StateIs id state w) :
    StateIs id state (handle env op w).2 := by
  obtain ⟨record, hrecord, hstate⟩ := hw
  exact ⟨record, by rw [getWorkflow_handle_other h, hrecord], hstate⟩

theorem setter_next_stored {state : WorkflowLifecycleState} {op : Op}
    (h : ∀ r, op = .upsertWorkflow r → r.summary.workflowId ≠ id) (k : Setter) (reply : op.Reply) :
    ((setter id state).next k op reply).stored = k.stored := by
  cases op with
  | upsertWorkflow r => simp [setter, h r rfl]
  | _ => rfl

theorem reads_eq_false {op : Op} (hget : op ≠ .getWorkflow id) (hlist : op ≠ .listAllWorkflows) :
    (ledgerAct id op).reads = false := by
  by_contra hreads
  have hact : ledgerAct id op = .read := by
    cases h : ledgerAct id op <;> simp_all [LedgerAct.reads]
  rcases ledgerAct_read hact with h | h
  · exact hget h
  · exact hlist h

theorem writes_upsert {r : WorkflowRecord} (hid : r.summary.workflowId = id) :
    (ledgerAct id (.upsertWorkflow r)).writes = true := by
  simp [ledgerAct, hid, LedgerAct.writes]

theorem target_cases {call : SharedCall} {state : WorkflowLifecycleState}
    (h : call.target = some state) :
    state = .paused ∨ state = .cancelled := by
  cases call <;> simp_all [SharedCall.target]

/-- Once the first call has stored its state, the state is stored, and the second call
has seen it unless it has to read the record again before it writes. -/
def Shown (env : Environment) (id : WorkflowId) (state : WorkflowLifecycleState) (u : World)
    (k : Setter) (seen : Option WorkflowLifecycleState) (rest : Trace) : Prop :=
  ∃ fresh₁ fresh₂, (ledger env id).IsolatedFrom fresh₁ fresh₂ rest ∧
    (k.stored = true → StateIs id state u ∧ (fresh₂ = true → seen = some state))

variable {state : WorkflowLifecycleState} {u : World} {k : Setter} {op : Op} {rest : Trace}

theorem Shown.setter_step {seen : Option WorkflowLifecycleState}
    (h : Shown env id state u k seen ((true, op, (handle env op u).2) :: rest))
    (hallows : (setter id state).allows k op) :
    Shown env id state (handle env op u).2 ((setter id state).next k op (handle env op u).1) seen
      rest := by
  obtain ⟨fresh₁, fresh₂, hiso, hinv⟩ := h
  refine ⟨_, _, hiso.2, fun hstored => ?_⟩
  by_cases hop : ∀ r, op = .upsertWorkflow r → r.summary.workflowId ≠ id
  · rw [setter_next_stored hop] at hstored
    obtain ⟨hu, hseen⟩ := hinv hstored
    refine ⟨stateIs_other hop hu, fun hfresh => hseen ?_⟩
    exact (Bool.and_eq_true_iff.mp hfresh).1
  · push Not at hop
    obtain ⟨r, rfl, hid⟩ := hop
    obtain ⟨-, hr⟩ := hallows hid
    refine ⟨hr ▸ stateIs_upsert hid u, fun hfresh => ?_⟩
    simp [ledger, writes_upsert hid] at hfresh

/-- What a party that respects the state has seen changes only when it reads the record. -/
theorem respecting_next_other (hread : op ≠ .getWorkflow id) (seen : Option WorkflowLifecycleState)
    (reply : op.Reply) : (respecting id).next seen op reply = seen := by
  cases op with
  | getWorkflow id' => exact if_neg fun h => hread (by rw [h])
  | _ => rfl

theorem Shown.respecting_step (htarget : state = .paused ∨ state = .cancelled)
    {seen : Option WorkflowLifecycleState}
    (h : Shown env id state u k seen ((false, op, (handle env op u).2) :: rest))
    (hallows : (respecting id).allows seen op) :
    Shown env id state (handle env op u).2 k ((respecting id).next seen op (handle env op u).1)
      rest := by
  obtain ⟨fresh₁, fresh₂, hiso, hinv⟩ := h
  refine ⟨_, _, hiso.2, fun hstored => ?_⟩
  obtain ⟨hu, hseen⟩ := hinv hstored
  by_cases hop : ∀ r, op = .upsertWorkflow r → r.summary.workflowId ≠ id
  · refine ⟨stateIs_other hop hu, fun hfresh => ?_⟩
    by_cases hread : op = .getWorkflow id
    · subst hread
      obtain ⟨record, hrecord, hrecordState⟩ := hu
      simp [respecting, handle, hrecord, hrecordState]
    · have hskip : (ledgerAct id op).reads = false := by
        refine reads_eq_false hread ?_
        rintro rfl
        exact hallows
      have hfresh₂ : fresh₂ = true := by simpa [ledger, hskip] using hfresh
      rw [respecting_next_other hread]
      exact hseen hfresh₂
  · -- The call writes what it has seen, and it has seen the state.
    push Not at hop
    obtain ⟨r, rfl, hid⟩ := hop
    have hfresh₂ : fresh₂ = true := hiso.1 (writes_upsert hid)
    obtain ⟨other, hother, hkept⟩ := hallows hid
    obtain rfl : state = other := Option.some.inj ((hseen hfresh₂).symm.trans hother)
    have hr := hkept htarget
    exact ⟨hr ▸ stateIs_upsert hid u, fun _ => hother⟩

/-- The second call has read the record, or will never read it, or reads it before the first
call does. Once the first call has stored its state, the state is stored and the second
call may not write. -/
def ReadBefore (env : Environment) (id : WorkflowId) (state : WorkflowLifecycleState) (u : World)
    (k : Setter) (hasRead : Bool) (rest : Trace) : Prop :=
  ∃ fresh₁ fresh₂, (ledger env id).IsolatedFrom fresh₁ fresh₂ rest ∧
    (hasRead = true ∨ false ∉ readers id rest ∨
      (k.read = false ∧ (readers id rest).head? = some false)) ∧
    (k.stored = true → k.read = true ∧ StateIs id state u ∧ fresh₂ = false)

theorem readers_read (party : Bool) (u : World) (rest : Trace) :
    readers id ((party, Op.getWorkflow id, u) :: rest) = party :: readers id rest := by
  simp [readers]

theorem readers_other (party : Bool) (u : World) (rest : Trace) (hread : op ≠ .getWorkflow id) :
    readers id ((party, op, u) :: rest) = readers id rest := by
  simp [readers, hread]

theorem setter_next_read (hread : op ≠ .getWorkflow id) (k : Setter) (reply : op.Reply) :
    ((setter id state).next k op reply).read = k.read := by
  cases op with
  | getWorkflow id' =>
    have hne : id' ≠ id := fun h => hread (by rw [h])
    simp [setter, hne]
  | _ => rfl

theorem readingOnce_next_other (hread : op ≠ .getWorkflow id) (hasRead : Bool) (reply : op.Reply) :
    (readingOnce id).next hasRead op reply = hasRead := by
  cases op with
  | getWorkflow id' =>
    have hne : id' ≠ id := fun h => hread (by rw [h])
    simp [readingOnce, hne]
  | _ => rfl

theorem ReadBefore.setter_step {hasRead : Bool}
    (h : ReadBefore env id state u k hasRead ((true, op, (handle env op u).2) :: rest))
    (hallows : (setter id state).allows k op) :
    ReadBefore env id state (handle env op u).2 ((setter id state).next k op (handle env op u).1)
      hasRead rest := by
  obtain ⟨fresh₁, fresh₂, hiso, hreaders, hinv⟩ := h
  refine ⟨_, _, hiso.2, ?_, fun hstored => ?_⟩
  · by_cases hread : op = .getWorkflow id
    · subst hread
      rw [readers_read] at hreaders
      rcases hreaders with h | h | ⟨-, h⟩
      · exact Or.inl h
      · exact Or.inr (Or.inl fun hmem => h (List.mem_cons_of_mem _ hmem))
      · simp at h
    · rw [readers_other _ _ _ hread] at hreaders
      rw [setter_next_read hread]
      exact hreaders
  · by_cases hop : ∀ r, op = .upsertWorkflow r → r.summary.workflowId ≠ id
    · rw [setter_next_stored hop] at hstored
      obtain ⟨hread, hu, hfresh⟩ := hinv hstored
      refine ⟨?_, stateIs_other hop hu, by simp [hfresh]⟩
      cases op <;> simp [setter, hread]
    · push Not at hop
      obtain ⟨r, rfl, hid⟩ := hop
      obtain ⟨hread, hr⟩ := hallows hid
      exact ⟨hread, hr ▸ stateIs_upsert hid u, by simp [ledger, writes_upsert hid]⟩

theorem ReadBefore.readingOnce_step {hasRead : Bool}
    (h : ReadBefore env id state u k hasRead ((false, op, (handle env op u).2) :: rest))
    (hallows : (readingOnce id).allows hasRead op) :
    ReadBefore env id state (handle env op u).2 k
      ((readingOnce id).next hasRead op (handle env op u).1) rest := by
  obtain ⟨fresh₁, fresh₂, hiso, hreaders, hinv⟩ := h
  refine ⟨_, _, hiso.2, ?_, fun hstored => ?_⟩
  · by_cases hread : op = .getWorkflow id
    · subst hread
      exact Or.inl (by simp [readingOnce])
    · rw [readers_other _ _ _ hread] at hreaders
      rw [readingOnce_next_other hread]
      exact hreaders
  · obtain ⟨hkread, hu, hfresh⟩ := hinv hstored
    by_cases hop : ∀ r, op = .upsertWorkflow r → r.summary.workflowId ≠ id
    · refine ⟨hkread, stateIs_other hop hu, ?_⟩
      -- The first call has read the record already, so the second one does not read it now.
      have hread : op ≠ .getWorkflow id := by
        rintro rfl
        rw [readers_read] at hreaders
        have hnot : hasRead = false := hallows rfl
        rcases hreaders with h | h | ⟨h, -⟩
        · exact absurd (hnot.symm.trans h) Bool.false_ne_true
        · exact h List.mem_cons_self
        · exact absurd (hkread.symm.trans h).symm Bool.false_ne_true
      have hlist : op ≠ .listAllWorkflows := by
        rintro rfl
        exact hallows
      simp [ledger, hfresh, reads_eq_false hread hlist]
    · push Not at hop
      obtain ⟨r, rfl, hid⟩ := hop
      have hfresh₂ := hiso.1 (writes_upsert hid)
      exact absurd (hfresh.symm.trans hfresh₂) Bool.false_ne_true

variable {first second : SharedCall} {w t : World} {trace : Trace} {a b : Answer}

/-- The other call sets no state: it reads the record again before it writes, and then it
sees the new state. -/
theorem state_kept_respecting (hfirst : first.workflowId = id) (hsecond : second.workflowId = id)
    (hstate : first.target = some state) (hsets : second.setsState = false)
    (run : Program.Interleaved (handle env) (first.program env) (second.program env) w trace a b t)
    (hisolated : (ledger env id).Isolated trace) {response : WorkflowActionResponse}
    (hanswer : a = .action response) (hok : response.ok = true) : StateIs id state t := by
  have hinitial : Shown env id state w ⟨false, false⟩ none trace :=
    ⟨false, false, hisolated, fun h => absurd h Bool.false_ne_true⟩
  let Rel := fun (_ : Trace) (u : World) (k : Setter) (seen : Option WorkflowLifecycleState)
    (rest : Trace) =>
    Shown env id state u k seen rest
  obtain ⟨k, seen, hk, -, fresh₁, fresh₂, -, hend⟩ := Program.Interleaved.preserves
    (M := setter id state) (N := respecting id)
    (fun _ u _ _ op _ h hallows => ⟨repliesKeyed_handle env op u, h.setter_step hallows⟩)
    (fun _ u _ _ op _ h hallows =>
      ⟨repliesKeyed_handle env op u, h.respecting_step (target_cases hstate) hallows⟩)
    run (setter_program hstate hfirst) (respecting_program hsets hsecond)
    (show Rel [] w ⟨false, false⟩ none trace from hinitial)
  exact (hend (hk response hanswer hok)).1

/-- The other call sets the state and has read the record before: it cannot write any more. -/
theorem state_kept_readingOnce (hfirst : first.workflowId = id) (hstate : first.target = some state)
    (hsets : second.setsState = true)
    (run : Program.Interleaved (handle env) (first.program env) (second.program env) w trace a b t)
    (hisolated : (ledger env id).Isolated trace)
    (hlast : (readers id trace).head? = some false ∨ false ∉ readers id trace)
    {response : WorkflowActionResponse} (hanswer : a = .action response)
    (hok : response.ok = true) :
    StateIs id state t := by
  have hinitial : ReadBefore env id state w ⟨false, false⟩ false trace :=
    ⟨false, false, hisolated, by simpa [or_comm] using hlast, fun h => absurd h Bool.false_ne_true⟩
  let Rel := fun (_ : Trace) (u : World) (k : Setter) (hasRead : Bool) (rest : Trace) =>
    ReadBefore env id state u k hasRead rest
  obtain ⟨k, hasRead, hk, -, fresh₁, fresh₂, -, -, hend⟩ := Program.Interleaved.preserves
    (M := setter id state) (N := readingOnce id)
    (fun _ u _ _ op _ h hallows => ⟨repliesKeyed_handle env op u, h.setter_step hallows⟩)
    (fun _ _ _ _ _ _ h hallows => ⟨trivial, h.readingOnce_step hallows⟩)
    run (setter_program hstate hfirst) (readingOnce_program hsets)
    (show Rel [] w ⟨false, false⟩ false trace from hinitial)
  exact (hend (hk response hanswer hok)).2.1

theorem stateKept (hfirst : first.workflowId = id) (hsecond : second.workflowId = id)
    (run : Program.Interleaved (handle env) (first.program env) (second.program env) w trace a b t)
    (hisolated : (ledger env id).Isolated trace) : StateKept id true first second a trace t := by
  intro state response hstate hanswer hok hlast
  cases hsets : second.setsState with
  | false => exact state_kept_respecting hfirst hsecond hstate hsets run hisolated hanswer hok
  | true => exact state_kept_readingOnce hfirst hstate hsets run hisolated (hlast hsets) hanswer hok

theorem readers_swap (id : WorkflowId) (trace : Trace) :
    readers id (Program.swapTrace (S := calls) trace) = (readers id trace).map not := by
  simp only [readers, Program.swapTrace, List.filter_map, List.map_map]
  rfl

theorem StateKept.of_swap {call other : SharedCall} {answer : Answer}
    (h : StateKept id true call other answer (Program.swapTrace (S := calls) trace) t) :
    StateKept id false call other answer trace t := by
  intro state response hstate hanswer hok hlast
  refine h state response hstate hanswer hok fun hsets => ?_
  rw [readers_swap]
  rcases hlast hsets with hhead | hnone
  · left
    simp [List.head?_map, hhead]
  · right
    simpa using hnone

end States

end TaskOrchestrator.System
