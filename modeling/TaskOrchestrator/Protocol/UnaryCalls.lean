import TaskOrchestrator.Protocol.StreamingClient
import Mathlib.Logic.Function.Basic

/-!
# Unary calls

The call objects of `AsyncUnaryServerCall` for one method, the workers that run the service for
them, and the `UnaryClientCall` of each client. A call object that gets a request makes the next
one, so that there are as many as there were requests. Its tags are all its own address. The
critical sections of the workers and the completions are steps and interleave in any order, also
with the end of the completion queue, which `stop` resets when all tags have come back. The
transport hands a request to at most one call object, may fail at any time, and reports success only
with what the call has finished with.
-/

namespace TaskOrchestrator.Grpc

open Library Protocol

set_option autoImplicit false

def kBearerPrefix : List Char := "Bearer ".toList

structure ClientMetadata where
  authorization : Option (List Char) := none
  apiKey : Option String := none

/-- `apply_metadata_auth`: the metadata fills in what the request leaves empty. -/
def applyMetadataAuth (metadata : ClientMetadata) (secureTransport : Bool)
    (auth : ClientAuthContext) :
    ClientAuthContext where
  bearerToken :=
    match metadata.authorization with
    | some value =>
      if auth.bearerToken = "" ∧ kBearerPrefix.isPrefixOf value
        then String.ofList (value.drop kBearerPrefix.length)
      else auth.bearerToken
    | none => auth.bearerToken
  apiKey :=
    match metadata.apiKey with
    | some value => if auth.apiKey = "" then value else auth.apiKey
    | none => auth.apiKey
  secureTransport := secureTransport

structure GrpcClientOptions where
  bearerToken : String := ""
  apiKey : String := ""

def populateClientContext (options : GrpcClientOptions) : ClientMetadata where
  authorization :=
    if options.bearerToken ≠ "" then some (kBearerPrefix ++ options.bearerToken.toList) else none
  apiKey := if options.apiKey ≠ "" then some options.apiKey else none

theorem applyMetadataAuth_populate (options : GrpcClientOptions) (secureTransport : Bool)
    (auth : ClientAuthContext) :
    applyMetadataAuth (populateClientContext options) secureTransport auth =
      { bearerToken := if auth.bearerToken = "" then options.bearerToken else auth.bearerToken
        apiKey := if auth.apiKey = "" then options.apiKey else auth.apiKey
        secureTransport := secureTransport } := by
  have hprefixed : kBearerPrefix.isPrefixOf (kBearerPrefix ++ options.bearerToken.toList) = true :=
    by simp
  unfold applyMetadataAuth populateClientContext
  by_cases htoken : options.bearerToken = ""
  · by_cases hkey : options.apiKey = ""
    · simp [htoken, hkey]
    · simp [htoken, hkey]
  · by_cases hkey : options.apiKey = ""
    · simp [htoken, hkey, hprefixed]
    · simp [htoken, hkey, hprefixed]

inductive UnaryState where
  | requesting
  | waitingForResponse
  | finishing
  | completed
  deriving DecidableEq

/-- The operations of a call whose completion the queue reports. -/
inductive UnaryTag where
  | request
  | alarm
  | finish
  deriving DecidableEq

/-- What a worker does next for a call: the first or the second critical section of
`execute_request`, or the release of its reference. -/
inductive Work where
  | respond
  | notify
  | release
  deriving DecidableEq

/-- A call object with the tags that are outstanding. `request` is the client and the effective
request, `finishedWith` what was passed to `Finish`, and `deletions` counts how often the object was
deleted. -/
structure UnaryCall (ι Request : Type) where
  state : UnaryState := .requesting
  request : Option (ι × Request) := none
  response : Option RuntimeApiResponse := none
  notificationPending : Bool := false
  references : Nat := 1
  outstanding : List UnaryTag := [.request]
  work : Option Work := none
  finishedWith : Option RuntimeApiResponse := none
  deletions : Nat := 0

namespace UnaryCall

variable {ι Request : Type}

def addReference (call : UnaryCall ι Request) : UnaryCall ι Request :=
  { call with references := call.references + 1 }

def releaseReference (call : UnaryCall ι Request) : UnaryCall ι Request :=
  { call with
    references := call.references - 1
    deletions := if call.references = 1 then call.deletions + 1 else call.deletions }

/-- `schedule_notification`; the server may have no completion queue any more. -/
def scheduleNotification (call : UnaryCall ι Request) (completionQueue : Bool) :
    UnaryCall ι Request :=
  if call.notificationPending ∨ completionQueue = false then call
  else { call with notificationPending := true, outstanding := call.outstanding ++ [.alarm] }

/-- The request of a client has come. The worker has a reference of its own. -/
def accept (call : UnaryCall ι Request) (client : ι) (effectiveRequest : Request) :
    UnaryCall ι Request :=
  addReference { call with
    state := .waitingForResponse
    request := some (client, effectiveRequest)
    work := some .respond }

def handleResponseReady (call : UnaryCall ι Request) : UnaryCall ι Request :=
  { call with
    notificationPending := false
    state := .finishing
    finishedWith := call.response
    outstanding := call.outstanding ++ [.finish] }

/-- `proceed`, but for a request that has come. -/
def proceed (call : UnaryCall ι Request) (ok : Bool) : UnaryCall ι Request :=
  match call.state with
  | .requesting => call.releaseReference
  | .waitingForResponse =>
    if ok = false then releaseReference { call with state := .completed }
      else call.handleResponseReady
  | .finishing => releaseReference { call with state := .completed }
  | .completed => call.releaseReference

def complete (call : UnaryCall ι Request) (tag : UnaryTag) (ok : Bool) : UnaryCall ι Request :=
  proceed { call with outstanding := call.outstanding.erase tag } ok

end UnaryCall

/-- `UnaryClientCall`, with the number of values that its promise was given. -/
structure UnaryClient where
  started : Bool := false
  sent : Bool := false
  finishOutstanding : Bool := false
  promise : Option RuntimeApiResponse := none
  promiseSets : Nat := 0
  deletions : Nat := 0

namespace UnaryClient

def setAndDelete (client : UnaryClient) (response : RuntimeApiResponse) : UnaryClient :=
  { client with
    promise := some response
    promiseSets := client.promiseSets + 1
    deletions := client.deletions + 1 }

/-- `start`; the reader may not be there. -/
def start (client : UnaryClient) (reader : Bool) : UnaryClient :=
  if reader = false then
    setAndDelete { client with started := true }
      (makeTransportErrorResponse
        "gRPC transport failed: asynchronous response reader is not initialized.")
  else { client with started := true, sent := true, finishOutstanding := true }

def complete (client : UnaryClient) (ok : Bool) (status : Status)
    (response : RuntimeApiResponse) : UnaryClient :=
  let client := { client with finishOutstanding := false }
  if ok = false then
    client.setAndDelete
      (makeTransportErrorResponse "gRPC transport failed: asynchronous completion queue shutdown.")
  else if status.ok = false then
    client.setAndDelete
      (makeTransportErrorResponse ("gRPC transport failed: " ++ status.errorMessage))
  else client.setAndDelete response

end UnaryClient

/-- What the calls of one method have in common: the service, how the credentials of a request are
changed, whether the server uses TLS, and the request and the options of each client. -/
structure UnaryMethod (σ ι Request : Type) where
  answer : σ → Request → RuntimeApiResponse × σ
  mapAuth : (ClientAuthContext → ClientAuthContext) → Request → Request
  useTls : Bool
  request : ι → Request
  options : ι → GrpcClientOptions

def UnaryMethod.effectiveRequest {σ ι Request : Type} (method : UnaryMethod σ ι Request)
    (client : ι) : Request :=
  method.mapAuth (applyMetadataAuth (populateClientContext (method.options client)) method.useTls)
    (method.request client)

structure Execution (ι Request : Type) where
  client : ι
  request : Request
  response : RuntimeApiResponse

/-- The server and its clients. The call objects are numbered as they are made, and
`completionQueue` tells whether the server has its queue. -/
structure UnaryRpcs (σ ι Request : Type) where
  service : σ
  completionQueue : Bool := true
  created : Nat := 1
  calls : Nat → UnaryCall ι Request := fun _ => {}
  clients : ι → UnaryClient := fun _ => {}
  executed : List (Execution ι Request) := []

namespace UnaryRpcs

variable {σ ι Request : Type}

/-- What happens at either end. `accept` is the return of a request tag with the request of a
client, `complete` the return of any other tag, or of a request tag at shutdown, and `resetQueue`
the end of `stop`. -/
inductive Action (ι : Type) where
  | start (client : ι) (reader : Bool)
  | accept (id : Nat) (client : ι)
  | complete (id : Nat) (tag : UnaryTag) (ok : Bool)
  | work (id : Nat)
  | resetQueue
  | clientComplete (client : ι) (ok : Bool) (status : Status) (response : RuntimeApiResponse)

section Steps

variable [DecidableEq ι] (method : UnaryMethod σ ι Request)

def setCall (rpcs : UnaryRpcs σ ι Request) (id : Nat) (call : UnaryCall ι Request) :
    UnaryRpcs σ ι Request :=
  { rpcs with calls := Function.update rpcs.calls id call }

def setClient (rpcs : UnaryRpcs σ ι Request) (client : ι) (state : UnaryClient) :
    UnaryRpcs σ ι Request :=
  { rpcs with clients := Function.update rpcs.clients client state }

/-- A request has come, and the object makes the next one, which requests in its place. -/
def accept (rpcs : UnaryRpcs σ ι Request) (id : Nat) (client : ι) : UnaryRpcs σ ι Request :=
  let call := { rpcs.calls id with outstanding := (rpcs.calls id).outstanding.erase .request }
  { (rpcs.setCall rpcs.created {}).setCall id
    (call.accept client (method.effectiveRequest client)) with
    created := rpcs.created + 1 }

def doWork (rpcs : UnaryRpcs σ ι Request) (id : Nat) : UnaryRpcs σ ι Request :=
  let call := rpcs.calls id
  match call.work, call.request with
  | some .respond, some (client, request) =>
    let answered := method.answer rpcs.service request
    { rpcs.setCall id { call with response := some answered.1, work := some .notify } with
      service := answered.2
      executed := rpcs.executed ++ [{ client, request, response := answered.1 }] }
  | some .notify, _ =>
    rpcs.setCall id { call.scheduleNotification rpcs.completionQueue with work := some .release }
  | some .release, _ => rpcs.setCall id { call.releaseReference with work := none }
  | _, _ => rpcs

def step (rpcs : UnaryRpcs σ ι Request) : Action ι → UnaryRpcs σ ι Request
  | .start client reader => rpcs.setClient client ((rpcs.clients client).start reader)
  | .accept id client => rpcs.accept method id client
  | .complete id tag ok => rpcs.setCall id ((rpcs.calls id).complete tag ok)
  | .work id => rpcs.doWork method id
  | .resetQueue => { rpcs with completionQueue := false }
  | .clientComplete client ok status response =>
    rpcs.setClient client ((rpcs.clients client).complete ok status response)

end Steps

def Accepted (rpcs : UnaryRpcs σ ι Request) (client : ι) : Prop :=
  ∃ id < rpcs.created, ((rpcs.calls id).request.map Prod.fst) = some client

def FinishedWith (rpcs : UnaryRpcs σ ι Request) (client : ι)
    (response : RuntimeApiResponse) : Prop :=
  ∃ id < rpcs.created, ((rpcs.calls id).request.map Prod.fst) = some client ∧
    (rpcs.calls id).finishedWith = some response

/-- What the queues, the workers and the transport may do. The threads of the server's queue end,
and the queue is reset, when it is drained. -/
def Possible (rpcs : UnaryRpcs σ ι Request) : Action ι → Prop
  | .start client _ => (rpcs.clients client).started = false
  | .accept id client =>
    id < rpcs.created ∧ .request ∈ (rpcs.calls id).outstanding ∧ (rpcs.clients client).sent = true ∧
      ¬ rpcs.Accepted client
  | .complete id tag ok => id < rpcs.created ∧ tag ∈ (rpcs.calls id).outstanding ∧
    (tag = .request → ok = false)
  | .work id => id < rpcs.created ∧ (rpcs.calls id).work ≠ none
  | .resetQueue => ∀ id < rpcs.created, (rpcs.calls id).outstanding = []
  | .clientComplete client ok status response =>
    (rpcs.clients client).finishOutstanding = true ∧
      (ok = true → status.ok = true → rpcs.FinishedWith client response)

instance [DecidableEq ι] (rpcs : UnaryRpcs σ ι Request) (client : ι) :
    Decidable (rpcs.Accepted client) :=
  inferInstanceAs (Decidable (∃ id < rpcs.created, _))

instance [DecidableEq ι] (rpcs : UnaryRpcs σ ι Request) (client : ι)
    (response : RuntimeApiResponse) :
    Decidable (rpcs.FinishedWith client response) :=
  inferInstanceAs (Decidable (∃ id < rpcs.created, _))

instance [DecidableEq ι] (rpcs : UnaryRpcs σ ι Request) :
    (action : Action ι) → Decidable (rpcs.Possible action)
  | .start client _ => inferInstanceAs (Decidable ((rpcs.clients client).started = false))
  | .accept id client =>
    inferInstanceAs (Decidable (id < rpcs.created ∧ .request ∈ (rpcs.calls id).outstanding ∧
      (rpcs.clients client).sent = true ∧ ¬ rpcs.Accepted client))
  | .complete id tag ok =>
    inferInstanceAs (Decidable (id < rpcs.created ∧ tag ∈ (rpcs.calls id).outstanding ∧
      (tag = .request → ok = false)))
  | .work id => inferInstanceAs (Decidable (id < rpcs.created ∧ (rpcs.calls id).work ≠ none))
  | .resetQueue =>
    inferInstanceAs (Decidable (∀ id < rpcs.created, (rpcs.calls id).outstanding = []))
  | .clientComplete client ok status response => inferInstanceAs (Decidable (
      (rpcs.clients client).finishOutstanding = true ∧
        (ok = true → status.ok = true → rpcs.FinishedWith client response)))

def initial (service : σ) : UnaryRpcs σ ι Request := { service }

end UnaryRpcs

def UnaryMethod.serve {σ ι Request : Type} (method : UnaryMethod σ ι Request) :
    σ → List ι → List (Execution ι Request) × σ
  | service, [] => ([], service)
  | service, client :: rest =>
    let answered := method.answer service (method.effectiveRequest client)
    let later := method.serve answered.2 rest
    ({ client, request := method.effectiveRequest client, response := answered.1 } :: later.1,
      later.2)

theorem UnaryMethod.serve_concat {σ ι Request : Type} (method : UnaryMethod σ ι Request)
    (service : σ) (clients : List ι) (client : ι) :
    method.serve service (clients ++ [client]) =
      ((method.serve service clients).1 ++
          [{ client
             request := method.effectiveRequest client
             response :=
               (method.answer (method.serve service clients).2
                 (method.effectiveRequest client)).1 }],
        (method.answer (method.serve service clients).2 (method.effectiveRequest client)).2) := by
  induction clients generalizing service with
  | nil => rfl
  | cons first rest ih =>
    rw [List.cons_append, UnaryMethod.serve, ih]
    rfl

namespace UnaryRpcs

variable {σ ι Request : Type}

/-- What the server and its clients owe each other, where `service` is the service at the start. -/
structure Answers (method : UnaryMethod σ ι Request) (service : σ)
    (rpcs : UnaryRpcs σ ι Request) : Prop where
  /-- An object is deleted once, and then nothing comes back to it. -/
  freedOnce : ∀ id < rpcs.created, (rpcs.calls id).deletions ≤ 1 ∧
    ((rpcs.calls id).deletions = 1 → (rpcs.calls id).outstanding = [] ∧ (rpcs.calls id).work = none)
  oneTag : ∀ id < rpcs.created, (rpcs.calls id).outstanding.length ≤ 1
  /-- One object waits for the next request, until the queue is shut down. -/
  listens : ∃ id < rpcs.created,
    ((rpcs.calls id).outstanding = [.request] ∨ (rpcs.calls id).deletions = 1) ∧
    ∀ other < rpcs.created, (rpcs.calls other).state = .requesting ↔ other = id
  /-- The service has served some clients one after another, none of them twice. -/
  served : method.serve service (rpcs.executed.map Execution.client) = (rpcs.executed, rpcs.service)
  once : (rpcs.executed.map Execution.client).Nodup
  /-- A client gets the answer that the service gave to it, or an error of the transport. -/
  truthful : ∀ client response, (rpcs.clients client).promise = some response →
    (∃ detail, response = makeTransportErrorResponse detail) ∨
      ∃ execution ∈ rpcs.executed, execution.client = client ∧ execution.response = response
  promisedOnce : ∀ client, (rpcs.clients client).promiseSets = (rpcs.clients client).deletions ∧
    (rpcs.clients client).promiseSets + (rpcs.clients client).finishOutstanding.toNat =
      (rpcs.clients client).started.toNat
  /-- What a call finishes with is the answer to its request. -/
  finishes : ∀ id < rpcs.created, ∀ response, (rpcs.calls id).finishedWith = some response →
    ∃ execution ∈ rpcs.executed, (rpcs.calls id).request =
      some (execution.client, execution.request) ∧
      execution.response = response
  /-- An object that got a request is deleted after `Finish`,
  or because its alarm was cancelled at shutdown. -/
  answersFirst : ∀ id < rpcs.created, (rpcs.calls id).request ≠ none →
    (rpcs.calls id).deletions = 1 →
    (rpcs.calls id).finishedWith ≠ none ∨ (rpcs.calls id).notificationPending = true
  /-- As long as an object is there, something comes back to it,
  unless its worker has found no queue for the alarm. -/
  notStalled : ∀ id < rpcs.created, (rpcs.calls id).deletions = 0 →
    (rpcs.calls id).outstanding ≠ [] ∨ (rpcs.calls id).work ≠ none ∨
      rpcs.completionQueue = false ∧ (rpcs.calls id).state = .waitingForResponse ∧
        (rpcs.calls id).notificationPending = false

end UnaryRpcs

namespace UnaryCall

variable {ι Request : Type}

/-- The worker has only its reference left to release, or has done so. -/
def lastWork (holds : Bool) : Option Work := if holds then some .release else none

inductive Phase (completionQueue : Bool) : UnaryCall ι Request → Prop where
  | requesting : Phase completionQueue {}
  | refused : Phase completionQueue { references := 0, outstanding := [], deletions := 1 }
  | accepted (request : ι × Request) : Phase completionQueue
      { state := .waitingForResponse, request := some request, references := 2, outstanding := [],
        work := some .respond }
  | responded (request : ι × Request) (response : RuntimeApiResponse) : Phase completionQueue
      { state := .waitingForResponse, request := some request, response := some response,
        references := 2, outstanding := [], work := some .notify }
  | notified (request : ι × Request) (response : RuntimeApiResponse) (holds : Bool) :
    Phase completionQueue
      { state := .waitingForResponse, request := some request, response := some response,
        notificationPending := true, references := 1 + holds.toNat, outstanding := [.alarm],
        work := lastWork holds }
  | finishing (request : ι × Request) (response : RuntimeApiResponse) (holds : Bool) :
    Phase completionQueue
      { state := .finishing, request := some request, response := some response,
        references := 1 + holds.toNat, outstanding := [.finish],
        work := lastWork holds, finishedWith := some response }
  | finished (request : ι × Request) (response : RuntimeApiResponse) (holds : Bool) :
    Phase completionQueue
      { state := .completed, request := some request, response := some response,
        references := holds.toNat, outstanding := [], work := lastWork holds,
        finishedWith := some response, deletions := (!holds).toNat }
  /-- There was no queue for the alarm. -/
  | leftBehind (request : ι × Request) (response : RuntimeApiResponse) (holds : Bool) :
      completionQueue = false → Phase completionQueue
        { state := .waitingForResponse, request := some request, response := some response,
          references := 1 + holds.toNat, outstanding := [], work := lastWork holds }
  /-- The alarm was returned at shutdown. -/
  | cancelled (request : ι × Request) (response : RuntimeApiResponse) (holds : Bool) :
    Phase completionQueue
      { state := .completed, request := some request, response := some response,
        notificationPending := true, references := holds.toNat, outstanding := [],
        work := lastWork holds, deletions := (!holds).toNat }

variable {completionQueue : Bool} {call : UnaryCall ι Request}

/-- A tag returns to an object: what the object holds of its request and of its answer stays. -/
theorem Phase.complete (h : call.Phase completionQueue) {tag : UnaryTag} {ok : Bool}
    (htag : tag ∈ call.outstanding) (hrefused : tag = .request → ok = false) :
    (call.complete tag ok).Phase completionQueue ∧ (call.complete tag ok).request = call.request ∧
      (call.complete tag ok).response = call.response := by
  cases h with
  | requesting =>
    obtain rfl : tag = .request := List.mem_singleton.mp htag
    obtain rfl := hrefused rfl
    exact ⟨.refused, rfl, rfl⟩
  | notified request response holds =>
    obtain rfl : tag = .alarm := List.mem_singleton.mp htag
    cases ok with
    | false =>
      cases holds with
      | false => exact ⟨.cancelled request response false, rfl, rfl⟩
      | true => exact ⟨.cancelled request response true, rfl, rfl⟩
    | true => exact ⟨.finishing request response holds, rfl, rfl⟩
  | finishing request response holds =>
    obtain rfl : tag = .finish := List.mem_singleton.mp htag
    cases holds with
    | false => exact ⟨.finished request response false, rfl, rfl⟩
    | true => exact ⟨.finished request response true, rfl, rfl⟩
  | refused => exact absurd htag List.not_mem_nil
  | accepted => exact absurd htag List.not_mem_nil
  | responded => exact absurd htag List.not_mem_nil
  | finished => exact absurd htag List.not_mem_nil
  | leftBehind => exact absurd htag List.not_mem_nil
  | cancelled => exact absurd htag List.not_mem_nil

theorem Phase.eq_of_requesting (h : call.Phase completionQueue)
    (htag : UnaryTag.request ∈ call.outstanding) : call = {} := by
  cases h with
  | requesting => rfl
  | _ => exact absurd htag (by simp)

theorem Phase.state_iff (h : call.Phase completionQueue) :
    call.state = .requesting ↔ call.request = none := by
  cases h <;> simp

theorem Phase.listening (h : call.Phase completionQueue) (hnone : call.request = none) :
    call.outstanding = [.request] ∨ call.deletions = 1 := by
  cases h with
  | requesting => exact Or.inl rfl
  | refused => exact Or.inr rfl
  | _ => exact absurd hnone (by simp)

theorem Phase.response_of_finishedWith (h : call.Phase completionQueue)
    {response : RuntimeApiResponse} (hfinished : call.finishedWith = some response) :
    call.response = some response := by
  cases h with
  | finishing => exact hfinished
  | finished => exact hfinished
  | _ => exact absurd hfinished (by simp)

theorem Phase.request_of_response (h : call.Phase completionQueue) {response : RuntimeApiResponse}
    (hresponse : call.response = some response) : ∃ asked, call.request = some asked := by
  cases h with
  | requesting => exact absurd hresponse (by simp)
  | refused => exact absurd hresponse (by simp)
  | accepted => exact absurd hresponse (by simp)
  | _ => exact ⟨_, rfl⟩

theorem Phase.answersFirst (h : call.Phase completionQueue) (hrequest : call.request ≠ none)
    (hdeleted : call.deletions = 1) :
    call.finishedWith ≠ none ∨ call.notificationPending = true := by
  cases h with
  | finished => exact Or.inl (by simp)
  | cancelled => exact Or.inr rfl
  | refused => exact absurd rfl hrequest
  | _ => exact absurd hdeleted (by simp)

theorem Phase.lifetime (h : call.Phase completionQueue) :
    call.outstanding.length ≤ 1 ∧ call.deletions ≤ 1 ∧
    (call.deletions = 1 → call.outstanding = [] ∧ call.work = none) := by
  cases h with
  | finished request response holds => cases holds <;> simp [lastWork]
  | cancelled request response holds => cases holds <;> simp [lastWork]
  | _ => simp

/-- An object to which nothing comes back was deleted, or there was no queue for its alarm. -/
theorem Phase.stalled (h : call.Phase completionQueue) (htags : call.outstanding = [])
    (hwork : call.work = none) :
    call.deletions = 1 ∨
      completionQueue = false ∧ call.state = .waitingForResponse ∧
        call.notificationPending = false := by
  cases h with
  | leftBehind request response holds hqueue => exact Or.inr ⟨hqueue, rfl, rfl⟩
  | finished request response holds => cases holds <;> simp_all [lastWork]
  | cancelled request response holds => cases holds <;> simp_all [lastWork]
  | refused => exact Or.inl rfl
  | accepted => exact absurd hwork (by simp)
  | responded => exact absurd hwork (by simp)
  | _ => exact absurd htags (by simp)

theorem Phase.resetQueue (h : call.Phase completionQueue) : call.Phase false := by
  cases h with
  | requesting => exact .requesting
  | refused => exact .refused
  | accepted request => exact .accepted request
  | responded request response => exact .responded request response
  | notified request response holds => exact .notified request response holds
  | finishing request response holds => exact .finishing request response holds
  | finished request response holds => exact .finished request response holds
  | leftBehind request response holds _ => exact .leftBehind request response holds rfl
  | cancelled request response holds => exact .cancelled request response holds

/-- What a worker does after the service has answered. -/
def afterResponse (call : UnaryCall ι Request) (completionQueue : Bool) : Work → UnaryCall ι Request
  | .notify => { call.scheduleNotification completionQueue with work := some .release }
  | _ => { call.releaseReference with work := none }

/-- The steps of a worker after the service has answered keep the phase. -/
theorem Phase.afterResponse (h : call.Phase completionQueue) {next : Work}
    (hwork : call.work = some next) (hnext : next ≠ .respond) :
    (call.afterResponse completionQueue next).Phase completionQueue ∧
    (call.afterResponse completionQueue next).request = call.request ∧
      (call.afterResponse completionQueue next).response = call.response := by
  cases h with
  | responded request response =>
    obtain rfl : Work.notify = next := Option.some.inj hwork
    cases completionQueue with
    | true => exact ⟨.notified request response true, rfl, rfl⟩
    | false => exact ⟨.leftBehind request response true rfl, rfl, rfl⟩
  | notified request response holds =>
    cases holds with
    | false => exact absurd hwork (by simp [lastWork])
    | true =>
      obtain rfl : Work.release = next := Option.some.inj hwork
      exact ⟨.notified request response false, rfl, rfl⟩
  | finishing request response holds =>
    cases holds with
    | false => exact absurd hwork (by simp [lastWork])
    | true =>
      obtain rfl : Work.release = next := Option.some.inj hwork
      exact ⟨.finishing request response false, rfl, rfl⟩
  | finished request response holds =>
    cases holds with
    | false => exact absurd hwork (by simp [lastWork])
    | true =>
      obtain rfl : Work.release = next := Option.some.inj hwork
      exact ⟨.finished request response false, rfl, rfl⟩
  | leftBehind request response holds hqueue =>
    cases holds with
    | false => exact absurd hwork (by simp [lastWork])
    | true =>
      obtain rfl : Work.release = next := Option.some.inj hwork
      exact ⟨.leftBehind request response false hqueue, rfl, rfl⟩
  | cancelled request response holds =>
    cases holds with
    | false => exact absurd hwork (by simp [lastWork])
    | true =>
      obtain rfl : Work.release = next := Option.some.inj hwork
      exact ⟨.cancelled request response false, rfl, rfl⟩
  | accepted => exact absurd (Option.some.inj hwork).symm hnext
  | requesting => exact absurd hwork (by simp)
  | refused => exact absurd hwork (by simp)

theorem Phase.eq_of_respond (h : call.Phase completionQueue) (hwork : call.work = some .respond) :
    ∃ request, call =
      { state := .waitingForResponse, request := some request, references := 2, outstanding := [],
        work := some .respond } := by
  cases h with
  | accepted request => exact ⟨request, rfl⟩
  | notified request response holds => cases holds <;> exact absurd hwork (by simp [lastWork])
  | finishing request response holds => cases holds <;> exact absurd hwork (by simp [lastWork])
  | finished request response holds => cases holds <;> exact absurd hwork (by simp [lastWork])
  | leftBehind request response holds => cases holds <;> exact absurd hwork (by simp [lastWork])
  | cancelled request response holds => cases holds <;> exact absurd hwork (by simp [lastWork])
  | _ => exact absurd hwork (by simp)

end UnaryCall

namespace UnaryClient

inductive Phase : UnaryClient → Prop where
  | idle : Phase {}
  | waiting : Phase { started := true, sent := true, finishOutstanding := true }
  | answered (sent : Bool) (response : RuntimeApiResponse) :
      Phase { started := true, sent, promise := some response, promiseSets := 1, deletions := 1 }

variable {client : UnaryClient}

theorem Phase.start (h : client.Phase) (hstarted : client.started = false) (reader : Bool) :
    (client.start reader).Phase ∧ ∀ response, (client.start reader).promise = some response →
      ∃ detail, response = makeTransportErrorResponse detail := by
  cases h with
  | idle =>
    cases reader with
    | false =>
      exact ⟨.answered false _, fun response hpromise => ⟨_, (Option.some.inj hpromise).symm⟩⟩
    | true =>
      exact ⟨.waiting, fun response hpromise => absurd hpromise (by simp [UnaryClient.start])⟩
  | waiting => exact absurd hstarted (by simp)
  | answered => exact absurd hstarted (by simp)

/-- The value of the promise is the response when everything went well, and an error otherwise. -/
theorem Phase.complete (h : client.Phase) (hwaiting : client.finishOutstanding = true) (ok : Bool)
    (status : Status) (response : RuntimeApiResponse) :
    (client.complete ok status response).Phase ∧
      ∀ value, (client.complete ok status response).promise = some value →
      (∃ detail, value = makeTransportErrorResponse detail) ∨
      (ok = true ∧ status.ok = true ∧ value = response) := by
  cases h with
  | waiting =>
    obtain ⟨statusOk, errorMessage⟩ := status
    cases ok with
    | false =>
      exact ⟨.answered true _, fun value hvalue => Or.inl ⟨_, (Option.some.inj hvalue).symm⟩⟩
    | true =>
      cases statusOk with
      | false =>
        exact ⟨.answered true _, fun value hvalue => Or.inl ⟨_, (Option.some.inj hvalue).symm⟩⟩
      | true =>
        exact ⟨.answered true _, fun value hvalue =>
          Or.inr ⟨rfl, rfl, (Option.some.inj hvalue).symm⟩⟩
  | idle => exact absurd hwaiting (by simp)
  | answered => exact absurd hwaiting (by simp)

end UnaryClient

namespace UnaryRpcs

variable {σ ι Request : Type} {method : UnaryMethod σ ι Request} {service : σ}
variable {rpcs : UnaryRpcs σ ι Request}

structure Sound (method : UnaryMethod σ ι Request) (service : σ)
    (rpcs : UnaryRpcs σ ι Request) : Prop where
  phases : ∀ id < rpcs.created, (rpcs.calls id).Phase rpcs.completionQueue
  listener : ∃ id < rpcs.created, ∀ other < rpcs.created, (rpcs.calls other).request = none ↔
    other = id
  distinct : ∀ id < rpcs.created, ∀ other < rpcs.created, ∀ asked others, (rpcs.calls id).request =
    some asked → (rpcs.calls other).request = some others → asked.1 = others.1 → id = other
  effective : ∀ id < rpcs.created, ∀ asked, (rpcs.calls id).request = some asked →
    asked.2 = method.effectiveRequest asked.1
  executed : ∀ execution ∈ rpcs.executed, ∃ id < rpcs.created,
    (rpcs.calls id).request = some (execution.client, execution.request) ∧
      (rpcs.calls id).response = some execution.response
  responded : ∀ id < rpcs.created, ∀ asked response, (rpcs.calls id).request = some asked →
    (rpcs.calls id).response = some response →
      { client := asked.1, request := asked.2, response } ∈ rpcs.executed
  served : method.serve service (rpcs.executed.map Execution.client) = (rpcs.executed, rpcs.service)
  once : (rpcs.executed.map Execution.client).Nodup
  clients : ∀ client, (rpcs.clients client).Phase
  truthful : ∀ client response, (rpcs.clients client).promise = some response →
    (∃ detail, response = makeTransportErrorResponse detail) ∨
      ∃ execution ∈ rpcs.executed, execution.client = client ∧ execution.response = response

theorem initial_sound (method : UnaryMethod σ ι Request) (service : σ) :
    Sound method service (initial service : UnaryRpcs σ ι Request) where
  phases _ _ := .requesting
  listener := ⟨0, Nat.zero_lt_one, fun other hother => iff_of_true rfl (Nat.lt_one_iff.mp hother)⟩
  distinct _ _ _ _ _ _ hasked := absurd hasked (by simp [initial])
  effective _ _ _ hasked := absurd hasked (by simp [initial])
  executed _ hexecution := absurd hexecution List.not_mem_nil
  responded _ _ _ _ hasked := absurd hasked (by simp [initial])
  served := rfl
  once := List.nodup_nil
  clients _ := .idle
  truthful _ _ hpromise := absurd hpromise (by simp [initial])

theorem Sound.answers (h : Sound method service rpcs) : Answers method service rpcs where
  freedOnce id hid := by
    obtain ⟨-, hdeletions, hfreed⟩ := (h.phases id hid).lifetime
    exact ⟨hdeletions, hfreed⟩
  oneTag id hid := (h.phases id hid).lifetime.1
  listens := by
    obtain ⟨id, hid, hnone⟩ := h.listener
    refine ⟨id, hid, (h.phases id hid).listening ((hnone id hid).mpr rfl), fun other hother => ?_⟩
    rw [(h.phases other hother).state_iff]
    exact hnone other hother
  served := h.served
  once := h.once
  truthful := h.truthful
  promisedOnce client := by
    generalize hstate : rpcs.clients client = state
    have hphase := h.clients client
    rw [hstate] at hphase
    cases hphase <;> exact ⟨rfl, rfl⟩
  finishes id hid response hfinished := by
    have hresponse := (h.phases id hid).response_of_finishedWith hfinished
    obtain ⟨asked, hasked⟩ := (h.phases id hid).request_of_response hresponse
    exact ⟨_, h.responded id hid asked response hasked hresponse, hasked, rfl⟩
  answersFirst id hid := (h.phases id hid).answersFirst
  notStalled id hid hthere := by
    by_cases htags : (rpcs.calls id).outstanding = []
    · by_cases hwork : (rpcs.calls id).work = none
      · rcases (h.phases id hid).stalled htags hwork with hdeleted | hleft
        · omega
        · exact Or.inr (Or.inr hleft)
      · exact Or.inr (Or.inl hwork)
    · exact Or.inl htags

/-- A step of an object that keeps its request and its answer. -/
theorem Sound.setCall (h : Sound method service rpcs) {id : Nat} {call : UnaryCall ι Request}
    (hphase : call.Phase rpcs.completionQueue) (hrequest : call.request = (rpcs.calls id).request)
    (hresponse : call.response = (rpcs.calls id).response) :
    Sound method service (rpcs.setCall id call) := by
  have hrequests : ∀ other, ((rpcs.setCall id call).calls other).request =
      (rpcs.calls other).request := by
    intro other
    by_cases hsame : other = id
    · subst hsame
      simp only [UnaryRpcs.setCall, Function.update_self, hrequest]
    · simp only [UnaryRpcs.setCall, Function.update_of_ne hsame]
  have hresponses : ∀ other, ((rpcs.setCall id call).calls other).response =
      (rpcs.calls other).response := by
    intro other
    by_cases hsame : other = id
    · subst hsame
      simp only [UnaryRpcs.setCall, Function.update_self, hresponse]
    · simp only [UnaryRpcs.setCall, Function.update_of_ne hsame]
  have hphases : ∀ other < rpcs.created,
      ((rpcs.setCall id call).calls other).Phase rpcs.completionQueue := by
    intro other hother
    by_cases hsame : other = id
    · subst hsame
      simpa only [UnaryRpcs.setCall, Function.update_self] using hphase
    · simpa only [UnaryRpcs.setCall, Function.update_of_ne hsame] using h.phases other hother
  constructor
  · exact hphases
  · simp only [hrequests]
    exact h.listener
  · simp only [hrequests]
    exact h.distinct
  · simp only [hrequests]
    exact h.effective
  · simp only [hrequests, hresponses]
    exact h.executed
  · simp only [hrequests, hresponses]
    exact h.responded
  · exact h.served
  · exact h.once
  · exact h.clients
  · exact h.truthful

theorem Sound.setClient [DecidableEq ι] (h : Sound method service rpcs) {client : ι}
    {state : UnaryClient} (hphase : state.Phase)
    (htruthful : ∀ response, state.promise = some response →
      (∃ detail, response = makeTransportErrorResponse detail) ∨
        ∃ execution ∈ rpcs.executed, execution.client = client ∧ execution.response = response) :
    Sound method service (rpcs.setClient client state) := by
  refine { h with clients := fun other => ?_, truthful := fun other response hpromise => ?_ }
  · by_cases hsame : other = client
    · subst hsame
      simpa only [UnaryRpcs.setClient, Function.update_self] using hphase
    · simpa only [UnaryRpcs.setClient, Function.update_of_ne hsame] using h.clients other
  · by_cases hsame : other = client
    · subst hsame
      simp only [UnaryRpcs.setClient, Function.update_self] at hpromise
      exact htruthful response hpromise
    · simp only [UnaryRpcs.setClient, Function.update_of_ne hsame] at hpromise
      exact h.truthful other response hpromise

theorem Sound.clientComplete [DecidableEq ι] (h : Sound method service rpcs) {client : ι}
    {ok : Bool} {status : Status} {response : RuntimeApiResponse}
    (hpossible : rpcs.Possible (.clientComplete client ok status response)) :
    Sound method service (rpcs.step method (.clientComplete client ok status response)) := by
  obtain ⟨hwaiting, hreported⟩ := hpossible
  obtain ⟨hphase, hpromise⟩ := (h.clients client).complete hwaiting ok status response
  refine h.setClient hphase fun value hvalue => ?_
  rcases hpromise value hvalue with herror | ⟨hok, hstatus, rfl⟩
  · exact Or.inl herror
  · obtain ⟨id, hid, hclient, hfinished⟩ := hreported hok hstatus
    obtain ⟨asked, hasked, rfl⟩ := Option.map_eq_some_iff.mp hclient
    have hresponse := (h.phases id hid).response_of_finishedWith hfinished
    exact Or.inr ⟨_, h.responded id hid asked value hasked hresponse, rfl, rfl⟩

theorem Sound.not_served (h : Sound method service rpcs) {id : Nat} (hid : id < rpcs.created)
    {asked : ι × Request} (hasked : (rpcs.calls id).request = some asked)
    (hnone : (rpcs.calls id).response = none) :
    asked.1 ∉ rpcs.executed.map Execution.client := by
  intro hmem
  obtain ⟨execution, hexecution, hclient⟩ := List.mem_map.mp hmem
  obtain ⟨other, hother, hrequest, hresponse⟩ := h.executed execution hexecution
  obtain rfl := h.distinct other hother id hid _ asked hrequest hasked hclient
  exact absurd (hnone.symm.trans hresponse) (by simp)

theorem Sound.respond (h : Sound method service rpcs) {id : Nat} (hid : id < rpcs.created)
    (asked : ι × Request) (hasked : (rpcs.calls id).request = some asked)
    (hnone : (rpcs.calls id).response = none) {call : UnaryCall ι Request}
    (hphase : call.Phase rpcs.completionQueue) (hrequest : call.request = some asked)
    (hresponse : call.response = some (method.answer rpcs.service asked.2).1) :
    Sound method service
      { rpcs.setCall id call with
        service := (method.answer rpcs.service asked.2).2
        executed := rpcs.executed ++
          [{ client := asked.1, request := asked.2,
             response := (method.answer rpcs.service asked.2).1 }] } := by
  have hself : Function.update rpcs.calls id call id = call := Function.update_self _ _ _
  have hothers : ∀ other, other ≠ id →
      Function.update rpcs.calls id call other = rpcs.calls other :=
    fun other hne => Function.update_of_ne hne _ _
  have hrequests : ∀ other, (Function.update rpcs.calls id call other).request =
      (rpcs.calls other).request := by
    intro other
    by_cases hsame : other = id
    · rw [hsame, hself, hrequest, hasked]
    · rw [hothers other hsame]
  have heffective := h.effective id hid asked hasked
  constructor
  · intro other hother
    by_cases hsame : other = id
    · change (Function.update rpcs.calls id call other).Phase rpcs.completionQueue
      rw [hsame, hself]
      exact hphase
    · change (Function.update rpcs.calls id call other).Phase rpcs.completionQueue
      rw [hothers other hsame]
      exact h.phases other hother
  · simp only [UnaryRpcs.setCall, hrequests]
    exact h.listener
  · simp only [UnaryRpcs.setCall, hrequests]
    exact h.distinct
  · simp only [UnaryRpcs.setCall, hrequests]
    exact h.effective
  · intro execution hexecution
    simp only [UnaryRpcs.setCall, hrequests]
    rcases List.mem_append.mp hexecution with hold | hnew
    · obtain ⟨other, hother, hits, hanswer⟩ := h.executed execution hold
      have hsame : other ≠ id := by
        intro heq
        rw [heq, hnone] at hanswer
        exact absurd hanswer (by simp)
      exact ⟨other, hother, hits, by rw [hothers other hsame]; exact hanswer⟩
    · obtain rfl := List.mem_singleton.mp hnew
      exact ⟨id, hid, hasked, by rw [hself]; exact hresponse⟩
  · intro other hother asking answer hasking hanswer
    simp only [UnaryRpcs.setCall, hrequests] at hasking
    by_cases hsame : other = id
    · rw [hsame] at hasking
      obtain rfl : asked = asking := Option.some.inj (hasked.symm.trans hasking)
      change (Function.update rpcs.calls id call other).response = some answer at hanswer
      rw [hsame, hself, hresponse] at hanswer
      obtain rfl := Option.some.inj hanswer
      exact List.mem_append_right _ List.mem_cons_self
    · change (Function.update rpcs.calls id call other).response = some answer at hanswer
      rw [hothers other hsame] at hanswer
      exact List.mem_append_left _ (h.responded other hother asking answer hasking hanswer)
  · rw [List.map_append, List.map_singleton, UnaryMethod.serve_concat, h.served, ← heffective]
  · rw [List.map_append, List.map_singleton, List.nodup_append]
    refine ⟨h.once, by simp, fun client hclient other hother hsame => ?_⟩
    rw [hsame, List.mem_singleton.mp hother] at hclient
    exact h.not_served hid hasked hnone hclient
  · exact h.clients
  · intro client response hpromise
    rcases h.truthful client response hpromise with herror | ⟨execution, hexecution, hits⟩
    · exact Or.inl herror
    · exact Or.inr ⟨execution, List.mem_append_left _ hexecution, hits⟩

theorem Sound.doWork (h : Sound method service rpcs) {id : Nat} (hid : id < rpcs.created)
    (hwork : (rpcs.calls id).work ≠ none) : Sound method service (rpcs.doWork method id) := by
  cases hnext : (rpcs.calls id).work with
  | none => exact absurd hnext hwork
  | some next =>
    cases next with
    | respond =>
      obtain ⟨asked, hcall⟩ := (h.phases id hid).eq_of_respond hnext
      have hstep := h.respond hid asked (by rw [hcall]) (by rw [hcall])
        (.responded asked (method.answer rpcs.service asked.2).1) rfl rfl
      simpa only [UnaryRpcs.doWork, hcall] using hstep
    | notify =>
      obtain ⟨hphase, hrequest, hresponse⟩ := (h.phases id hid).afterResponse hnext (by decide)
      simpa only [UnaryRpcs.doWork, hnext, UnaryCall.afterResponse] using h.setCall hphase
        hrequest hresponse
    | release =>
      obtain ⟨hphase, hrequest, hresponse⟩ := (h.phases id hid).afterResponse hnext (by decide)
      simpa only [UnaryRpcs.doWork, hnext, UnaryCall.afterResponse] using h.setCall hphase hrequest
        hresponse

/-- A request comes, and the next object waits. -/
theorem Sound.accept (h : Sound method service rpcs) {id : Nat} {client : ι}
    (hid : id < rpcs.created) (htag : UnaryTag.request ∈ (rpcs.calls id).outstanding)
    (hnew : ¬ rpcs.Accepted client) :
    Sound method service (rpcs.accept method id client) := by
  have hcall := (h.phases id hid).eq_of_requesting htag
  have hself : (rpcs.accept method id client).calls id =
      { state := .waitingForResponse, request := some (client, method.effectiveRequest client),
        references := 2, outstanding := [], work := some .respond } := by
    simp only [UnaryRpcs.accept, UnaryRpcs.setCall, Function.update_self, hcall]
    rfl
  have hnext : (rpcs.accept method id client).calls rpcs.created = {} := by
    have hne : rpcs.created ≠ id := by omega
    simp only [UnaryRpcs.accept, UnaryRpcs.setCall, Function.update_of_ne hne, Function.update_self]
  have hothers : ∀ other < rpcs.created, other ≠ id →
      (rpcs.accept method id client).calls other = rpcs.calls other := by
    intro other hother hne
    have hold : other ≠ rpcs.created := by omega
    simp only [UnaryRpcs.accept, UnaryRpcs.setCall, Function.update_of_ne hne,
      Function.update_of_ne hold]
  -- an object is the one that got the request, the next one, or an older one
  have hcases : ∀ {P : Nat → Prop}, P id → P rpcs.created →
      (∀ other < rpcs.created, other ≠ id → P other) →
      ∀ other < rpcs.created + 1, P other := by
    intro P hPid hPnext hPothers other hother
    by_cases hsame : other = id
    · exact hsame ▸ hPid
    · by_cases hlast : other = rpcs.created
      · exact hlast ▸ hPnext
      · exact hPothers other (by omega) hsame
  have hrequested : ∀ other < rpcs.created, ∀ asked, (rpcs.calls other).request = some asked →
      other ≠ id := by
    intro other _ asked hasked heq
    rw [heq, hcall] at hasked
    exact absurd hasked (by simp)
  have hfresh : ∀ other < rpcs.created, ∀ asked, (rpcs.calls other).request = some asked →
      asked.1 ≠ client := by
    intro other hother asked hasked heq
    exact hnew ⟨other, hother, by rw [hasked, Option.map_some, heq]⟩
  obtain ⟨listener, hlistener, hnone⟩ := h.listener
  obtain rfl : id = listener := (hnone id hid).mp (by rw [hcall])
  constructor
  · refine hcases ?_ ?_ fun other hother hne => ?_
    · rw [hself]
      exact .accepted _
    · rw [hnext]
      exact .requesting
    · rw [hothers other hother hne]
      exact h.phases other hother
  · refine ⟨rpcs.created, Nat.lt_succ_self _, hcases ?_ ?_ fun other hother hne => ?_⟩
    · rw [hself]
      exact iff_of_false (by simp) (by omega)
    · rw [hnext]
      exact iff_of_true rfl rfl
    · rw [hothers other hother hne, hnone other hother]
      exact iff_of_false hne (by omega)
  · have hone : ∀ other < rpcs.created + 1, ∀ asked,
        ((rpcs.accept method id client).calls other).request = some asked →
        other = id ∧ asked.1 = client ∨
          other < rpcs.created ∧ (rpcs.calls other).request = some asked := by
      refine hcases ?_ ?_ fun other hother hne => ?_
      · intro asked hasked
        rw [hself] at hasked
        exact Or.inl ⟨rfl, by rw [← Option.some.inj hasked]⟩
      · intro asked hasked
        rw [hnext] at hasked
        exact absurd hasked (by simp)
      · intro asked hasked
        rw [hothers other hother hne] at hasked
        exact Or.inr ⟨hother, hasked⟩
    intro first hfirst second hsecond asked others hasked hotherAsked hsame
    rcases hone first hfirst asked hasked with ⟨rfl, hclient⟩ | ⟨hold, hrequest⟩
    · rcases hone second hsecond others hotherAsked with ⟨rfl, -⟩ | ⟨hold', hrequest'⟩
      · rfl
      · exact absurd (hsame.symm.trans hclient) (hfresh second hold' others hrequest')
    · rcases hone second hsecond others hotherAsked with ⟨rfl, hclient⟩ | ⟨hold', hrequest'⟩
      · exact absurd (hsame.trans hclient) (hfresh first hold asked hrequest)
      · exact h.distinct first hold second hold' asked others hrequest hrequest' hsame
  · refine hcases ?_ ?_ fun other hother hne => ?_
    · intro asked hasked
      rw [hself] at hasked
      obtain rfl := Option.some.inj hasked
      rfl
    · intro asked hasked
      rw [hnext] at hasked
      exact absurd hasked (by simp)
    · rw [hothers other hother hne]
      exact h.effective other hother
  · intro execution hexecution
    obtain ⟨other, hother, hasked, hresponse⟩ := h.executed execution hexecution
    refine ⟨other, Nat.lt_succ_of_lt hother, ?_⟩
    rw [hothers other hother (hrequested other hother _ hasked)]
    exact ⟨hasked, hresponse⟩
  · refine hcases ?_ ?_ fun other hother hne => ?_
    · intro asked response _ hresponse
      rw [hself] at hresponse
      exact absurd hresponse (by simp)
    · intro asked response hasked
      rw [hnext] at hasked
      exact absurd hasked (by simp)
    · rw [hothers other hother hne]
      exact h.responded other hother
  · exact h.served
  · exact h.once
  · exact h.clients
  · exact h.truthful

theorem Sound.resetQueue (h : Sound method service rpcs) :
    Sound method service { rpcs with completionQueue := false } :=
  { h with phases := fun id hid => (h.phases id hid).resetQueue }

theorem Sound.step [DecidableEq ι] {action : Action ι} (h : Sound method service rpcs)
    (hpossible : rpcs.Possible action) : Sound method service (rpcs.step method action) := by
  cases action with
  | start client reader =>
    obtain ⟨hphase, herror⟩ := (h.clients client).start hpossible reader
    exact h.setClient hphase fun response hpromise => Or.inl (herror response hpromise)
  | accept id client => exact h.accept hpossible.1 hpossible.2.1 hpossible.2.2.2
  | complete id tag ok =>
    obtain ⟨hid, htag, hrefused⟩ := hpossible
    obtain ⟨hphase, hrequest, hresponse⟩ := (h.phases id hid).complete htag hrefused
    exact h.setCall hphase hrequest hresponse
  | work id => exact h.doWork hpossible.1 hpossible.2
  | resetQueue => exact h.resetQueue
  | clientComplete client ok status response => exact h.clientComplete hpossible

/-- A service that counts its requests, and two clients with credentials of their own. -/
def countingMethod : UnaryMethod Nat Bool ClientAuthContext where
  answer count auth :=
    ({ ok := true, errorMessage := auth.apiKey ++ (if count = 0 then " first" else " second") },
      count + 1)
  mapAuth f := f
  useTls := false
  request _ := {}
  options client := { apiKey := if client then "a" else "b" }

/-- The second request is served first, and its worker lets go of the object after the object has
finished. The worker of the first one gets to its alarm when the queue is gone. -/
def overlappingCalls : List (Action Bool) :=
  [.start true true, .start false true, .accept 0 true, .accept 1 false, .work 1, .work 1, .work 0,
    .complete 1 .alarm true, .complete 1 .finish true, .work 1,
    .clientComplete false true {} { ok := true, errorMessage := "b first" },
      .complete 2 .request false, .resetQueue,
    .work 0, .work 0, .clientComplete true false {} {}]

end UnaryRpcs

end TaskOrchestrator.Grpc
