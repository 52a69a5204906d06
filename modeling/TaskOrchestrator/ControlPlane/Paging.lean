import TaskOrchestrator.ControlPlane.Store
import TaskOrchestrator.Library.Paging
import TaskOrchestrator.Library.Text
import TaskOrchestrator.Optimizer.NlpParser

/-!
# Listing and searching workflows

`list_workflows` and `search_workflows` select the summaries of the matching records in a fixed
order and return a page of them. A page token is the offset of the page in decimal digits.
-/

namespace TaskOrchestrator.ControlPlane

open Protocol Library

set_option autoImplicit false

structure ListWorkflowsRequest where
  pageSize : Int := 0
  pageToken : String := ""
  states : List WorkflowLifecycleState := []

structure SearchWorkflowsRequest where
  query : String := ""
  pageSize : Int := 0
  pageToken : String := ""
  states : List WorkflowLifecycleState := []

/-- `ListWorkflowsResponse` and `SearchWorkflowsResponse` have the same fields. -/
structure WorkflowsResponse where
  workflows : List WorkflowSummary := []
  nextPageToken : String := ""
  deriving DecidableEq

def kDefaultPageSize : Nat := 50

def normalizePageSize (requestedPageSize : Int) : Nat :=
  if requestedPageSize ≤ 0 then kDefaultPageSize else requestedPageSize.toNat

/-- `std::stoull`: a minus sign negates the number modulo 2^64. -/
def stoull (text : List Char) : Option Nat :=
  match Text.readInt (text.dropWhile Optimizer.isSpace) with
  | none => none
  | some n => if n.natAbs < 2 ^ 64 then some (n % 2 ^ 64).toNat else none

def parsePageToken (pageToken : String) : Nat :=
  if pageToken = "" then 0 else (stoull pageToken.toList).getD 0

/-- The conversion of a `size_t` to an `int64`. -/
def toInt64 (n : Nat) : Int := Int.bmod n (2 ^ 64)

/-- `LIMIT` and `OFFSET`: a negative limit is none, and a negative offset is zero. -/
def limitOffset {α : Type} (limit offset : Int) (rows : List α) : List α :=
  let rest := rows.drop offset.toNat
  if limit < 0 then rest else rest.take limit.toNat

/-- `instr`: the number of characters before the first occurrence and one, or zero. -/
def instr (text pattern : List Char) : Nat :=
  match text.tails.findIdx? fun rest => pattern.isPrefixOf rest with
  | some before => before + 1
  | none => 0

def stateMatches (states : List WorkflowLifecycleState) (workflow : WorkflowRecord) : Bool :=
  states.isEmpty || workflow.summary.state ∈ states

def queryMatches (query : String) (workflow : WorkflowRecord) : Bool :=
  query = "" || instr workflow.summary.workflowId.toList query.toList > 0 ||
    instr workflow.summary.lastErrorMessage.toList query.toList > 0

/-- The page of the summaries that match. One row more than the page has is selected. -/
def selectPage (store : Store) (matching : WorkflowRecord → Bool) (requestedPageSize : Int)
    (pageToken : String) :
    WorkflowsResponse :=
  let pageSize := normalizePageSize requestedPageSize
  let offset := parsePageToken pageToken
  let selected := limitOffset (toInt64 (pageSize + 1)) (toInt64 offset)
    (((store.records.rows.filter matching).insertionSort Store.RecordBefore).map
      WorkflowRecord.summary)
  { workflows := selected.take pageSize
    nextPageToken :=
    if pageSize < selected.length then toString ((offset + pageSize) % 2 ^ 64) else "" }

def listWorkflows (store : Store) (request : ListWorkflowsRequest) : WorkflowsResponse :=
  selectPage store (stateMatches request.states) request.pageSize request.pageToken

def searchWorkflows (store : Store) (request : SearchWorkflowsRequest) : WorkflowsResponse :=
  selectPage store (fun workflow =>
    stateMatches request.states workflow && queryMatches request.query workflow)
    request.pageSize request.pageToken

theorem normalizePageSize_pos (requestedPageSize : Int) :
    0 < normalizePageSize requestedPageSize := by
  unfold normalizePageSize kDefaultPageSize
  split_ifs
  · omega
  · omega

theorem toList_toString (n : Nat) :
    (toString n).toList = Nat.toDigits 10 n := by simp [toString, Nat.repr]

theorem toString_ne_empty (n : Nat) : toString n ≠ "" := by
  intro h
  have hdigits : Nat.toDigits 10 n = [] := by
    rw [← toList_toString, h]
    rfl
  exact Nat.toDigits_ne_nil hdigits

theorem parsePageToken_toString {n : Nat} (hn : n < 2 ^ 64) : parsePageToken (toString n) = n := by
  have hblank : (Nat.toDigits 10 n).dropWhile Optimizer.isSpace = Nat.toDigits 10 n := by
    cases hdigits : Nat.toDigits 10 n with
    | nil => rfl
    | cons c rest =>
      have hc : c.isDigit = true := Text.toDigits_isDigit n c (hdigits ▸ List.mem_cons_self)
      rw [List.dropWhile_cons_of_neg (by simp [Optimizer.isSpace_of_isDigit hc])]
  have hread : Text.readInt (Nat.toDigits 10 n) = some (n : Int) := by
    have h := @Text.readInt_writeInt n [] (by simp)
    rwa [List.append_nil] at h
  rw [parsePageToken, if_neg (toString_ne_empty n), stoull, toList_toString, hblank, hread]
  have habs : (n : Int).natAbs < 2 ^ 64 := by simpa using hn
  simp only [habs, if_true, Option.getD_some]
  omega

theorem toInt64_eq {n : Nat} (hn : n < 2 ^ 63) : toInt64 n = n := by
  unfold toInt64
  exact Int.bmod_eq_of_le (by omega) (by omega)

theorem instr_pos_iff (text pattern : List Char) : 0 < instr text pattern ↔ pattern <:+: text := by
  have hfound : (∃ rest ∈ text.tails, pattern.isPrefixOf rest = true) ↔ pattern <:+: text := by
    simp only [List.mem_tails, List.isPrefixOf_iff_prefix]
    constructor
    · rintro ⟨rest, hsuffix, hprefix⟩
      exact hprefix.isInfix.trans hsuffix.isInfix
    · rintro ⟨before, after, rfl⟩
      refine ⟨pattern ++ after, ⟨before, by simp⟩, ⟨after, rfl⟩⟩
  rw [← hfound, instr]
  cases hindex : text.tails.findIdx? fun rest => pattern.isPrefixOf rest with
  | none =>
    have hnone := List.findIdx?_eq_none_iff.mp hindex
    simp only [Nat.lt_irrefl, false_iff, not_exists, not_and]
    intro rest hrest
    simp [hnone rest hrest]
  | some before =>
    obtain ⟨hlt, hprefix, -⟩ := List.findIdx?_eq_some_iff_getElem.mp hindex
    simp only [Nat.succ_pos, true_iff]
    exact ⟨_, List.getElem_mem hlt, hprefix⟩

/-- The state is one of those given, if any are. -/
def HasState (states : List WorkflowLifecycleState) (workflow : WorkflowRecord) : Prop :=
  states = [] ∨ workflow.summary.state ∈ states

def Contains (query : String) (workflow : WorkflowRecord) : Prop :=
  query.toList <:+: workflow.summary.workflowId.toList ∨
    query.toList <:+: workflow.summary.lastErrorMessage.toList

theorem stateMatches_iff (states : List WorkflowLifecycleState) (workflow : WorkflowRecord) :
    stateMatches states workflow = true ↔ HasState states workflow := by
  simp [stateMatches, HasState]

theorem queryMatches_iff (query : String) (workflow : WorkflowRecord) :
    queryMatches query workflow = true ↔ Contains query workflow := by
  unfold queryMatches Contains
  by_cases hempty : query = ""
  · subst hempty
    simp
  · simp [hempty, instr_pos_iff]

def matchingRecords (store : Store) (matching : WorkflowRecord → Bool) : List WorkflowRecord :=
  (store.records.rows.filter matching).insertionSort Store.RecordBefore

instance : Std.Total Store.RecordBefore where
  total a b := by
    rcases lt_trichotomy a.summary.updatedAtUnixMs b.summary.updatedAtUnixMs with h | h | h
    · exact Or.inr (Or.inl h)
    · rcases String.le_total a.summary.workflowId b.summary.workflowId with hid | hid
      · exact Or.inl (Or.inr ⟨h, hid⟩)
      · exact Or.inr (Or.inr ⟨h.symm, hid⟩)
    · exact Or.inl (Or.inl h)

instance : IsTrans WorkflowRecord Store.RecordBefore where
  trans a b c := by
    rintro (hab | ⟨hab, hids⟩) (hbc | ⟨hbc, hids'⟩)
    · exact Or.inl (by omega)
    · exact Or.inl (by omega)
    · exact Or.inl (by omega)
    · exact Or.inr ⟨hab.trans hbc, String.le_trans hids hids'⟩

theorem pairwise_matchingRecords (store : Store) (matching : WorkflowRecord → Bool) :
    (matchingRecords store matching).Pairwise Store.RecordBefore :=
  List.pairwise_insertionSort _ _

theorem mem_matchingRecords {store : Store} {matching : WorkflowRecord → Bool}
    {workflow : WorkflowRecord} :
    workflow ∈ matchingRecords store matching ↔
      workflow ∈ store.records.rows ∧ matching workflow = true := by
  rw [matchingRecords, List.mem_insertionSort, List.mem_filter]

theorem nodup_matchingRecords (store : Store) (matching : WorkflowRecord → Bool) :
    ((matchingRecords store matching).map recordKey).Nodup := by
  have hperm :=
    (List.perm_insertionSort Store.RecordBefore (store.records.rows.filter matching)).map recordKey
  exact hperm.nodup_iff.mpr (store.records.nodup.sublist ((List.filter_sublist).map recordKey))

theorem length_matchingRecords_le (store : Store) (matching : WorkflowRecord → Bool) :
    (matchingRecords store matching).length ≤ store.records.rows.length := by
  rw [matchingRecords, List.length_insertionSort]
  exact List.length_filter_le _ _

/-- A page of a store that SQLite can hold is what the offset and the page size say. -/
theorem selectPage_eq (store : Store) (matching : WorkflowRecord → Bool) {requestedPageSize : Int}
    (hsize : requestedPageSize < 2 ^ 31) (hrows : store.records.rows.length < 2 ^ 63)
    {pageToken : String}
    (htoken : parsePageToken pageToken ≤ (matchingRecords store matching).length) :
    selectPage store matching requestedPageSize pageToken =
      let summaries := (matchingRecords store matching).map WorkflowRecord.summary
      let offset := parsePageToken pageToken
      let pageSize := normalizePageSize requestedPageSize
      { workflows := (summaries.drop offset).take pageSize
        nextPageToken := if offset + pageSize < summaries.length then toString (offset + pageSize)
        else "" } := by
  have hlength := length_matchingRecords_le store matching
  have hpage : normalizePageSize requestedPageSize < 2 ^ 31 := by
    unfold normalizePageSize kDefaultPageSize
    split_ifs
    · omega
    · omega
  have hlimit : toInt64 (normalizePageSize requestedPageSize + 1) =
      normalizePageSize requestedPageSize + 1 :=
    toInt64_eq (by omega)
  have hoffset : toInt64 (parsePageToken pageToken) = parsePageToken pageToken :=
    toInt64_eq (by omega)
  have hselected : ∀ summaries : List WorkflowSummary,
      limitOffset (toInt64 (normalizePageSize requestedPageSize + 1))
        (toInt64 (parsePageToken pageToken)) summaries =
        (summaries.drop (parsePageToken pageToken)).take
          (normalizePageSize requestedPageSize + 1) := by
    intro summaries
    rw [hlimit, hoffset, limitOffset]
    split_ifs
    · omega
    · rfl
  unfold selectPage
  simp only [hselected, List.take_take, List.length_take, List.length_drop, List.length_map]
  rw [WorkflowsResponse.mk.injEq]
  constructor
  · rw [min_eq_left (by omega)]
    rfl
  · by_cases hmore : parsePageToken pageToken + normalizePageSize requestedPageSize <
        (matchingRecords store matching).length
    · rw [if_pos hmore, if_pos (lt_min (by omega) (by unfold matchingRecords at hmore; omega)),
        Nat.mod_eq_of_lt (by omega)]
    · rw [if_neg hmore, if_neg]
      unfold matchingRecords at hmore
      omega

/-- The pages that are fetched by following the tokens from the empty one until it comes back. -/
def Fetches (fetch : String → WorkflowsResponse) : List (List WorkflowSummary) → Prop :=
  Paging.Follows (fun token => (fetch token).workflows)
    (fun token => (fetch token).nextPageToken) "" ""

/-- Following the tokens ends, in one way, and every matching record is in one of the pages, each
once and in the order of the listing. -/
def Enumerates (store : Store) (matching : WorkflowRecord → Prop)
    (fetch : String → WorkflowsResponse) : Prop :=
  ∃ pages, Fetches fetch pages ∧ (∀ others, Fetches fetch others → others = pages) ∧
    ∃ records : List WorkflowRecord, pages.flatten = records.map WorkflowRecord.summary ∧
      records.Pairwise Store.RecordBefore ∧ (records.map recordKey).Nodup ∧
      ∀ workflow, workflow ∈ records ↔ workflow ∈ store.records.rows ∧ matching workflow

theorem selectPage_enumerates (store : Store) (matching : WorkflowRecord → Bool)
    {requestedPageSize : Int} (hsize : requestedPageSize < 2 ^ 31)
    (hrows : store.records.rows.length < 2 ^ 63) :
    Enumerates store (fun workflow => matching workflow = true)
      (selectPage store matching requestedPageSize) := by
  have hlength := length_matchingRecords_le store matching
  have hserves : Paging.Serves ((matchingRecords store matching).map WorkflowRecord.summary)
      (normalizePageSize requestedPageSize) parsePageToken toString ""
      (fun token => (selectPage store matching requestedPageSize token).workflows)
      (fun token => (selectPage store matching requestedPageSize token).nextPageToken) := by
    refine ⟨fun token htoken => ?_, fun token htoken => ?_, fun k hk => ?_, toString_ne_empty⟩
    · rw [selectPage_eq store matching hsize hrows (by simpa using htoken)]
    · rw [selectPage_eq store matching hsize hrows (by simpa using htoken)]
    · rw [List.length_map] at hk
      exact parsePageToken_toString (by omega)
  obtain ⟨pages, hpages, hflatten⟩ :=
    hserves.follows (normalizePageSize_pos requestedPageSize) "" (by simp [parsePageToken])
  refine ⟨pages, hpages, fun others hothers => hothers.unique hpages,
    matchingRecords store matching, ?_, pairwise_matchingRecords store matching,
    nodup_matchingRecords store matching, fun workflow => mem_matchingRecords⟩
  rw [hflatten]
  rfl

/-- Listing and searching enumerate every match once, for every page size of 32 bits and every
store that SQLite can hold: its row ids are the positive numbers of 64 bits. -/
theorem pages_enumerate_matches (store : Store) (hrows : store.records.rows.length < 2 ^ 63)
    (pageSize : Int) (hsize : pageSize < 2 ^ 31) (states : List WorkflowLifecycleState)
    (query : String) :
    Enumerates store (HasState states)
        (fun token =>
          listWorkflows store { pageSize := pageSize, pageToken := token, states := states }) ∧
      Enumerates store (fun workflow => HasState states workflow ∧ Contains query workflow)
        (fun token =>
          searchWorkflows store
          { query := query, pageSize := pageSize, pageToken := token, states := states }) := by
  constructor
  · have h := selectPage_enumerates store (stateMatches states) hsize hrows
    simp only [stateMatches_iff] at h
    exact h
  · have h := selectPage_enumerates store
      (fun workflow => stateMatches states workflow && queryMatches query workflow) hsize hrows
    simp only [Bool.and_eq_true, stateMatches_iff, queryMatches_iff] at h
    exact h

def fourWorkflows : Store :=
  [("a", 1), ("b", 3), ("c", 2), ("d", 3)].foldl (fun store entry => store.upsertWorkflow
    { summary :=
        { workflowId := entry.1
          state := if entry.1 = "c" then .cancelled else .planned
          updatedAtUnixMs := entry.2 } }) (.initial "boot")

theorem fourWorkflows_enumerated :
    Enumerates fourWorkflows (HasState [.planned])
        (fun token =>
          listWorkflows fourWorkflows { pageSize := 2, pageToken := token, states := [.planned] }) ∧
      Enumerates fourWorkflows (fun workflow => HasState [] workflow ∧ Contains "d" workflow)
        (fun token =>
          searchWorkflows fourWorkflows { query := "d", pageSize := -1, pageToken := token }) :=
  ⟨(pages_enumerate_matches fourWorkflows (by decide) 2 (by decide) [.planned] "").1,
    (pages_enumerate_matches fourWorkflows (by decide) (-1) (by decide) [] "d").2⟩

example : listWorkflows fourWorkflows { pageSize := 2, states := [.planned] } =
    { workflows :=
        [{ workflowId := "b", state := .planned, updatedAtUnixMs := 3 },
          { workflowId := "d", state := .planned, updatedAtUnixMs := 3 }]
      nextPageToken := "2" } := by decide +kernel

end TaskOrchestrator.ControlPlane
