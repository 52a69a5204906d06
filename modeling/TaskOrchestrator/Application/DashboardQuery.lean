import Mathlib.Data.Nat.Bitwise
import TaskOrchestrator.Application.HttpTransport
import TaskOrchestrator.Optimizer.NlpParser

/-!
# The query of a dashboard request

A character of a target stands for a byte. Each parameter has two accepted names, and the first
parameter of the query with one of them counts.
-/

namespace TaskOrchestrator.Http

open Protocol Library

set_option autoImplicit false

structure GetOperatorDashboardRequest where
  selectedWorkflowId : WorkflowId := ""
  workflowQuery : String := ""
  auth : ClientAuthContext := {}
  workflowPageSize : Int := 0
  maxEvents : Int := 0
  maxPlanVersions : Int := 0
  maxAuditEntries : Int := 0

def hexDigit (digit : Char) : Option Nat :=
  if '0' ≤ digit ∧ digit ≤ '9' then some (digit.toNat - '0'.toNat)
  else if 'a' ≤ digit ∧ digit ≤ 'f' then some (10 + (digit.toNat - 'a'.toNat))
  else if 'A' ≤ digit ∧ digit ≤ 'F' then some (10 + (digit.toNat - 'A'.toNat))
  else none

def decodeQueryComponent : List Char → List Char
  | [] => []
  | c :: rest =>
    if c = '+' then ' ' :: decodeQueryComponent rest
    else if c = '%' then
      match rest with
      | first :: second :: after =>
        match hexDigit first, hexDigit second with
        | some high, some low => Char.ofNat ((high <<< 4) ||| low) :: decodeQueryComponent after
        | _, _ => c :: decodeQueryComponent (first :: second :: after)
      | short => c :: decodeQueryComponent short
    else c :: decodeQueryComponent rest

def queryPairs : List Char → List (List Char)
  | [] => [[]]
  | c :: rest =>
    if c = '&' then [] :: queryPairs rest
    else match queryPairs rest with
      | [] => [[c]]
      | pair :: others => (c :: pair) :: others

def queryValue (query : List Char) (snakeCaseKey : List Char) (camelCaseKey : List Char := []) :
    Option (List Char) :=
  (queryPairs query).findSome? fun pair =>
    let (key, value) := Optimizer.cutAt '=' pair
    if key = snakeCaseKey ∨ (camelCaseKey ≠ [] ∧ key = camelCaseKey)
      then some (decodeQueryComponent value) else none

def queryInt32 (query : List Char) (snakeCaseKey : List Char)
    (camelCaseKey : List Char := []) : Int :=
  match queryValue query snakeCaseKey camelCaseKey with
  | none => 0
  | some value => if value = [] then 0 else (Optimizer.stoi value).toOption.getD 0

def makeOperatorDashboardRequest (requestQuery : List Char) (request : HttpRequest)
    (secureTransport : Bool) :
    GetOperatorDashboardRequest where
  selectedWorkflowId :=
    String.ofList
      ((queryValue requestQuery "selected_workflow_id".toList "selectedWorkflowId".toList).getD [])
  workflowQuery :=
    String.ofList ((queryValue requestQuery "workflow_query".toList "workflowQuery".toList).getD [])
  auth := applyTransportAuth request secureTransport {}
  workflowPageSize := queryInt32 requestQuery "workflow_page_size".toList "workflowPageSize".toList
  maxEvents := queryInt32 requestQuery "max_events".toList "maxEvents".toList
  maxPlanVersions := queryInt32 requestQuery "max_plan_versions".toList "maxPlanVersions".toList
  maxAuditEntries := queryInt32 requestQuery "max_audit_entries".toList "maxAuditEntries".toList

def byteChar (b : UInt8) : Char := Char.ofNat b.toNat

def byteText (bytes : List UInt8) : List Char := bytes.map byteChar

def isPlain (c : Char) : Bool := c.isAlphanum || c ∈ "*-._~".toList

inductive FormEncoded : List UInt8 → List Char → Prop where
  | nil : FormEncoded [] []
  | blank {bytes : List UInt8} {text : List Char} (hrest : FormEncoded bytes text) :
    FormEncoded (0x20 :: bytes) ('+' :: text)
  | plain {b : UInt8} {bytes : List UInt8} {text : List Char} (hplain : isPlain (byteChar b) = true)
      (hrest : FormEncoded bytes text) : FormEncoded (b :: bytes) (byteChar b :: text)
  | escaped {b : UInt8} {first second : Char} {bytes : List UInt8} {text : List Char}
      (hfirst : hexDigit first = some (b.toNat / 16))
      (hsecond : hexDigit second = some (b.toNat % 16))
      (hrest : FormEncoded bytes text) : FormEncoded (b :: bytes) ('%' :: first :: second :: text)

structure Parameter where
  text : List Char
  noSeparator : '&' ∉ text

def Parameter.name (parameter : Parameter) : List Char := (Optimizer.cutAt '=' parameter.text).1

def queryOf (parameters : List Parameter) : List Char :=
  ['&'].intercalate (parameters.map Parameter.text)

/-- The parameter is one of the query's, and none before it has one of the names. -/
def FirstNamed (names : List (List Char)) (parameter : Parameter)
    (parameters : List Parameter) : Prop :=
  ∃ front back, parameters = front ++ parameter :: back ∧ ∀ other ∈ front, other.name ∉ names

theorem decodeQueryComponent_plus (rest : List Char) :
    decodeQueryComponent ('+' :: rest) = ' ' :: decodeQueryComponent rest := by
  conv_lhs => unfold decodeQueryComponent
  exact if_pos rfl

theorem decodeQueryComponent_cons {c : Char} (hplus : c ≠ '+') (hpercent : c ≠ '%')
    (rest : List Char) :
    decodeQueryComponent (c :: rest) = c :: decodeQueryComponent rest := by
  conv_lhs => unfold decodeQueryComponent
  exact (if_neg hplus).trans (if_neg hpercent)

theorem decodeQueryComponent_escape {first second : Char} {high low : Nat}
    (hfirst : hexDigit first = some high) (hsecond : hexDigit second = some low)
    (rest : List Char) :
    decodeQueryComponent ('%' :: first :: second :: rest) =
      Char.ofNat ((high <<< 4) ||| low) :: decodeQueryComponent rest := by
  conv_lhs => unfold decodeQueryComponent
  rw [if_neg (by decide), if_pos rfl]
  simp only [hfirst, hsecond]

/-- A text without plus and percent signs stands for itself. -/
theorem decodeQueryComponent_eq_self {text : List Char} (hplus : '+' ∉ text)
    (hpercent : '%' ∉ text) :
    decodeQueryComponent text = text := by
  induction text with
  | nil => rfl
  | cons c rest ih =>
    have hc : c ≠ '+' := fun h => hplus (h ▸ List.mem_cons_self)
    have hd : c ≠ '%' := fun h => hpercent (h ▸ List.mem_cons_self)
    rw [decodeQueryComponent_cons hc hd,
      ih (fun h => hplus (List.mem_cons_of_mem _ h)) fun h => hpercent (List.mem_cons_of_mem _ h)]

theorem joinDigits (b : UInt8) :
    Char.ofNat (((b.toNat / 16) <<< 4) ||| (b.toNat % 16)) = byteChar b := by
  have hlow : b.toNat % 16 < 2 ^ 4 := Nat.mod_lt _ (by decide)
  rw [← Nat.shiftLeft_add_eq_or_of_lt hlow, Nat.shiftLeft_eq, Nat.div_add_mod', byteChar]

theorem FormEncoded.decode {bytes : List UInt8} {text : List Char} (h : FormEncoded bytes text) :
    decodeQueryComponent text = byteText bytes := by
  induction h with
  | nil => rfl
  | blank hrest ih =>
    rw [decodeQueryComponent_plus, ih]
    rfl
  | @plain b bytes text hplain hrest ih =>
    have hplus : byteChar b ≠ '+' := fun h => absurd (h ▸ hplain) (by decide)
    have hpercent : byteChar b ≠ '%' := fun h => absurd (h ▸ hplain) (by decide)
    rw [decodeQueryComponent_cons hplus hpercent, ih]
    rfl
  | @escaped b first second bytes text hfirst hsecond hrest ih =>
    rw [decodeQueryComponent_escape hfirst hsecond, joinDigits, ih]
    rfl

theorem queryPairs_of_no_separator {pair : List Char} (h : '&' ∉ pair) :
    queryPairs pair = [pair] := by
  induction pair with
  | nil => rfl
  | cons c rest ih =>
    have hc : c ≠ '&' := fun hc => h (hc ▸ List.mem_cons_self)
    rw [queryPairs, if_neg hc, ih fun hrest => h (List.mem_cons_of_mem _ hrest)]

theorem queryPairs_append {pair : List Char} (h : '&' ∉ pair) (rest : List Char) :
    queryPairs (pair ++ '&' :: rest) = pair :: queryPairs rest := by
  induction pair with
  | nil => rfl
  | cons c pair ih =>
    have hc : c ≠ '&' := fun hc => h (hc ▸ List.mem_cons_self)
    rw [List.cons_append, queryPairs, if_neg hc, ih fun hrest => h (List.mem_cons_of_mem _ hrest)]

theorem queryPairs_queryOf {parameters : List Parameter} (h : parameters ≠ []) :
    queryPairs (queryOf parameters) = parameters.map Parameter.text := by
  induction parameters with
  | nil => exact absurd rfl h
  | cons parameter rest ih =>
    cases rest with
    | nil => simpa [queryOf] using queryPairs_of_no_separator parameter.noSeparator
    | cons second rest =>
      have hquery : queryOf (parameter :: second :: rest) = parameter.text ++
          '&' :: queryOf (second :: rest) := by
        simp [queryOf, List.intercalate]
      rw [hquery, queryPairs_append parameter.noSeparator, ih (List.cons_ne_nil _ _)]
      rfl

theorem cutAt_append {name value : List Char} (h : '=' ∉ name) :
    Optimizer.cutAt '=' (name ++ '=' :: value) = (name, value) := by
  have hall : ∀ c ∈ name, decide (c ≠ '=') = true := fun c hc => decide_eq_true fun hequals =>
    h (hequals ▸ hc)
  rw [Optimizer.cutAt, List.takeWhile_append_of_pos hall, List.dropWhile_append_of_pos hall]
  simp

/-- The value of the first parameter with one of the two names is found and decoded. -/
theorem queryValue_queryOf {snakeCaseKey camelCaseKey name value : List Char}
    {parameter : Parameter} {parameters : List Parameter}
    (hfirst : FirstNamed [snakeCaseKey, camelCaseKey] parameter parameters)
    (htext : parameter.text = name ++ '=' :: value) (hequals : '=' ∉ name)
    (hname : name = snakeCaseKey ∨ (camelCaseKey ≠ [] ∧ name = camelCaseKey)) :
    queryValue (queryOf parameters) snakeCaseKey camelCaseKey =
    some (decodeQueryComponent value) := by
  obtain ⟨front, back, rfl, hfront⟩ := hfirst
  have hnone : (front.map Parameter.text).findSome? (fun pair =>
      let (key, value) := Optimizer.cutAt '=' pair
      if key = snakeCaseKey ∨ (camelCaseKey ≠ [] ∧ key = camelCaseKey)
        then some (decodeQueryComponent value)
      else none) = none := by
    rw [List.findSome?_eq_none_iff]
    intro pair hpair
    obtain ⟨other, hother, rfl⟩ := List.mem_map.mp hpair
    have hnames := hfront other hother
    rw [List.mem_cons, List.mem_singleton, not_or] at hnames
    exact if_neg (not_or.mpr ⟨hnames.1, fun h => hnames.2 h.2⟩)
  rw [queryValue, queryPairs_queryOf (by simp), List.map_append, List.findSome?_append,
    List.map_cons, hnone, Option.none_or, List.findSome?_cons, htext, cutAt_append hequals]
  dsimp only
  rw [if_pos hname]

/-- The encoded fields of a dashboard request are read back, whatever other parameters there are, as
long as no parameter before a field has one of the two names of the field. -/
theorem dashboardQuery_roundTrip {path : List Char} (hpath : '?' ∉ path)
    {selectedBytes queryBytes : List UInt8} {selectedText queryText : List Char}
    (hselected : FormEncoded selectedBytes selectedText) (hquery : FormEncoded queryBytes queryText)
    {parameters : List Parameter} {selectedWorkflowId workflowQuery : Parameter}
    (hselectedText : selectedWorkflowId.text = "selectedWorkflowId".toList ++ '=' :: selectedText)
    (hqueryText : workflowQuery.text = "workflowQuery".toList ++ '=' :: queryText)
    (hselectedFirst : FirstNamed ["selected_workflow_id".toList, "selectedWorkflowId".toList]
      selectedWorkflowId parameters)
    (hqueryFirst : FirstNamed ["workflow_query".toList, "workflowQuery".toList] workflowQuery
      parameters)
    (request : HttpRequest) (secureTransport : Bool) (text : List Char) :
    (splitTarget (path ++ '?' :: queryOf parameters)).1 = path ∧
      (makeOperatorDashboardRequest (splitTarget (path ++ '?' :: queryOf parameters)).2 request
        secureTransport).selectedWorkflowId = String.ofList (byteText selectedBytes) ∧
      (makeOperatorDashboardRequest (splitTarget (path ++ '?' :: queryOf parameters)).2 request
        secureTransport).workflowQuery = String.ofList (byteText queryBytes) ∧
      ('+' ∉ text → '%' ∉ text → decodeQueryComponent text = text) := by
  rw [splitTarget_query hpath]
  refine ⟨rfl, ?_, ?_, decodeQueryComponent_eq_self⟩
  · rw [makeOperatorDashboardRequest, queryValue_queryOf hselectedFirst hselectedText (by decide)
      (by decide), Option.getD_some, hselected.decode]
  · rw [makeOperatorDashboardRequest, queryValue_queryOf hqueryFirst hqueryText (by decide)
      (by decide), Option.getD_some, hquery.decode]

def pageSizeParameter : Parameter := ⟨"workflow_page_size=7".toList, by decide⟩

def selectedParameter : Parameter := ⟨"selectedWorkflowId=lane+%c3%9F".toList, by decide⟩

def queryParameter : Parameter := ⟨"workflowQuery=q".toList, by decide⟩

def mixedParameters : List Parameter := [pageSizeParameter, queryParameter, selectedParameter]

def bareRequest : HttpRequest := { method := .get, target := [] }

theorem selectedParameter_encoded :
    FormEncoded [0x6C, 0x61, 0x6E, 0x65, 0x20, 0xC3, 0x9F] "lane+%c3%9F".toList :=
  .plain (by decide) (.plain (by decide) (.plain (by decide) (.plain (by decide) (.blank
    (.escaped (by decide) (by decide) (.escaped (by decide) (by decide) .nil))))))

theorem mixedParameters_roundTrip :
    (splitTarget ("/v1/operator/dashboard".toList ++ '?' :: queryOf mixedParameters)).1 =
        "/v1/operator/dashboard".toList ∧
      (makeOperatorDashboardRequest
        (splitTarget ("/v1/operator/dashboard".toList ++ '?' :: queryOf mixedParameters)).2
          bareRequest
        true).selectedWorkflowId = String.ofList
          (byteText [0x6C, 0x61, 0x6E, 0x65, 0x20, 0xC3, 0x9F]) ∧
      (makeOperatorDashboardRequest
        (splitTarget ("/v1/operator/dashboard".toList ++ '?' :: queryOf mixedParameters)).2
        bareRequest true).workflowQuery = String.ofList (byteText [0x71]) ∧
      ('+' ∉ "w-1".toList → '%' ∉ "w-1".toList →
        decodeQueryComponent "w-1".toList = "w-1".toList) := by
  have hselected :
    FirstNamed ["selected_workflow_id".toList, "selectedWorkflowId".toList] selectedParameter
      mixedParameters := ⟨[pageSizeParameter, queryParameter], [], rfl, by decide⟩
  have hquery : FirstNamed ["workflow_query".toList, "workflowQuery".toList] queryParameter
      mixedParameters :=
    ⟨[pageSizeParameter], [selectedParameter], rfl, by decide⟩
  exact dashboardQuery_roundTrip (by decide) selectedParameter_encoded
    (.plain (by decide) .nil : FormEncoded [0x71] ['q']) (by decide)
    (by decide) hselected hquery bareRequest true
    "w-1".toList

def snakeCaseParameter : Parameter := ⟨"selected_workflow_id=x".toList, by decide⟩

def camelCaseParameter : Parameter := ⟨"selectedWorkflowId=s".toList, by decide⟩

/-- A parameter with the other accepted name of the selected workflow wins when it comes first. -/
theorem snakeCaseName_wins :
    (splitTarget ("/v1/operator/dashboard".toList ++
        '?' :: queryOf [snakeCaseParameter, camelCaseParameter, queryParameter])).1 =
          "/v1/operator/dashboard".toList ∧
      (makeOperatorDashboardRequest (splitTarget ("/v1/operator/dashboard".toList ++
        '?' :: queryOf [snakeCaseParameter, camelCaseParameter, queryParameter])).2 bareRequest
        true).selectedWorkflowId = "x" ∧
      FormEncoded [0x73] ['s'] ∧ camelCaseParameter.text = "selectedWorkflowId".toList ++
        '=' :: ['s'] ∧
      snakeCaseParameter.name ≠ "selectedWorkflowId".toList := by
  have hfirst : FirstNamed ["selected_workflow_id".toList, "selectedWorkflowId".toList]
      snakeCaseParameter
      [snakeCaseParameter, camelCaseParameter, queryParameter] := ⟨[], _, rfl, by decide⟩
  have htext : snakeCaseParameter.text = "selected_workflow_id".toList ++ '=' :: ['x'] := by decide
  rw [splitTarget_query (by decide)]
  refine ⟨rfl, ?_, .plain (by decide) .nil, by decide, by decide⟩
  rw [makeOperatorDashboardRequest, queryValue_queryOf hfirst htext (by decide) (by decide)]
  rfl

end TaskOrchestrator.Http
