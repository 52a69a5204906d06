import TaskOrchestrator.Application.LaunchConfig
import TaskOrchestrator.Application.RuntimeService

/-!
# From the security section to the service

A service asks for a credential exactly if its mode is one of the two that do and the credential it
expects is not empty. A configuration that is loaded with such a section and with an interface
gives such a service.
-/

namespace TaskOrchestrator.App

open Protocol (AuthMode SecurityConfig ClientAuthContext SubmitWorkflowRequest ReorchestrateRequest)
open Library (Dictionary)

set_option autoImplicit false

def NoCredentials (auth : ClientAuthContext) : Prop := auth.bearerToken = "" ∧ auth.apiKey = ""

/-- A request with neither a bearer token nor an API key fails and leaves the sessions as they are. -/
structure RejectsAnonymous (security : SecurityConfig)
    (optimize : WorkflowConfig → RunResult) : Prop where
  submit : ∀ (request : SubmitWorkflowRequest) (sessions : Sessions), NoCredentials request.auth →
    (consumeFinalResponse (streamSubmitWorkflow security optimize request sessions).1).ok = false ∧
      (streamSubmitWorkflow security optimize request sessions).2 = sessions
  reorchestrate : ∀ (request : ReorchestrateRequest) (sessions : Sessions),
    NoCredentials request.auth →
    (consumeFinalResponse (streamReorchestrate security optimize request sessions).1).ok = false ∧
      (streamReorchestrate security optimize request sessions).2 = sessions

/-- The service compares with a credential that no anonymous request has. -/
def AsksForCredential (security : SecurityConfig) : Prop :=
  security.mode ≠ .none ∧ security.expectedCredential ≠ ""

theorem authorize_anonymous {security : SecurityConfig} (h : AsksForCredential security)
    {auth : ClientAuthContext} (hauth : NoCredentials auth) :
    (authorize security auth).ok = false := by
  obtain ⟨hmode, hcredential⟩ := h
  obtain ⟨htoken, hkey⟩ := hauth
  unfold authorize
  split_ifs with hsecure hbearer hapi
  · rfl
  · rfl
  · rfl
  · -- a mode that is left would be none
    cases hkind : security.mode with
    | none => exact absurd hkind hmode
    | bearerToken => exact absurd (by simp [hkind, htoken, hcredential.symm]) hbearer
    | apiKey => exact absurd (by simp [hkind, hkey, hcredential.symm]) hapi

theorem authorize_secure {security : SecurityConfig} (h : ¬ AsksForCredential security) :
    (authorize security { secureTransport := true }).ok = true := by
  unfold AsksForCredential at h
  unfold authorize
  cases hkind : security.mode with
  | none => simp
  | bearerToken =>
    have hempty : security.expectedCredential = "" := by simpa [hkind] using h
    simp [hempty]
  | apiKey =>
    have hempty : security.expectedCredential = "" := by simpa [hkind] using h
    simp [hempty]

theorem rejectsAnonymous_iff {security : SecurityConfig} {optimize : WorkflowConfig → RunResult} :
    RejectsAnonymous security optimize ↔ AsksForCredential security := by
  constructor
  · intro h
    by_contra hopen
    have hok := authorize_secure hopen
    let request : SubmitWorkflowRequest := { config := {}, auth := { secureTransport := true } }
    obtain ⟨-, hsessions⟩ := h.submit request .empty ⟨rfl, rfl⟩
    have hlookup :=
      congrArg (fun sessions =>
        (Dictionary.lookup sessions (toAppWorkflow request.config).id).isSome) hsessions
    simp [streamSubmitWorkflow, request, hok, Dictionary.lookup_assign] at hlookup
  · intro h
    refine ⟨fun request sessions hauth => ?_, fun request sessions hauth => ?_⟩
    · have hdenied := authorize_anonymous h hauth
      simp [streamSubmitWorkflow, hdenied, consumeFinalResponse, makeResponseEvent]
    · have hdenied := authorize_anonymous h hauth
      simp [streamReorchestrate, hdenied, consumeFinalResponse, makeResponseEvent]

def YamlNode.text? (node : YamlNode) (key : String) : Option String :=
  (node.get key).join.bind YamlNode.asString

theorem YamlNode.text?_eq_some {node : YamlNode} {key text : String}
    (h : node.text? key = some text) :
    ∃ child, node.get key = some (some child) ∧ child.asString = some text := by
  obtain ⟨child, hchild, htext⟩ := Option.bind_eq_some_iff.mp h
  exact ⟨child, Option.join_eq_some_iff.mp hchild, htext⟩

section Loaded

variable (yaml : YamlCpp) (asSize : String → Option Nat)

/-- The service section of a document, the node next to which the other sections are looked for, and
what is loaded. -/
inductive LoadsService : String → YamlNode → YamlNode → ApplicationLaunchConfig → Prop where
  | launch {content : String} {root serviceNode : YamlNode} (hload : yaml.load content = some root)
      (hroot : root.isMap = true) (hsection : launchSection root = some serviceNode) :
      LoadsService content serviceNode root (loadLaunchConfigFromString yaml asSize content)
  | application {content : String} {root applicationNode serviceNode : YamlNode}
    (hload : yaml.load content = some root)
      (hroot : root.isMap = true) (happlication : findApplicationNode root = some applicationNode)
      (hservice : findServiceNode applicationNode = some serviceNode) :
      LoadsService content serviceNode applicationNode
        (loadApplicationConfigFromString yaml asSize content).service

variable {yaml asSize}

theorem parseServiceYaml_security {serviceNode root : YamlNode} {config : ApplicationLaunchConfig}
    (h : parseServiceYaml yaml asSize serviceNode root = some config)
    (hstarts : config.hasEnabledInterface = true) :
    (findSecurityNode serviceNode root).bind (parseSecurity yaml) = some config.security := by
  unfold parseServiceYaml at h
  split_ifs at h
  · simp only [Option.bind_eq_bind, Option.bind_eq_some_iff, Option.pure_def, Option.some.injEq]
      at h
    obtain ⟨security, hsecurity, _, -, _, -, _, -, _, -, _, -, rfl⟩ := h
    simpa only [Option.bind_eq_some_iff] using hsecurity
  · obtain rfl := Option.some.inj h
    exact absurd hstarts (by decide)

theorem parseApplicationService_security {applicationNode serviceNode : YamlNode}
    {config : ApplicationLaunchConfig}
    (hservice : findServiceNode applicationNode = some serviceNode)
    (h : parseApplicationService yaml asSize applicationNode = some config)
    (hstarts : config.hasEnabledInterface = true) :
    (findSecurityNode serviceNode applicationNode).bind (parseSecurity yaml) =
      some config.security := by
  unfold parseApplicationService at h
  simp only [hservice, Option.bind_eq_bind, Option.bind_some, Option.bind_eq_some_iff,
    Option.pure_def, Option.some.injEq] at h
  obtain ⟨loaded, hloaded, request, -, rfl⟩ := h
  rw [withBootstrapRequest_hasEnabledInterface] at hstarts
  rw [withBootstrapRequest_security]
  exact parseServiceYaml_security hloaded hstarts

theorem parseApplicationYaml_security {root applicationNode serviceNode : YamlNode}
    {application : ApplicationConfig} (hroot : root.isMap = true)
    (happlication : findApplicationNode root = some applicationNode)
    (hservice : findServiceNode applicationNode = some serviceNode)
    (h : parseApplicationYaml yaml asSize root = some application)
    (hstarts : application.service.hasEnabledInterface = true) :
    (findSecurityNode serviceNode applicationNode).bind (parseSecurity yaml) =
      some application.service.security := by
  unfold parseApplicationYaml at h
  rw [if_pos hroot] at h
  simp only [happlication, Option.bind_eq_bind, Option.bind_some, Option.bind_eq_some_iff] at h
  obtain ⟨configured, -, h⟩ := h
  split_ifs at h
  · simp only [Option.bind_eq_some_iff, Option.pure_def, Option.some.injEq] at h
    obtain ⟨_, -, _, -, service, hparsed, rfl⟩ := h
    exact parseApplicationService_security hservice hparsed hstarts
  · obtain rfl := Option.some.inj h
    exact absurd hstarts (by decide)

theorem loadsService_security {content : String} {serviceNode root : YamlNode}
    {config : ApplicationLaunchConfig}
    (h : LoadsService yaml asSize content serviceNode root config)
    (hstarts : config.hasEnabledInterface = true) :
    (findSecurityNode serviceNode root).bind (parseSecurity yaml) = some config.security := by
  cases h with
  | launch hload hroot hsection =>
    have hparse : (yaml.load content).bind (parseLaunchYaml yaml asSize) =
        parseServiceYaml yaml asSize serviceNode root := by
      rw [hload, Option.bind_some, parseLaunchYaml, hroot, hsection]
    unfold loadLaunchConfigFromString at hstarts ⊢
    rw [hparse] at hstarts ⊢
    cases hservice : parseServiceYaml yaml asSize serviceNode root with
    | none =>
      rw [hservice] at hstarts
      exact absurd hstarts (by decide)
    | some config =>
      rw [hservice] at hstarts
      exact parseServiceYaml_security hservice hstarts
  | application hload hroot happlication hservice =>
    rename_i document
    unfold loadApplicationConfigFromString at hstarts ⊢
    rw [hload, Option.bind_some] at hstarts ⊢
    cases hparse : parseApplicationYaml yaml asSize document with
    | none =>
      rw [hparse] at hstarts
      exact absurd hstarts (by decide)
    | some application =>
      rw [hparse] at hstarts
      exact parseApplicationYaml_security hroot happlication hservice hparse hstarts

theorem parseSecurity_asksForCredential {securityNode : YamlNode} {security : SecurityConfig}
    (h : parseSecurity yaml (some securityNode) = some security) {mode credential : String}
    (hmode : securityNode.text? "mode" = some mode)
    (hknown : mode = "bearer_token" ∨ mode = "api_key")
    (hcredential : securityNode.text? "expected_credential" = some credential)
    (hne : credential ≠ "") :
    AsksForCredential security := by
  obtain ⟨modeNode, hmodeNode, hmodeText⟩ := YamlNode.text?_eq_some hmode
  obtain ⟨credentialNode, hcredentialNode, hcredentialText⟩ := YamlNode.text?_eq_some hcredential
  cases securityNode with
  | null | scalar | sequence => exact absurd hmodeNode (by simp [YamlNode.get])
  | map entries =>
    have hauth : parseAuthMode (some (.map entries)) =
        some (if mode = "bearer_token" then .bearerToken
          else if mode = "api_key" then .apiKey else .none) := by
      simp [parseAuthMode, hmodeNode, hmodeText]
    have hexpected : (YamlNode.map entries).fieldOr "expected_credential" YamlNode.asString "" =
        some credential := by
      simp [YamlNode.fieldOr, hcredentialNode, hcredentialText]
    simp only [parseSecurity, hauth, hexpected, Option.bind_eq_bind, Option.bind_some,
      Option.bind_eq_some_iff, Option.pure_def, Option.some.injEq] at h
    obtain ⟨requireSecureTransport, -, rfl⟩ := h
    refine ⟨?_, hne⟩
    rcases hknown with rfl | rfl
    · exact AuthMode.noConfusion
    · exact AuthMode.noConfusion

/-- Authentication that is configured is asked for. -/
theorem configured_authentication_kept (optimize : WorkflowConfig → RunResult) {content : String}
    {serviceNode root securityNode : YamlNode} {config : ApplicationLaunchConfig}
    {mode credential : String} (hloads : LoadsService yaml asSize content serviceNode root config)
    (hsecurity : findSecurityNode serviceNode root = some (some securityNode))
    (hmode : securityNode.text? "mode" = some mode)
    (hknown : mode = "bearer_token" ∨ mode = "api_key")
    (hcredential : securityNode.text? "expected_credential" = some credential)
    (hne : credential ≠ "") (hstarts : config.hasEnabledInterface = true) :
    RejectsAnonymous config.security optimize := by
  have hparsed := loadsService_security hloads hstarts
  rw [hsecurity, Option.bind_some] at hparsed
  exact rejectsAnonymous_iff.mpr
    (parseSecurity_asksForCredential hparsed hmode hknown hcredential hne)

end Loaded

/-- The service section of a document in serve mode, with a command line. -/
def serveSection (security : List (String × YamlNode)) : YamlNode :=
  .map [("security", .map security),
    ("interfaces", .map [("cli", .map [("enabled", .scalar "true")])])]

def serveApplication (security : List (String × YamlNode)) : YamlNode :=
  .map [("mode", .scalar "serve"), ("service", serveSection security)]

def yamlOf (content : String) (document : YamlNode) : YamlCpp where
  load text := if text = content then some document else none
  asInt64 _ := none
  asInt32 _ := none
  asDouble _ := none
  asBool text := if text = "true" then some true else if text = "false" then some false else none

theorem load_yamlOf (content : String) (document : YamlNode) :
    (yamlOf content document).load content = some document :=
  if_pos rfl

theorem loadsService_serve (content : String) (security : List (String × YamlNode))
    (asSize : String → Option Nat) :
    LoadsService (yamlOf content (.map [("application", serveApplication security)])) asSize content
      (serveSection security) (serveApplication security)
      (loadApplicationConfigFromString
        (yamlOf content (.map [("application", serveApplication security)])) asSize
        content).service :=
  .application (load_yamlOf _ _) rfl rfl rfl

def bearerSection : List (String × YamlNode) :=
  [("mode", .scalar "bearer_token"), ("expected_credential", .scalar "local-dev-key")]

def bearerContent : String :=
  "application:\n  mode: serve\n  service:\n    security:\n      mode: bearer_token\n" ++
  "      expected_credential: local-dev-key\n    interfaces:\n      cli:\n        enabled: true\n"

theorem configured_authentication_kept_bearer :
    RejectsAnonymous (loadApplicationConfigFromString
      (yamlOf bearerContent (.map [("application", serveApplication bearerSection)]))
      (fun _ => none) bearerContent).service.security fun _ => {} :=
  configured_authentication_kept _ (loadsService_serve bearerContent bearerSection _) rfl rfl
    (Or.inl rfl) rfl (by decide) (by rw [loadApplicationConfigFromString, load_yamlOf]; rfl)

def unknownModeSection : List (String × YamlNode) := [("mode", .scalar "bearer")]

def unknownModeContent : String :=
  "application:\n  mode: serve\n  service:\n    security:\n      mode: bearer\n" ++
  "    interfaces:\n      cli:\n        enabled: true\n"

/-- A mode that is not known opens the service. -/
theorem unknown_mode_open :
    ¬ ∀ (yaml : YamlCpp) (asSize : String → Option Nat) (optimize : WorkflowConfig → RunResult)
    (content : String) (serviceNode root securityNode : YamlNode) (config : ApplicationLaunchConfig)
    (mode : String), LoadsService yaml asSize content serviceNode root config →
    findSecurityNode serviceNode root = some (some securityNode) → securityNode.text? "mode" =
    some mode → mode ≠ "none" → config.hasEnabledInterface = true →
    RejectsAnonymous config.security optimize := by
  intro hall
  have hrejects :=
    hall _ (fun _ => none) (fun _ => {}) unknownModeContent _ _ (.map unknownModeSection) _ "bearer"
    (loadsService_serve unknownModeContent unknownModeSection _) rfl rfl (by decide)
    (by rw [loadApplicationConfigFromString, load_yamlOf]; rfl)
  rw [loadApplicationConfigFromString, load_yamlOf] at hrejects
  exact (rejectsAnonymous_iff.mp hrejects).1 rfl

end TaskOrchestrator.App
