import TaskOrchestrator.Application.ConfigLoader

/-!
# The settings of the application

The rest of the configuration loader: security, interfaces, control plane and the request files.
A node that is not defined is `none`, apart from the one that `YAML::Node()` makes, which is null.
Reading a `std::size_t` is a parameter as the other conversions are.
-/

namespace TaskOrchestrator.App

open Protocol (AuthMode SecurityConfig)

set_option autoImplicit false

def kDefaultLoopbackAddress : String := "127.0.0.1"
def kDefaultHttpPort : Int := 8080
def kDefaultGrpcPort : Int := 9090
def kDefaultIoThreads : Nat := 2
def kDefaultMaxHttpBodyBytes : Nat := 2 ^ 20
def kDefaultCliPrompt : String := "task-orchestrator> "

inductive TlsDataSourceKind where
  | none
  | filePath
  | inlinePem
  deriving DecidableEq

structure TlsDataSource where
  kind : TlsDataSourceKind := .none
  value : String := ""

namespace TlsDataSource

def configured (source : TlsDataSource) : Bool := source.kind ≠ .none && source.value ≠ ""

def fromFile (filePath : String) : TlsDataSource := { kind := .filePath, value := filePath }

def fromInlinePem (pem : String) : TlsDataSource := { kind := .inlinePem, value := pem }

end TlsDataSource

structure TlsIdentityConfig where
  certificateChain : TlsDataSource := {}
  privateKey : TlsDataSource := {}
  privateKeyPassword : TlsDataSource := {}

def TlsIdentityConfig.configured (identity : TlsIdentityConfig) : Bool :=
  identity.certificateChain.configured || identity.privateKey.configured ||
    identity.privateKeyPassword.configured

structure TlsTrustConfig where
  rootCertificates : TlsDataSource := {}
  useSystemDefaultRoots : Bool := true
  verifyPeer : Bool := true
  expectedPeerName : String := ""

structure TlsServerConfig where
  identity : TlsIdentityConfig := {}
  clientTrust : TlsTrustConfig := {}
  requireClientCertificate : Bool := false

structure HttpEndpointOptions where
  bindAddress : String := kDefaultLoopbackAddress
  port : Int := kDefaultHttpPort
  useTls : Bool := false
  tls : TlsServerConfig := {}
  ioThreads : Nat := kDefaultIoThreads
  maxBodyBytes : Nat := kDefaultMaxHttpBodyBytes

structure GrpcEndpointOptions where
  bindAddress : String := kDefaultLoopbackAddress
  port : Int := kDefaultGrpcPort
  useTls : Bool := false
  tls : TlsServerConfig := {}
  completionQueueThreads : Nat := kDefaultIoThreads
  maxReceiveMessageBytes : Int := kDefaultMaxHttpBodyBytes
  maxSendMessageBytes : Int := kDefaultMaxHttpBodyBytes

structure CliInterfaceConfig where
  enabled : Bool := false
  prompt : String := kDefaultCliPrompt

structure HttpInterfaceConfig where
  enabled : Bool := false
  endpoint : HttpEndpointOptions := {}

structure GrpcInterfaceConfig where
  enabled : Bool := false
  endpoint : GrpcEndpointOptions := {}

structure ApplicationInterfaceConfig where
  cli : CliInterfaceConfig := {}
  http : HttpInterfaceConfig := {}
  grpc : GrpcInterfaceConfig := {}

structure ControlPlaneConfig where
  enabled : Bool := false
  databasePath : String := ""
  recoverOnStart : Bool := true
  pruneAfterDays : Int := 30

inductive RequestFileKind where
  | none
  | workflowYaml
  | workflowText
  deriving DecidableEq

structure RequestFileConfig where
  kind : RequestFileKind := .none
  path : String := ""

def RequestFileConfig.configured (request : RequestFileConfig) : Bool :=
  request.kind ≠ .none && request.path ≠ ""

structure ApplicationLaunchConfig where
  configured : Bool := false
  security : SecurityConfig := {}
  interfaces : ApplicationInterfaceConfig := {}
  controlPlane : ControlPlaneConfig := {}
  bootstrapRequest : RequestFileConfig := {}
  bootstrapWorkflow : Option WorkflowConfig := none

def ApplicationLaunchConfig.hasEnabledInterface (config : ApplicationLaunchConfig) : Bool :=
  config.interfaces.cli.enabled || config.interfaces.http.enabled || config.interfaces.grpc.enabled

inductive ApplicationMode where
  | oneShot
  | serve
  deriving DecidableEq

structure ApplicationConfig where
  configured : Bool := false
  mode : ApplicationMode := .oneShot
  request : RequestFileConfig := {}
  service : ApplicationLaunchConfig := {}

section Reading

variable (yaml : YamlCpp) (asSize : String → Option Nat)

def YamlNode.size : YamlNode → Nat
  | .map entries => entries.length
  | .sequence items => items.length
  | _ => 0

def parseTlsDataSource (sourceNode : Option YamlNode) : Option TlsDataSource :=
  match sourceNode with
  | some (.scalar path) => some (TlsDataSource.fromFile path)
  | some (.map entries) => do
    match ← (YamlNode.map entries).get "file" with
    | some file => file.asString.map TlsDataSource.fromFile
    | none =>
      match ← (YamlNode.map entries).get "inline_pem" with
      | some pem => pem.asString.map TlsDataSource.fromInlinePem
      | none => pure {}
  | _ => some {}

def parseTlsIdentityConfig (identityNode : Option YamlNode) : Option TlsIdentityConfig :=
  match identityNode with
  | some (.map entries) => do
    let certificateChain ← ((YamlNode.map entries).get "certificate_chain").bind parseTlsDataSource
    let privateKey ← ((YamlNode.map entries).get "private_key").bind parseTlsDataSource
    let privateKeyPassword ← ((YamlNode.map entries).get "private_key_password").bind
      parseTlsDataSource
    pure { certificateChain := certificateChain, privateKey := privateKey,
           privateKeyPassword := privateKeyPassword }
  | _ => some {}

def parseTlsTrustConfig (trustNode : Option YamlNode) : Option TlsTrustConfig :=
  match trustNode with
  | some (.map entries) => do
    let rootCertificates ← ((YamlNode.map entries).get "root_certificates").bind parseTlsDataSource
    let useSystemDefaultRoots ← (YamlNode.map entries).fieldOr "use_system_default_roots"
      (·.as yaml.asBool) true
    let verifyPeer ← (YamlNode.map entries).fieldOr "verify_peer" (·.as yaml.asBool) true
    let expectedPeerName ← (YamlNode.map entries).fieldOr "expected_peer_name" YamlNode.asString ""
    pure
      { rootCertificates := rootCertificates
        useSystemDefaultRoots := useSystemDefaultRoots
        verifyPeer := verifyPeer
        expectedPeerName := expectedPeerName }
  | _ => some {}

def parseTlsServerConfig (tlsNode : Option YamlNode) : Option TlsServerConfig :=
  match tlsNode with
  | some (.map entries) => do
    let identity ← ((YamlNode.map entries).get "identity").bind parseTlsIdentityConfig
    let clientTrust ← ((YamlNode.map entries).get "client_trust").bind (parseTlsTrustConfig yaml)
    let requireClientCertificate ← (YamlNode.map entries).fieldOr "require_client_certificate"
      (·.as yaml.asBool) false
    pure
      { identity := identity
        clientTrust := clientTrust
        requireClientCertificate := requireClientCertificate }
  | _ => some {}

def tlsEnabledByConfig (tls : TlsServerConfig) : Bool :=
  tls.identity.configured || tls.clientTrust.rootCertificates.configured

def parseAuthMode (securityNode : Option YamlNode) : Option AuthMode :=
  match securityNode with
  | some (.map entries) => do
    match ← (YamlNode.map entries).get "mode" with
    | none => pure .none
    | some modeNode =>
      let mode ← modeNode.asString
      pure (if mode = "bearer_token" then .bearerToken
        else if mode = "api_key" then .apiKey else .none)
  | _ => some .none

/-- The security part of `parse_service_yaml`. -/
def parseSecurity (securityNode : Option YamlNode) : Option SecurityConfig := do
  let mode ← parseAuthMode securityNode
  match securityNode with
  | some (.map entries) =>
    let expectedCredential ← (YamlNode.map entries).fieldOr "expected_credential"
      YamlNode.asString ""
    let requireSecureTransport ← (YamlNode.map entries).fieldOr "require_secure_transport"
      (·.as yaml.asBool) false
    pure { mode := mode, expectedCredential := expectedCredential,
           requireSecureTransport := requireSecureTransport }
  | _ => pure { mode := mode }

/-- The section that counts: the one of the service if it is a map, else the one next to it. -/
def findSecurityNode (serviceNode root : YamlNode) : Option (Option YamlNode) :=
  (serviceNode.get "security").bind fun
    | some (.map entries) => some (some (.map entries))
    | _ => root.get "security"

def findInterfaceNode (launchNode : YamlNode) (interfaceName : String) : Option YamlNode :=
  if launchNode.isMap then do
    let listed ← (← launchNode.get "interfaces").elim (some none) fun interfaces =>
      if interfaces.isMap then interfaces.get interfaceName else some none
    let direct ← launchNode.get interfaceName
    pure ((listed.or direct).getD .null)
  else some .null

def interfaceEnabled (interfaceNode : YamlNode) : Option Bool :=
  if interfaceNode.isMap then
    interfaceNode.fieldOr "enabled" (·.as yaml.asBool) (0 < interfaceNode.size)
  else some false

def parseCliInterface (cliNode : YamlNode) : Option CliInterfaceConfig := do
  let enabled ← interfaceEnabled yaml cliNode
  let prompt ← cliNode.fieldOr "prompt" YamlNode.asString kDefaultCliPrompt
  pure { enabled := enabled, prompt := prompt }

def parseHttpInterface (httpNode : YamlNode) : Option HttpInterfaceConfig := do
  let defaults : HttpEndpointOptions := {}
  let enabled ← interfaceEnabled yaml httpNode
  let bindAddress ← httpNode.fieldOr "bind_address" YamlNode.asString defaults.bindAddress
  let port ← httpNode.fieldOr "port" (·.as yaml.asInt32) defaults.port
  let tls ← (httpNode.get "tls").bind (parseTlsServerConfig yaml)
  let useTls ← httpNode.fieldOr "use_tls" (·.as yaml.asBool) (tlsEnabledByConfig tls)
  let ioThreads ← httpNode.fieldOr "io_threads" (·.as asSize) defaults.ioThreads
  let maxBodyBytes ← httpNode.fieldOr "max_body_bytes" (·.as asSize) defaults.maxBodyBytes
  pure
    { enabled := enabled
      endpoint :=
        { bindAddress := bindAddress
          port := port
          useTls := useTls
          tls := tls
          ioThreads := ioThreads
          maxBodyBytes := maxBodyBytes } }

def parseGrpcInterface (grpcNode : YamlNode) : Option GrpcInterfaceConfig := do
  let defaults : GrpcEndpointOptions := {}
  let enabled ← interfaceEnabled yaml grpcNode
  let bindAddress ← grpcNode.fieldOr "bind_address" YamlNode.asString defaults.bindAddress
  let port ← grpcNode.fieldOr "port" (·.as yaml.asInt32) defaults.port
  let tls ← (grpcNode.get "tls").bind (parseTlsServerConfig yaml)
  let useTls ← grpcNode.fieldOr "use_tls" (·.as yaml.asBool) (tlsEnabledByConfig tls)
  let completionQueueThreads ← grpcNode.fieldOr "completion_queue_threads"
    (·.as asSize) defaults.completionQueueThreads
  let maxReceiveMessageBytes ← grpcNode.fieldOr "max_receive_message_bytes" (·.as yaml.asInt32)
    defaults.maxReceiveMessageBytes
  let maxSendMessageBytes ← grpcNode.fieldOr "max_send_message_bytes"
    (·.as yaml.asInt32) defaults.maxSendMessageBytes
  pure
    { enabled := enabled
      endpoint :=
        { bindAddress := bindAddress
          port := port
          useTls := useTls
          tls := tls
          completionQueueThreads := completionQueueThreads
          maxReceiveMessageBytes := maxReceiveMessageBytes
          maxSendMessageBytes := maxSendMessageBytes } }

def parseControlPlane (controlPlaneNode : Option YamlNode) : Option ControlPlaneConfig :=
  match controlPlaneNode with
  | some (.map entries) => do
    let defaults : ControlPlaneConfig := {}
    let enabled ← (YamlNode.map entries).fieldOr "enabled" (·.as yaml.asBool) (0 < entries.length)
    let stateDirectory ← (YamlNode.map entries).get "state_directory"
    let databasePath ← (← (YamlNode.map entries).get "database_path").elim
      (stateDirectory.elim (some defaults.databasePath) YamlNode.asString) YamlNode.asString
    let recoverOnStart ← (YamlNode.map entries).fieldOr "recover_on_start"
      (·.as yaml.asBool) defaults.recoverOnStart
    let pruneAfterDays ← (YamlNode.map entries).fieldOr "prune_after_days"
      (·.as yaml.asInt32) defaults.pruneAfterDays
    pure
      { enabled := enabled
        databasePath := databasePath
        recoverOnStart := recoverOnStart
        pruneAfterDays := pruneAfterDays }
  | _ => some {}

def findControlPlaneNode (serviceNode root : YamlNode) : Option (Option YamlNode) :=
  (serviceNode.get "control_plane").bind fun
    | some (.map entries) => some (some (.map entries))
    | _ => root.get "control_plane"

def workflowHasContent (workflow : WorkflowConfig) : Bool :=
  !workflow.actors.isEmpty || !workflow.tasks.isEmpty

def parseServiceYaml (serviceNode root : YamlNode) : Option ApplicationLaunchConfig :=
  if serviceNode.isMap then do
    let security ← (findSecurityNode serviceNode root).bind (parseSecurity yaml)
    let cli ← (findInterfaceNode serviceNode "cli").bind (parseCliInterface yaml)
    let http ← (findInterfaceNode serviceNode "http").bind (parseHttpInterface yaml asSize)
    let grpc ← (findInterfaceNode serviceNode "grpc").bind (parseGrpcInterface yaml asSize)
    let controlPlane ← (findControlPlaneNode serviceNode root).bind (parseControlPlane yaml)
    let bootstrapWorkflow ← (findWorkflowNode root).bind (parseWorkflowYaml yaml)
    pure
      { configured := true
        security := security
        interfaces := { cli := cli, http := http, grpc := grpc }
        controlPlane := controlPlane
        bootstrapWorkflow := if workflowHasContent bootstrapWorkflow then some bootstrapWorkflow
          else none }
  else some {}

def launchSection (root : YamlNode) : Option YamlNode :=
  match root.get "launch" with
  | some (some (.map entries)) => some (.map entries)
  | _ => none

def parseLaunchYaml (root : YamlNode) : Option ApplicationLaunchConfig :=
  match root.isMap, launchSection root with
  | true, some launchNode => parseServiceYaml yaml asSize launchNode root
  | _, _ => some {}

def parseRequestFileKind (requestNode : YamlNode) : Option RequestFileKind := do
  let kindNode ← requestNode.get "kind"
  let typeNode ← requestNode.get "type"
  match kindNode.or typeNode with
  | none => pure .none
  | some node =>
    let kind ← node.asString
    pure (if kind = "workflow_yaml" ∨ kind = "yaml" then .workflowYaml
      else if kind = "workflow_text" ∨ kind = "text" then .workflowText
      else .none)

def parseRequestFileConfig (requestNode : Option YamlNode) : Option RequestFileConfig :=
  match requestNode with
  | some (.map entries) => do
    let kind ← parseRequestFileKind (.map entries)
    let path ← (YamlNode.map entries).fieldOr "path" YamlNode.asString ""
    pure { kind := kind, path := path }
  | _ => some {}

def findApplicationNode (root : YamlNode) : Option YamlNode :=
  (root.get "application").map fun section? =>
    match section? with
    | some (.map entries) => .map entries
    | _ => root

def findServiceNode (applicationNode : YamlNode) : Option YamlNode :=
  (applicationNode.get "service").map fun section? =>
    match section? with
    | some (.map entries) => .map entries
    | _ => applicationNode

def findBootstrapRequestNode (serviceNode applicationNode : YamlNode) : Option (Option YamlNode) :=
  (serviceNode.get "bootstrap_request").bind fun
    | some (.map entries) => some (some (.map entries))
    | _ => applicationNode.get "bootstrap_request"

def applicationConfigured (root applicationNode : YamlNode) : Option Bool := do
  let application ← root.get "application"
  let mode ← applicationNode.get "mode"
  let request ← applicationNode.get "request"
  let service ← applicationNode.get "service"
  pure (application.isSome || mode.isSome || request.isSome || service.isSome)

/-- A request file at the start takes the place of the workflow in the document. -/
def withBootstrapRequest (service : ApplicationLaunchConfig) (request : RequestFileConfig) :
    ApplicationLaunchConfig :=
  if request.configured
    then { service with bootstrapRequest := request, bootstrapWorkflow := none, configured := true }
  else { service with bootstrapRequest := request }

@[simp] theorem withBootstrapRequest_security (service : ApplicationLaunchConfig)
    (request : RequestFileConfig) :
    (withBootstrapRequest service request).security = service.security := by
  unfold withBootstrapRequest
  split_ifs <;> rfl

@[simp] theorem withBootstrapRequest_hasEnabledInterface (service : ApplicationLaunchConfig)
    (request : RequestFileConfig) :
    (withBootstrapRequest service request).hasEnabledInterface = service.hasEnabledInterface := by
  unfold withBootstrapRequest
  split_ifs <;> rfl

def parseApplicationService (applicationNode : YamlNode) : Option ApplicationLaunchConfig := do
  let serviceNode ← findServiceNode applicationNode
  let service ← parseServiceYaml yaml asSize serviceNode applicationNode
  let request ← (findBootstrapRequestNode serviceNode applicationNode).bind parseRequestFileConfig
  pure (withBootstrapRequest service request)

def parseApplicationYaml (root : YamlNode) : Option ApplicationConfig :=
  if root.isMap then do
    let applicationNode ← findApplicationNode root
    let configured ← applicationConfigured root applicationNode
    if configured then
      let mode ← applicationNode.fieldOr "mode" YamlNode.asString "one_shot"
      let request ← (applicationNode.get "request").bind parseRequestFileConfig
      let service ← parseApplicationService yaml asSize applicationNode
      pure
        { configured := true
          mode := if mode = "serve" then .serve else .oneShot
          request := request
          service := service }
    else pure {}
  else some {}

def loadLaunchConfigFromString (content : String) : ApplicationLaunchConfig :=
  ((yaml.load content).bind (parseLaunchYaml yaml asSize)).getD {}

def loadApplicationConfigFromString (content : String) : ApplicationConfig :=
  ((yaml.load content).bind (parseApplicationYaml yaml asSize)).getD {}

end Reading

end TaskOrchestrator.App
