/-
The messages of the control pipe as JSON values (`Protocol.h`).

Every message has an encoder and a decoder, written separately and by hand.  A decoder
reads into a value, which the callers construct by default, and most are tolerant: a field
that is absent or null keeps its default.  Four requests are strict, and a start with an
unknown mode is refused.  The requests' and the reply's type tag is not read by them.

Text is bytes, as a `std::string` is.  How these values become lines of text, and back, is
the JSON library's and is left out.
-/
import UrnetworkWindows.Controller.Firewall
import UrnetworkWindows.Lib.Json

namespace UrnetworkWindows.Proto

open Lib Controller

/-! ### Spellings -/

/-- `ToString(StartMode)`. -/
def startModeName : StartMode → String
  | .tunnel => "tunnel"
  | .rpcOnly => "rpc_only"

/-- An unknown spelling is no mode: it may have meant to leave the network alone. -/
def startModeFromString (s : ByteArray) : Option StartMode :=
  if s = utf8 "tunnel" then some .tunnel
  else if s = utf8 "rpc_only" then some .rpcOnly
  else none

/-- `ToString(TunnelState)`. -/
def tunnelStateName : TunnelState → String
  | .stopped => "stopped"
  | .starting => "starting"
  | .up => "up"
  | .stopping => "stopping"
  | .error => "error"
  | .rpcOnly => "rpc_only"
  | .preparing => "preparing"

def tunnelStateFromString (s : ByteArray) : TunnelState :=
  if s = utf8 "starting" then .starting
  else if s = utf8 "up" then .up
  else if s = utf8 "preparing" then .preparing
  else if s = utf8 "stopping" then .stopping
  else if s = utf8 "error" then .error
  else if s = utf8 "rpc_only" then .rpcOnly
  else .stopped

@[simp] lemma startModeFromString_name (m : StartMode) :
    startModeFromString (utf8 (startModeName m)) = some m := by
  cases m <;> simp [startModeFromString, startModeName]

@[simp] lemma tunnelStateFromString_name (t : TunnelState) :
    tunnelStateFromString (utf8 (tunnelStateName t)) = t := by
  cases t <;> simp [tunnelStateFromString, tunnelStateName]

/-! ### Messages -/

/-- A message: the names its decoder reads, its encoder and its decoder.  The default value
is what the source's default constructor makes. -/
class Message (α : Type) extends Inhabited α where
  keys : List String
  encode : α → Members
  decode : Json → α → Except Thrown α

export Message (keys encode decode)

/-- The decoder reads what the encoder wrote, from every value that holds the same under
the names it reads. -/
def ReadsBack {α : Type} [Message α] (v : α) : Prop :=
  ∀ j : Json, AgreesOn (keys α) j (encode v) → decode j (default : α) = .ok v

/-- `Request`. -/
def request (type : String) (body : Members) : Json :=
  .object (body.set "type" (toJson (utf8 type)))

/-- `j[k] = x` under a condition. -/
def setIf (c : Bool) (k : String) (x : Json) (j : Members) : Members :=
  if c then j.set k x else j

lemma find_setIf (c : Bool) (k k' : String) (x : Json) (j : Members) :
    (setIf c k x j).find k' = if k = k' ∧ c then some x else j.find k' := by
  cases c <;> simp [setIf]

/-- `if (x) j[k] = *x`. -/
def setSome (x : Option Json) (k : String) (j : Members) : Members :=
  match x with
  | some x => j.set k x
  | none => j

lemma find_setSome (x : Option Json) (k k' : String) (j : Members) :
    (setSome x k j).find k' = if k = k' ∧ x.isSome then x else j.find k' := by
  cases x <;> simp [setSome]

/-- A message within a message: read over a default one, where the member is an object. -/
def nested {α : Type} [Message α] (j : Json) (k : String) (out : Option α) :
    Except Thrown (Option α) :=
  match j.find k with
  | some (.object ms) => some <$> decode (.object ms) default
  | _ => .ok out

/-! ### Required fields -/

/-- A request is refused for a field that did not arrive as `what`. -/
def missing {α : Type} (request k what : String) : Except Thrown α :=
  .error (.runtimeError (utf8 (request ++ " requires " ++ k ++ " (" ++ what ++ ")")))

def requireBoolean (request : String) (j : Json) (k : String) : Except Thrown Bool :=
  match j.find k with
  | some (.boolean b) => .ok b
  | _ => missing request k "a boolean"

def requireNonEmpty (request : String) (j : Json) (k : String) : Except Thrown ByteArray :=
  match j.find k with
  | some (.string s) => if s.isEmpty then missing request k "a non-empty string" else .ok s
  | _ => missing request k "a non-empty string"

/-! ### Requests -/

structure StartTunnel where
  byJwt : ByteArray := .empty
  networkSpaceJson : ByteArray := .empty
  instanceId : ByteArray := .empty
  deviceDescription : ByteArray := .empty
  deviceSpec : ByteArray := .empty
  appVersion : ByteArray := .empty
  rpcServerPem : ByteArray := .empty
  rpcClientCertPem : ByteArray := .empty
  rpcListenHostport : ByteArray := .empty
  rpcSessionId : ByteArray := .empty
  excludedAppPaths : List ByteArray := []
  allowlistMode : Bool := false
  mode : StartMode := .tunnel
  killSwitch : Bool := false
  networkCountryCode : ByteArray := .empty
  networkCountrySource : ByteArray := .empty
  systemProxy : ByteArray := .empty

instance : Message StartTunnel where
  default := {}
  keys :=
    ["mode", "by_jwt", "network_space_json", "instance_id", "device_description",
      "device_spec", "app_version", "rpc_server_pem", "rpc_client_cert_pem",
      "rpc_listen_hostport", "rpc_session_id", "excluded_app_paths", "allowlist_mode",
      "kill_switch", "network_country_code", "network_country_source", "system_proxy"]
  encode v := members
    [("by_jwt", toJson v.byJwt),
      ("network_space_json", toJson v.networkSpaceJson),
      ("instance_id", toJson v.instanceId),
      ("device_description", toJson v.deviceDescription),
      ("device_spec", toJson v.deviceSpec),
      ("app_version", toJson v.appVersion),
      ("rpc_server_pem", toJson v.rpcServerPem),
      ("rpc_client_cert_pem", toJson v.rpcClientCertPem),
      ("rpc_listen_hostport", toJson v.rpcListenHostport),
      ("rpc_session_id", toJson v.rpcSessionId),
      ("excluded_app_paths", toJson v.excludedAppPaths),
      ("allowlist_mode", toJson v.allowlistMode),
      ("mode", toJson (utf8 (startModeName v.mode))),
      ("kill_switch", toJson v.killSwitch),
      ("network_country_code", toJson v.networkCountryCode),
      ("network_country_source", toJson v.networkCountrySource),
      ("system_proxy", toJson v.systemProxy)]
  decode j v := do
    let mode ← match j.find "mode" with
      | some (.string raw) =>
        match startModeFromString raw with
        | some mode => .ok mode
        | none => .error (.runtimeError (utf8 "unknown start mode: " ++ raw))
      | _ => .ok v.mode
    let byJwt ← j.get "by_jwt" v.byJwt
    let networkSpaceJson ← j.get "network_space_json" v.networkSpaceJson
    let instanceId ← j.get "instance_id" v.instanceId
    let deviceDescription ← j.get "device_description" v.deviceDescription
    let deviceSpec ← j.get "device_spec" v.deviceSpec
    let appVersion ← j.get "app_version" v.appVersion
    let rpcServerPem ← j.get "rpc_server_pem" v.rpcServerPem
    let rpcClientCertPem ← j.get "rpc_client_cert_pem" v.rpcClientCertPem
    let rpcListenHostport ← j.get "rpc_listen_hostport" v.rpcListenHostport
    let rpcSessionId ← j.get "rpc_session_id" v.rpcSessionId
    let excludedAppPaths ← j.get "excluded_app_paths" v.excludedAppPaths
    let allowlistMode ← j.get "allowlist_mode" v.allowlistMode
    let killSwitch ← j.get "kill_switch" v.killSwitch
    let networkCountryCode ← j.get "network_country_code" v.networkCountryCode
    let networkCountrySource ← j.get "network_country_source" v.networkCountrySource
    let systemProxy ← j.get "system_proxy" v.systemProxy
    return { byJwt, networkSpaceJson, instanceId, deviceDescription, deviceSpec, appVersion,
             rpcServerPem, rpcClientCertPem, rpcListenHostport, rpcSessionId,
             excludedAppPaths, allowlistMode, mode, killSwitch, networkCountryCode,
             networkCountrySource, systemProxy }

structure SetSplitTunnel where
  excludedAppPaths : List ByteArray := []
  allowlistMode : Bool := false

instance : Message SetSplitTunnel where
  default := {}
  keys := ["excluded_app_paths", "allowlist_mode"]
  encode v := members
    [("excluded_app_paths", toJson v.excludedAppPaths),
      ("allowlist_mode", toJson v.allowlistMode)]
  decode j v := do
    let excludedAppPaths ← j.get "excluded_app_paths" v.excludedAppPaths
    let allowlistMode ← j.get "allowlist_mode" v.allowlistMode
    return { excludedAppPaths, allowlistMode }

structure Logout where
  networkSpaceJson : ByteArray := .empty

/-- The only tolerant reader that passes over a field of another kind. -/
instance : Message Logout where
  default := {}
  keys := ["network_space_json"]
  encode v := members [("network_space_json", toJson v.networkSpaceJson)]
  decode j v :=
    match j.find "network_space_json" with
    | some (.string s) => .ok { networkSpaceJson := s }
    | _ => .ok v

structure SetKillSwitch where
  on : Bool := false

instance : Message SetKillSwitch where
  default := {}
  keys := ["on"]
  encode v := members [("on", toJson v.on)]
  decode j v := do
    let on ← j.get "on" v.on
    return { on }

structure StartProvider where
  byJwt : ByteArray := .empty
  networkSpaceJson : ByteArray := .empty
  instanceId : ByteArray := .empty
  deviceDescription : ByteArray := .empty
  deviceSpec : ByteArray := .empty
  appVersion : ByteArray := .empty
  provideMode : ByteArray := .empty
  providerTransportSettingsJson : ByteArray := .empty
  networkCountryCode : ByteArray := .empty
  networkCountrySource : ByteArray := .empty

instance : Message StartProvider where
  default := {}
  keys :=
    ["by_jwt", "network_space_json", "instance_id", "device_description", "device_spec",
      "app_version", "provide_mode", "provider_transport_settings_json",
      "network_country_code", "network_country_source"]
  encode v := members
    [("by_jwt", toJson v.byJwt),
      ("network_space_json", toJson v.networkSpaceJson),
      ("instance_id", toJson v.instanceId),
      ("device_description", toJson v.deviceDescription),
      ("device_spec", toJson v.deviceSpec),
      ("app_version", toJson v.appVersion),
      ("provide_mode", toJson v.provideMode),
      ("provider_transport_settings_json", toJson v.providerTransportSettingsJson),
      ("network_country_code", toJson v.networkCountryCode),
      ("network_country_source", toJson v.networkCountrySource)]
  decode j v := do
    let byJwt ← j.get "by_jwt" v.byJwt
    let networkSpaceJson ← j.get "network_space_json" v.networkSpaceJson
    let instanceId ← j.get "instance_id" v.instanceId
    let deviceDescription ← j.get "device_description" v.deviceDescription
    let deviceSpec ← j.get "device_spec" v.deviceSpec
    let appVersion ← j.get "app_version" v.appVersion
    let provideMode ← j.get "provide_mode" v.provideMode
    let providerTransportSettingsJson ←
      j.get "provider_transport_settings_json" v.providerTransportSettingsJson
    let networkCountryCode ← j.get "network_country_code" v.networkCountryCode
    let networkCountrySource ← j.get "network_country_source" v.networkCountrySource
    return { byJwt, networkSpaceJson, instanceId, deviceDescription, deviceSpec, appVersion,
             provideMode, providerTransportSettingsJson, networkCountryCode,
             networkCountrySource }

structure SetNetworkCountry where
  networkCountryCode : ByteArray := .empty
  networkCountrySource : ByteArray := .empty

instance : Message SetNetworkCountry where
  default := {}
  keys := ["network_country_code", "network_country_source"]
  encode v := members
    [("network_country_code", toJson v.networkCountryCode),
      ("network_country_source", toJson v.networkCountrySource)]
  decode j v := do
    let networkCountryCode ← j.get "network_country_code" v.networkCountryCode
    let networkCountrySource ← j.get "network_country_source" v.networkCountrySource
    return { networkCountryCode, networkCountrySource }

structure UploadLogs where
  feedbackId : ByteArray := .empty
  byJwt : ByteArray := .empty
  networkSpaceJson : ByteArray := .empty
  instanceId : ByteArray := .empty
  deviceDescription : ByteArray := .empty
  deviceSpec : ByteArray := .empty
  appVersion : ByteArray := .empty
  appLogDir : ByteArray := .empty

instance : Message UploadLogs where
  default := {}
  keys :=
    ["feedback_id", "by_jwt", "network_space_json", "instance_id", "device_description",
      "device_spec", "app_version", "app_log_dir"]
  encode v :=
    setIf (!v.appLogDir.isEmpty) "app_log_dir" (toJson v.appLogDir) <|
    members
      [("feedback_id", toJson v.feedbackId),
        ("by_jwt", toJson v.byJwt),
        ("network_space_json", toJson v.networkSpaceJson),
        ("instance_id", toJson v.instanceId),
        ("device_description", toJson v.deviceDescription),
        ("device_spec", toJson v.deviceSpec),
        ("app_version", toJson v.appVersion)]
  decode j v := do
    let feedbackId ← j.get "feedback_id" v.feedbackId
    let byJwt ← j.get "by_jwt" v.byJwt
    let networkSpaceJson ← j.get "network_space_json" v.networkSpaceJson
    let instanceId ← j.get "instance_id" v.instanceId
    let deviceDescription ← j.get "device_description" v.deviceDescription
    let deviceSpec ← j.get "device_spec" v.deviceSpec
    let appVersion ← j.get "app_version" v.appVersion
    let appLogDir ← j.get "app_log_dir" v.appLogDir
    return { feedbackId, byJwt, networkSpaceJson, instanceId, deviceDescription, deviceSpec,
             appVersion, appLogDir }

structure SetProvideExtender where
  provideExtender : Bool := true

/-- Strict: a write whose value did not arrive writes no default. -/
instance : Message SetProvideExtender where
  default := {}
  keys := ["provide_extender"]
  encode v := members [("provide_extender", toJson v.provideExtender)]
  decode j _ := do
    let provideExtender ← requireBoolean "set_provide_extender" j "provide_extender"
    return { provideExtender }

structure SetMeasurementsEnabled where
  measurementsEnabled : Bool := true

instance : Message SetMeasurementsEnabled where
  default := {}
  keys := ["measurements_enabled"]
  encode v := members [("measurements_enabled", toJson v.measurementsEnabled)]
  decode j _ := do
    let measurementsEnabled ←
      requireBoolean "set_measurements_enabled" j "measurements_enabled"
    return { measurementsEnabled }

structure ResetExtenders where
  hostName : ByteArray := .empty
  envName : ByteArray := .empty
  extenderResetId : ByteArray := .empty

/-- Strict: a request that does not name its space exactly resets no other. -/
instance : Message ResetExtenders where
  default := {}
  keys := ["host_name", "env_name", "extender_reset_id"]
  encode v := members
    [("host_name", toJson v.hostName),
      ("env_name", toJson v.envName),
      ("extender_reset_id", toJson v.extenderResetId)]
  decode j _ := do
    let hostName ← requireNonEmpty "reset_extenders" j "host_name"
    let envName ← requireNonEmpty "reset_extenders" j "env_name"
    let extenderResetId ← requireNonEmpty "reset_extenders" j "extender_reset_id"
    return { hostName, envName, extenderResetId }

structure SetIngressDns where
  hostName : ByteArray := .empty
  envName : ByteArray := .empty
  ingressCountryCode : ByteArray := .empty
  controlDohUrls : List ByteArray := []

/-- The array of `set_ingress_dns`, element by element. -/
def readControlDohUrls : List Json → Except Thrown (List ByteArray)
  | [] => .ok []
  | .string url :: urls => do
    let rest ← readControlDohUrls urls
    return url :: rest
  | _ :: _ => missing "set_ingress_dns" "control_doh_urls" "an array of strings"

/-- Strict: a region or servers that did not arrive are not the default ones. -/
instance : Message SetIngressDns where
  default := {}
  keys := ["host_name", "env_name", "ingress_country_code", "control_doh_urls"]
  encode v := members
    [("host_name", toJson v.hostName),
      ("env_name", toJson v.envName),
      ("ingress_country_code", toJson v.ingressCountryCode),
      ("control_doh_urls", toJson v.controlDohUrls)]
  decode j _ := do
    let hostName ← requireNonEmpty "set_ingress_dns" j "host_name"
    let envName ← requireNonEmpty "set_ingress_dns" j "env_name"
    let ingressCountryCode ← match j.find "ingress_country_code" with
      | some (.string region) => .ok region
      | _ => missing "set_ingress_dns" "ingress_country_code" "a string"
    let controlDohUrls ← match j.find "control_doh_urls" with
      | some (.array urls) => readControlDohUrls urls
      | _ => missing "set_ingress_dns" "control_doh_urls" "an array of strings"
    return { hostName, envName, ingressCountryCode, controlDohUrls }

/-! ### Replies -/

structure TunnelStatus where
  state : TunnelState := .stopped
  rpcListenHostport : ByteArray := .empty
  instanceId : ByteArray := .empty
  rpcSessionId : ByteArray := .empty
  error : ByteArray := .empty
  serviceVersion : ByteArray := .empty
  protocolVersion : Int32 := 0
  tunnelLocalUpMillis : Int64 := 0
  mode : StartMode := .tunnel
  routesInstalled : Bool := false
  dnsApplied : Bool := false
  wfpState : ByteArray := utf8 "off"
  egressIndex4 : Int64 := 0
  egressIndex6 : Int64 := 0
  stopReason : ByteArray := .empty
  failsafeArmed : Bool := false
  providerRunning : Bool := false
  providerControlMode : ByteArray := .empty
  providerMode : Int64 := 0
  providerNetworkKey : Bool := false
  logUploadId : Int64 := 0
  logUploadState : ByteArray := .empty
  logUploadCarrier : ByteArray := .empty

instance : Message TunnelStatus where
  default := {}
  keys :=
    ["state", "mode", "rpc_listen_hostport", "instance_id", "rpc_session_id", "error",
      "service_version", "protocol_version", "tunnel_local_up_millis", "routes_installed",
      "dns_applied", "wfp_state", "egress_index4", "egress_index6", "stop_reason",
      "failsafe_armed", "provider_running", "provider_control_mode", "provider_mode",
      "provider_network_key", "log_upload_id", "log_upload_state", "log_upload_carrier"]
  encode v := members
    [("state", toJson (utf8 (tunnelStateName v.state))),
      ("rpc_listen_hostport", toJson v.rpcListenHostport),
      ("instance_id", toJson v.instanceId),
      ("rpc_session_id", toJson v.rpcSessionId),
      ("error", toJson v.error),
      ("service_version", toJson v.serviceVersion),
      ("protocol_version", toJson v.protocolVersion),
      ("tunnel_local_up_millis", toJson v.tunnelLocalUpMillis),
      ("mode", toJson (utf8 (startModeName v.mode))),
      ("routes_installed", toJson v.routesInstalled),
      ("dns_applied", toJson v.dnsApplied),
      ("wfp_state", toJson v.wfpState),
      ("egress_index4", toJson v.egressIndex4),
      ("egress_index6", toJson v.egressIndex6),
      ("stop_reason", toJson v.stopReason),
      ("failsafe_armed", toJson v.failsafeArmed),
      ("provider_running", toJson v.providerRunning),
      ("provider_control_mode", toJson v.providerControlMode),
      ("provider_mode", toJson v.providerMode),
      ("provider_network_key", toJson v.providerNetworkKey),
      ("log_upload_id", toJson v.logUploadId),
      ("log_upload_state", toJson v.logUploadState),
      ("log_upload_carrier", toJson v.logUploadCarrier)]
  decode j v := do
    let state := match j.find "state" with
      | some (.string raw) => tunnelStateFromString raw
      | _ => v.state
    -- a report is not refused: an unreadable mode is the one that claims less
    let mode := match j.find "mode" with
      | some (.string raw) => (startModeFromString raw).getD .rpcOnly
      | _ => v.mode
    let rpcListenHostport ← j.get "rpc_listen_hostport" v.rpcListenHostport
    let instanceId ← j.get "instance_id" v.instanceId
    let rpcSessionId ← j.get "rpc_session_id" v.rpcSessionId
    let error ← j.get "error" v.error
    let serviceVersion ← j.get "service_version" v.serviceVersion
    let protocolVersion ← j.get "protocol_version" v.protocolVersion
    let tunnelLocalUpMillis ← j.get "tunnel_local_up_millis" v.tunnelLocalUpMillis
    let routesInstalled ← j.get "routes_installed" v.routesInstalled
    let dnsApplied ← j.get "dns_applied" v.dnsApplied
    let wfpState ← j.get "wfp_state" v.wfpState
    let egressIndex4 ← j.get "egress_index4" v.egressIndex4
    let egressIndex6 ← j.get "egress_index6" v.egressIndex6
    let stopReason ← j.get "stop_reason" v.stopReason
    let failsafeArmed ← j.get "failsafe_armed" v.failsafeArmed
    let providerRunning ← j.get "provider_running" v.providerRunning
    let providerControlMode ← j.get "provider_control_mode" v.providerControlMode
    let providerMode ← j.get "provider_mode" v.providerMode
    let providerNetworkKey ← j.get "provider_network_key" v.providerNetworkKey
    let logUploadId ← j.get "log_upload_id" v.logUploadId
    let logUploadState ← j.get "log_upload_state" v.logUploadState
    let logUploadCarrier ← j.get "log_upload_carrier" v.logUploadCarrier
    return { state, rpcListenHostport, instanceId, rpcSessionId, error, serviceVersion,
             protocolVersion, tunnelLocalUpMillis, mode, routesInstalled, dnsApplied,
             wfpState, egressIndex4, egressIndex6, stopReason, failsafeArmed,
             providerRunning, providerControlMode, providerMode, providerNetworkKey,
             logUploadId, logUploadState, logUploadCarrier }

/-- The documents are the sdk's own, carried as they are. -/
structure ProviderStats where
  available : Bool := false
  clientId : ByteArray := .empty
  clientCount : Int64 := 0
  networkPeers : Json := .null
  windowSeconds : Int64 := 60
  hasProviderStats : Bool := false
  providerPoints : Json := .array []
  providerDistribution : Json := .null
  extenderPoints : Json := .array []
  extenderProvideStatus : Json := .null
  provideExtender : Bool := false
  provideExtenderWritable : Bool := false
  measurementsEnabled : Bool := true
  measurementsEnabledWritable : Bool := false

/-- A document is kept only in the shape it has to have: anything else reads as none, and
never as a throw that loses the counts. -/
instance : Message ProviderStats where
  default := {}
  keys :=
    ["available", "client_id", "client_count", "window_seconds", "has_provider_stats",
      "provide_extender", "provide_extender_writable", "measurements_enabled",
      "measurements_enabled_writable", "network_peers", "provider_points",
      "provider_distribution", "extender_points", "extender_provide_status"]
  encode v := members
    [("available", toJson v.available),
      ("client_id", toJson v.clientId),
      ("client_count", toJson v.clientCount),
      ("network_peers", v.networkPeers),
      ("window_seconds", toJson v.windowSeconds),
      ("has_provider_stats", toJson v.hasProviderStats),
      ("provider_points", v.providerPoints),
      ("provider_distribution", v.providerDistribution),
      ("extender_points", v.extenderPoints),
      ("extender_provide_status", v.extenderProvideStatus),
      ("provide_extender", toJson v.provideExtender),
      ("provide_extender_writable", toJson v.provideExtenderWritable),
      ("measurements_enabled", toJson v.measurementsEnabled),
      ("measurements_enabled_writable", toJson v.measurementsEnabledWritable)]
  decode j v := do
    let available ← j.get "available" v.available
    let clientId ← j.get "client_id" v.clientId
    let clientCount ← j.get "client_count" v.clientCount
    let windowSeconds ← j.get "window_seconds" v.windowSeconds
    let hasProviderStats ← j.get "has_provider_stats" v.hasProviderStats
    let provideExtender ← j.get "provide_extender" v.provideExtender
    let provideExtenderWritable ← j.get "provide_extender_writable" v.provideExtenderWritable
    let measurementsEnabled ← j.get "measurements_enabled" v.measurementsEnabled
    let measurementsEnabledWritable ←
      j.get "measurements_enabled_writable" v.measurementsEnabledWritable
    let networkPeers := j.keep Json.isArray "network_peers" v.networkPeers
    let providerPoints := j.keep Json.isArray "provider_points" v.providerPoints
    let providerDistribution :=
      j.keep Json.isObject "provider_distribution" v.providerDistribution
    let extenderPoints := j.keep Json.isArray "extender_points" v.extenderPoints
    let extenderProvideStatus :=
      j.keep Json.isObject "extender_provide_status" v.extenderProvideStatus
    return { available, clientId, clientCount, networkPeers, windowSeconds,
             hasProviderStats, providerPoints, providerDistribution, extenderPoints,
             extenderProvideStatus, provideExtender, provideExtenderWritable,
             measurementsEnabled, measurementsEnabledWritable }

/-- `msg::kReply`. -/
def kReply : String := "reply"

structure Reply where
  ok : Bool := false
  error : ByteArray := .empty
  status : Option TunnelStatus := none
  inReplyTo : ByteArray := .empty
  providerStats : Option ProviderStats := none
  logUploadCarrier : ByteArray := .empty
  logUploadId : Int64 := 0
  logUploadBusy : Bool := false
  reset : Bool := false
  resetBusy : Bool := false
  ingressDnsHeld : Bool := false
  ingressDnsBusy : Bool := false

instance : Message Reply where
  default := {}
  keys :=
    ["ok", "error", "in_reply_to", "status", "provider_stats", "log_upload_carrier",
      "log_upload_id", "log_upload_busy", "reset", "reset_busy", "ingress_dns_held",
      "ingress_dns_busy"]
  encode v :=
    let j := members
      [("type", toJson (utf8 kReply)), ("ok", toJson v.ok), ("error", toJson v.error),
        ("in_reply_to", toJson v.inReplyTo)]
    let j := setSome (v.status.map fun s => .object (encode s)) "status" j
    let j := setSome (v.providerStats.map fun s => .object (encode s)) "provider_stats" j
    let j := setIf (!v.logUploadCarrier.isEmpty) "log_upload_carrier"
      (toJson v.logUploadCarrier) j
    let j := setIf (v.logUploadId != 0) "log_upload_id" (toJson v.logUploadId) j
    let j := setIf v.logUploadBusy "log_upload_busy" (toJson true) j
    let j := setIf v.reset "reset" (toJson true) j
    let j := setIf v.resetBusy "reset_busy" (toJson true) j
    let j := setIf v.ingressDnsHeld "ingress_dns_held" (toJson true) j
    setIf v.ingressDnsBusy "ingress_dns_busy" (toJson true) j
  decode j v := do
    let ok ← j.get "ok" v.ok
    let error ← j.get "error" v.error
    let inReplyTo ← j.get "in_reply_to" v.inReplyTo
    let status ← nested j "status" v.status
    let providerStats ← nested j "provider_stats" v.providerStats
    let logUploadCarrier ← j.get "log_upload_carrier" v.logUploadCarrier
    let logUploadId ← j.get "log_upload_id" v.logUploadId
    let logUploadBusy ← j.get "log_upload_busy" v.logUploadBusy
    let reset ← j.get "reset" v.reset
    let resetBusy ← j.get "reset_busy" v.resetBusy
    let ingressDnsHeld ← j.get "ingress_dns_held" v.ingressDnsHeld
    let ingressDnsBusy ← j.get "ingress_dns_busy" v.ingressDnsBusy
    return { ok, error, status, inReplyTo, providerStats, logUploadCarrier, logUploadId,
             logUploadBusy, reset, resetBusy, ingressDnsHeld, ingressDnsBusy }

end UrnetworkWindows.Proto
