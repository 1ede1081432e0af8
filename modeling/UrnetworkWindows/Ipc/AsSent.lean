/-
What a request is read as (`Protocol.h`).

A start reads tolerantly: a field that is absent or null keeps its default, a text, a flag or a
list of another kind is refused (`Readable`).  Its mode is read more tolerantly than that: one that
is no text is passed over, and the start is one of the tunnel (`readAsSent_iff`).  The four
strict writes hold what arrived under their names and nothing else.
-/
import UrnetworkWindows.Ipc.RoundTrip

namespace UrnetworkWindows.Proto

open Lib Controller

/-! ### Strict writes -/

/-- What arrived is what the write holds. -/
def SetProvideExtender.Sent (j : Json) (v : SetProvideExtender) : Prop :=
  j.find "provide_extender" = some (toJson v.provideExtender)

def SetMeasurementsEnabled.Sent (j : Json) (v : SetMeasurementsEnabled) : Prop :=
  j.find "measurements_enabled" = some (toJson v.measurementsEnabled)

def ResetExtenders.Sent (j : Json) (v : ResetExtenders) : Prop :=
  j.find "host_name" = some (toJson v.hostName) ∧ j.find "env_name" = some (toJson v.envName) ∧
    j.find "extender_reset_id" = some (toJson v.extenderResetId)

def SetIngressDns.Sent (j : Json) (v : SetIngressDns) : Prop :=
  j.find "host_name" = some (toJson v.hostName) ∧ j.find "env_name" = some (toJson v.envName) ∧
    j.find "ingress_country_code" = some (toJson v.ingressCountryCode) ∧
      j.find "control_doh_urls" = some (toJson v.controlDohUrls)

lemma bind_eq_ok_iff {ε α β : Type} {x : Except ε α} {f : α → Except ε β} {b : β} :
    x >>= f = .ok b ↔ ∃ a, x = .ok a ∧ f a = .ok b := by
  constructor
  · exact bind_eq_ok
  · rintro ⟨a, rfl, h⟩
    exact h

lemma requireBoolean_eq_ok {request k : String} {j : Json} {b : Bool} :
    requireBoolean request j k = .ok b ↔ j.find k = some (toJson b) := by
  constructor
  · intro h
    rw [requireBoolean] at h
    split at h
    · next found hfind =>
      obtain rfl := Except.ok.inj h
      exact hfind
    · cases h
  · exact requireBoolean_of_written

lemma requireNonEmpty_eq_ok {request k : String} {j : Json} {s : ByteArray} :
    requireNonEmpty request j k = .ok s ↔ j.find k = some (toJson s) ∧ s.isEmpty = false := by
  constructor
  · intro h
    refine ⟨?_, isEmpty_of_requireNonEmpty h⟩
    rw [requireNonEmpty] at h
    split at h
    · next found hfind =>
      split_ifs at h
      · cases h
      · obtain rfl := Except.ok.inj h
        exact hfind
    · cases h
  · exact fun h => requireNonEmpty_of_written h.1 h.2

lemma eq_strings_of_read {urls : List Json} {texts : List ByteArray}
    (h : readControlDohUrls urls = .ok texts) : urls = texts.map .string := by
  induction urls generalizing texts with
  | nil =>
    obtain rfl := Except.ok.inj h
    rfl
  | cons url urls ih =>
    cases url with
    | string text =>
      obtain ⟨rest, hrest, h⟩ := bind_eq_ok h
      obtain rfl := Except.ok.inj h
      rw [List.map_cons, ih hrest]
    | _ => cases h

/-- The strict writes of a request. -/
structure WritesAsSent (j : Json) : Prop where
  provideExtender : ∀ d v : SetProvideExtender, decode j d = .ok v → v.Sent j
  measurementsEnabled : ∀ d v : SetMeasurementsEnabled, decode j d = .ok v → v.Sent j
  resetExtenders : ∀ d v : ResetExtenders, decode j d = .ok v → v.Sent j ∧ v.Named
  ingressDns : ∀ d v : SetIngressDns, decode j d = .ok v → v.Sent j ∧ v.Named

theorem writesAsSent (j : Json) : WritesAsSent j where
  provideExtender d v h := by
    obtain ⟨b, hb, h⟩ := bind_eq_ok h
    obtain rfl := Except.ok.inj h
    exact requireBoolean_eq_ok.1 hb
  measurementsEnabled d v h := by
    obtain ⟨b, hb, h⟩ := bind_eq_ok h
    obtain rfl := Except.ok.inj h
    exact requireBoolean_eq_ok.1 hb
  resetExtenders d v h := by
    obtain ⟨host, hhost, h⟩ := bind_eq_ok h
    obtain ⟨env, henv, h⟩ := bind_eq_ok h
    obtain ⟨id, hid, h⟩ := bind_eq_ok h
    obtain rfl := Except.ok.inj h
    obtain ⟨hhost, hhost'⟩ := requireNonEmpty_eq_ok.1 hhost
    obtain ⟨henv, henv'⟩ := requireNonEmpty_eq_ok.1 henv
    obtain ⟨hid, hid'⟩ := requireNonEmpty_eq_ok.1 hid
    exact ⟨⟨hhost, henv, hid⟩, hhost', henv', hid'⟩
  ingressDns d v h := by
    obtain ⟨host, hhost, h⟩ := bind_eq_ok h
    obtain ⟨env, henv, h⟩ := bind_eq_ok h
    obtain ⟨hhost, hhost'⟩ := requireNonEmpty_eq_ok.1 hhost
    obtain ⟨henv, henv'⟩ := requireNonEmpty_eq_ok.1 henv
    dsimp only at h
    split at h
    · next region hregion =>
      obtain ⟨_, hok, h⟩ := bind_eq_ok h
      obtain rfl := Except.ok.inj hok
      split at h
      · next urls hurls =>
        obtain ⟨texts, htexts, h⟩ := bind_eq_ok h
        obtain rfl := Except.ok.inj h
        rw [eq_strings_of_read htexts] at hurls
        exact ⟨⟨hhost, henv, hregion, hurls⟩, hhost', henv'⟩
      · cases h
    · cases h

/-! ### A start's mode -/

/-- A field is taken by its reader: it is missing or null, or of a kind that is converted. -/
def Takes (α : Type) [JsonValue α] (j : Json) (k : String) : Prop :=
  ∀ x, j.find k = some x → x.isNull ∨ ∃ a : α, getTo x = .ok a

def StartTunnel.textKeys : List String :=
  ["by_jwt", "network_space_json", "instance_id", "device_description", "device_spec",
    "app_version", "rpc_server_pem", "rpc_client_cert_pem", "rpc_listen_hostport",
    "rpc_session_id", "network_country_code", "network_country_source", "system_proxy"]

/-- No field of the start is of a kind that its reader refuses. -/
structure StartTunnel.Readable (j : Json) : Prop where
  texts : ∀ k ∈ textKeys, Takes ByteArray j k
  excludedAppPaths : Takes (List ByteArray) j "excluded_app_paths"
  allowlistMode : Takes Bool j "allowlist_mode"
  killSwitch : Takes Bool j "kill_switch"

/-- What is started is what was asked for. -/
def StartTunnel.Asked (j : Json) : StartMode → Prop
  | .tunnel => j.find "mode" = none ∨ j.find "mode" = some (toJson (utf8 "tunnel"))
  | .rpcOnly => j.find "mode" = some (toJson (utf8 "rpc_only"))

lemma get_isOk {α : Type} [JsonValue α] {j : Json} {k : String} {out : α} :
    (∃ a, j.get k out = .ok a) ↔ Takes α j k := by
  constructor
  · rintro ⟨a, h⟩ x hx
    rw [Json.get, hx] at h
    dsimp only at h
    split_ifs at h with hnull
    · exact .inl hnull
    · exact .inr ⟨a, h⟩
  · intro h
    rw [Json.get]
    split
    · next x hx =>
      split_ifs with hnull
      · exact ⟨out, rfl⟩
      · exact (h x hx).resolve_left hnull
    · exact ⟨out, rfl⟩

lemma startModeFromString_eq_some {s : ByteArray} {m : StartMode} :
    startModeFromString s = some m ↔ s = utf8 (startModeName m) := by
  constructor
  · intro h
    rw [startModeFromString] at h
    split_ifs at h with htunnel hrpcOnly
    · rw [← Option.some.inj h]
      exact htunnel
    · rw [← Option.some.inj h]
      exact hrpcOnly
  · rintro rfl
    exact startModeFromString_name m

namespace StartTunnel

/-- The mode that is read: the one in words, or else the one that stood there. -/
def ReadsMode (j : Json) (was mode : StartMode) : Prop :=
  match j.find "mode" with
  | some (.string raw) => startModeFromString raw = some mode
  | _ => mode = was

/-- What a start is read as, field by field. -/
structure Reads (j : Json) (d v : StartTunnel) : Prop where
  mode : ReadsMode j d.mode v.mode
  byJwt : j.get "by_jwt" d.byJwt = .ok v.byJwt
  networkSpaceJson : j.get "network_space_json" d.networkSpaceJson = .ok v.networkSpaceJson
  instanceId : j.get "instance_id" d.instanceId = .ok v.instanceId
  deviceDescription : j.get "device_description" d.deviceDescription = .ok v.deviceDescription
  deviceSpec : j.get "device_spec" d.deviceSpec = .ok v.deviceSpec
  appVersion : j.get "app_version" d.appVersion = .ok v.appVersion
  rpcServerPem : j.get "rpc_server_pem" d.rpcServerPem = .ok v.rpcServerPem
  rpcClientCertPem : j.get "rpc_client_cert_pem" d.rpcClientCertPem = .ok v.rpcClientCertPem
  rpcListenHostport : j.get "rpc_listen_hostport" d.rpcListenHostport = .ok v.rpcListenHostport
  rpcSessionId : j.get "rpc_session_id" d.rpcSessionId = .ok v.rpcSessionId
  excludedAppPaths : j.get "excluded_app_paths" d.excludedAppPaths = .ok v.excludedAppPaths
  allowlistMode : j.get "allowlist_mode" d.allowlistMode = .ok v.allowlistMode
  killSwitch : j.get "kill_switch" d.killSwitch = .ok v.killSwitch
  networkCountryCode : j.get "network_country_code" d.networkCountryCode = .ok v.networkCountryCode
  networkCountrySource :
    j.get "network_country_source" d.networkCountrySource = .ok v.networkCountrySource
  systemProxy : j.get "system_proxy" d.systemProxy = .ok v.systemProxy

lemma readsMode_of_string {j : Json} {was mode : StartMode} {raw : ByteArray}
    (h : j.find "mode" = some (.string raw)) :
    ReadsMode j was mode ↔ startModeFromString raw = some mode := by
  rw [ReadsMode, h]

lemma readsMode_of_not_string {j : Json} {was mode : StartMode}
    (h : ∀ raw, j.find "mode" ≠ some (.string raw)) : ReadsMode j was mode ↔ mode = was := by
  rw [ReadsMode]
  split
  · next raw hfind => exact absurd hfind (h raw)
  · exact Iff.rfl

lemma reads_of_decode {j : Json} {d v : StartTunnel} (h : decode j d = .ok v) : Reads j d v := by
  dsimp only [decode] at h
  split at h
  on_goal 1 => split at h
  on_goal 2 => cases h
  -- The same fields follow a mode in words and any other.
  all_goals
    simp only [bind_eq_ok_iff] at h
    obtain ⟨_, hok, _, h₁, _, h₂, _, h₃, _, h₄, _, h₅, _, h₆, _, h₇, _, h₈, _, h₉, _, h₁₀,
      _, h₁₁, _, h₁₂, _, h₁₃, _, h₁₄, _, h₁₅, _, h₁₆, h⟩ := h
    obtain rfl := Except.ok.inj hok
    obtain rfl := Except.ok.inj h
    refine ⟨?_, h₁, h₂, h₃, h₄, h₅, h₆, h₇, h₈, h₉, h₁₀, h₁₁, h₁₂, h₁₃, h₁₄, h₁₅, h₁₆⟩
  · exact (readsMode_of_string ‹_›).2 ‹_›
  · exact (readsMode_of_not_string ‹_›).2 rfl

lemma decode_of_reads {j : Json} {d v : StartTunnel} (h : Reads j d v) : decode j d = .ok v := by
  simp only [decode, h.byJwt, h.networkSpaceJson, h.instanceId, h.deviceDescription,
    h.deviceSpec, h.appVersion, h.rpcServerPem, h.rpcClientCertPem, h.rpcListenHostport,
    h.rpcSessionId, h.excludedAppPaths, h.allowlistMode, h.killSwitch, h.networkCountryCode,
    h.networkCountrySource, h.systemProxy]
  split
  · next raw hfind =>
    rw [(readsMode_of_string hfind).1 h.mode]
    rfl
  · next hne =>
    rw [← (readsMode_of_not_string hne).1 h.mode]
    rfl

lemma readable_of_reads {j : Json} {d v : StartTunnel} (h : Reads j d v) : Readable j where
  texts := by
    simp only [textKeys, List.forall_mem_cons]
    exact ⟨get_isOk.1 ⟨_, h.byJwt⟩, get_isOk.1 ⟨_, h.networkSpaceJson⟩,
      get_isOk.1 ⟨_, h.instanceId⟩, get_isOk.1 ⟨_, h.deviceDescription⟩,
      get_isOk.1 ⟨_, h.deviceSpec⟩, get_isOk.1 ⟨_, h.appVersion⟩,
      get_isOk.1 ⟨_, h.rpcServerPem⟩, get_isOk.1 ⟨_, h.rpcClientCertPem⟩,
      get_isOk.1 ⟨_, h.rpcListenHostport⟩, get_isOk.1 ⟨_, h.rpcSessionId⟩,
      get_isOk.1 ⟨_, h.networkCountryCode⟩, get_isOk.1 ⟨_, h.networkCountrySource⟩,
      get_isOk.1 ⟨_, h.systemProxy⟩, List.forall_mem_nil _⟩
  excludedAppPaths := get_isOk.1 ⟨_, h.excludedAppPaths⟩
  allowlistMode := get_isOk.1 ⟨_, h.allowlistMode⟩
  killSwitch := get_isOk.1 ⟨_, h.killSwitch⟩

/-- A start that no reader refuses is read, with the mode that is spelled or the default one. -/
lemma exists_reads {j : Json} {mode : StartMode} (h : Readable j)
    (hmode : ReadsMode j .tunnel mode) : ∃ v, Reads j default v ∧ v.mode = mode := by
  have htext : ∀ k, ∃ s : ByteArray, k ∈ textKeys → j.get k .empty = .ok s := by
    intro k
    by_cases hk : k ∈ textKeys
    · obtain ⟨s, hs⟩ := get_isOk.2 (h.texts k hk)
      exact ⟨s, fun _ => hs⟩
    · exact ⟨.empty, fun hk' => absurd hk' hk⟩
  choose text htext using htext
  obtain ⟨paths, hpaths⟩ := get_isOk.2 h.excludedAppPaths
  obtain ⟨allowlist, hallowlist⟩ := get_isOk.2 h.allowlistMode
  obtain ⟨kill, hkill⟩ := get_isOk.2 h.killSwitch
  refine ⟨{ byJwt := text "by_jwt"
            networkSpaceJson := text "network_space_json"
            instanceId := text "instance_id"
            deviceDescription := text "device_description"
            deviceSpec := text "device_spec"
            appVersion := text "app_version"
            rpcServerPem := text "rpc_server_pem"
            rpcClientCertPem := text "rpc_client_cert_pem"
            rpcListenHostport := text "rpc_listen_hostport"
            rpcSessionId := text "rpc_session_id"
            networkCountryCode := text "network_country_code"
            networkCountrySource := text "network_country_source"
            systemProxy := text "system_proxy"
            excludedAppPaths := paths
            allowlistMode := allowlist
            killSwitch := kill
            mode := mode }, ?_, rfl⟩
  constructor
  case mode => exact hmode
  case excludedAppPaths => exact hpaths
  case allowlistMode => exact hallowlist
  case killSwitch => exact hkill
  all_goals
    apply htext
    simp [textKeys]

end StartTunnel

/-! ### What is read is what was sent -/

/-- A start is read as what it asks for, and a write holds what it was sent. -/
structure ReadAsSent (j : Json) : Prop where
  start : ∀ v : StartTunnel, decode j default = .ok v → StartTunnel.Asked j v.mode
  writes : WritesAsSent j

/-- A mode of any other kind than a text is passed over, and the start is one of the tunnel. -/
theorem readAsSent_iff (j : Json) :
    ReadAsSent j ↔
      (∀ x, j.find "mode" = some x → x.isString) ∨ ¬StartTunnel.Readable j := by
  constructor
  · intro h
    by_contra hnot
    push Not at hnot
    obtain ⟨⟨x, hfind, hx⟩, hreadable⟩ := hnot
    have hne : ∀ raw, j.find "mode" ≠ some (.string raw) := by
      rintro raw hraw
      rw [hfind] at hraw
      rw [Option.some.inj hraw] at hx
      exact hx rfl
    obtain ⟨v, hreads, hmode⟩ :=
      StartTunnel.exists_reads hreadable ((StartTunnel.readsMode_of_not_string hne).2 rfl)
    have hasked := h.start v (StartTunnel.decode_of_reads hreads)
    rw [hmode] at hasked
    rcases hasked with hnone | htunnel
    · rw [hfind] at hnone
      exact Option.some_ne_none x hnone
    · exact hne _ htunnel
  · intro h
    refine ⟨fun v hv => ?_, writesAsSent j⟩
    have hreads := StartTunnel.reads_of_decode hv
    have hstring := h.resolve_right (not_not.2 (StartTunnel.readable_of_reads hreads))
    have hmode := hreads.mode
    cases hfind : j.find "mode" with
    | none =>
      have hne : ∀ raw, j.find "mode" ≠ some (.string raw) := by
        rintro raw hraw
        rw [hfind] at hraw
        cases hraw
      rw [(StartTunnel.readsMode_of_not_string hne).1 hmode]
      exact .inl hfind
    | some x =>
      obtain ⟨raw, rfl⟩ : ∃ raw, x = .string raw := by
        have hx := hstring x hfind
        cases x with
        | string raw => exact ⟨raw, rfl⟩
        | _ => cases hx
      have hraw := startModeFromString_eq_some.1 ((StartTunnel.readsMode_of_string hfind).1 hmode)
      rw [hraw] at hfind
      cases hm : v.mode with
      | tunnel =>
        rw [hm] at hfind
        exact .inr hfind
      | rpcOnly =>
        rw [hm] at hfind
        exact hfind

/-- `{"mode": ["rpc_only"]}`, read as a start of the tunnel. -/
theorem readAsSent_fails :
    ¬ReadAsSent (.object (members [("mode", .array [toJson (utf8 "rpc_only")])])) := by
  intro h
  have hfind : (Json.object (members [("mode", .array [toJson (utf8 "rpc_only")])])).find "mode" =
      some (.array [toJson (utf8 "rpc_only")]) := by simp
  have hread : decode (Json.object (members [("mode", .array [toJson (utf8 "rpc_only")])]))
      (default : StartTunnel) = .ok {} := by
    simp [decode, Json.get]
    rfl
  rcases h.start _ hread with hnone | htunnel
  · cases hfind.symm.trans hnone
  · cases Option.some.inj (hfind.symm.trans htunnel)

end UrnetworkWindows.Proto
