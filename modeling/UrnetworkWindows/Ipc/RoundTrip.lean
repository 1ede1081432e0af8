/-
The control protocol decodes what it encodes.

A decoder asks a JSON value for nothing but the names in its list, so the value need only
agree with the encoded message there: what else it holds, the type tag of a request among
it, makes no difference.  Two kinds of message are not read back in full.  The strict
requests refuse an empty name for their space, and `ProviderStats` keeps a document only in
its shape, so that a null series of points comes back as an empty one.
-/
import UrnetworkWindows.Ipc.Messages

namespace UrnetworkWindows.Proto

open Lib Controller

lemma ReadsBack.request {α : Type} [Message α] {v : α} (h : ReadsBack v)
    (hk : "type" ∉ keys α) (type : String) :
    decode (request type (encode v)) default = .ok v :=
  h _ (AgreesOn.set hk _)

lemma ReadsBack.object {α : Type} [Message α] {v : α} (h : ReadsBack v) :
    decode (.object (encode v)) default = .ok v :=
  h _ (AgreesOn.refl _ _)

/-! ### Tolerant requests -/

lemma StartTunnel.readsBack (v : StartTunnel) : ReadsBack v := by
  intro j h
  have hf : ∀ k ∈ keys StartTunnel, j.find k = (encode v).find k := h
  have hm : j.find "mode" = some (.string (utf8 (startModeName v.mode))) := by
    rw [h "mode" (by simp [keys])]
    simp [encode]
    rfl
  simp [decode, hm, Json.get, hf, keys, encode, bind, Except.bind, pure, Except.pure]

lemma SetSplitTunnel.readsBack (v : SetSplitTunnel) : ReadsBack v := by
  intro j h
  have hf : ∀ k ∈ keys SetSplitTunnel, j.find k = (encode v).find k := h
  simp [decode, Json.get, hf, keys, encode, bind, Except.bind, pure, Except.pure]

lemma Logout.readsBack (v : Logout) : ReadsBack v := by
  intro j h
  have hf : j.find "network_space_json" = some (.string v.networkSpaceJson) :=
    h "network_space_json" (by simp [keys])
  simp [decode, hf]

lemma SetKillSwitch.readsBack (v : SetKillSwitch) : ReadsBack v := by
  intro j h
  have hf : ∀ k ∈ keys SetKillSwitch, j.find k = (encode v).find k := h
  simp [decode, Json.get, hf, keys, encode, bind, Except.bind, pure, Except.pure]

lemma StartProvider.readsBack (v : StartProvider) : ReadsBack v := by
  intro j h
  have hf : ∀ k ∈ keys StartProvider, j.find k = (encode v).find k := h
  simp [decode, Json.get, hf, keys, encode, bind, Except.bind, pure, Except.pure]

lemma SetNetworkCountry.readsBack (v : SetNetworkCountry) : ReadsBack v := by
  intro j h
  have hf : ∀ k ∈ keys SetNetworkCountry, j.find k = (encode v).find k := h
  simp [decode, Json.get, hf, keys, encode, bind, Except.bind, pure, Except.pure]

lemma eq_empty_of_isEmpty {s : ByteArray} (h : (!s.isEmpty) = false) : s = .empty := by
  rw [← ByteArray.size_eq_zero_iff]
  simpa [ByteArray.isEmpty] using h

lemma UploadLogs.readsBack (v : UploadLogs) : ReadsBack v := by
  intro j h
  have hf : ∀ k ∈ keys UploadLogs, j.find k = (encode v).find k := h
  have hdir : j.get "app_log_dir" (default : UploadLogs).appLogDir = .ok v.appLogDir := by
    refine Json.get_of_optional eq_empty_of_isEmpty ?_
    rw [h "app_log_dir" (by simp [keys])]
    simp [encode, find_setIf]
  simp only [decode, hdir]
  simp [Json.get, hf, keys, encode, find_setIf, bind, Except.bind, pure, Except.pure]

/-! ### Strict requests -/

lemma requireBoolean_of_written {request k : String} {j : Json} {b : Bool}
    (h : j.find k = some (.boolean b)) : requireBoolean request j k = .ok b := by
  rw [requireBoolean, h]

lemma requireNonEmpty_of_written {request k : String} {j : Json} {s : ByteArray}
    (h : j.find k = some (.string s)) (hs : s.isEmpty = false) :
    requireNonEmpty request j k = .ok s := by
  simp [requireNonEmpty, h, hs]

lemma isEmpty_of_requireNonEmpty {request k : String} {j : Json} {s : ByteArray}
    (h : requireNonEmpty request j k = .ok s) : s.isEmpty = false := by
  rw [requireNonEmpty] at h
  split at h
  · next t _ =>
    split at h
    · cases h
    · next ht =>
      obtain rfl := Except.ok.inj h
      simpa using ht
  · cases h

lemma readControlDohUrls_strings (urls : List ByteArray) :
    readControlDohUrls (urls.map .string) = .ok urls := by
  induction urls with
  | nil => rfl
  | cons url urls ih =>
    rw [List.map_cons, readControlDohUrls, ih]
    rfl

lemma SetProvideExtender.readsBack (v : SetProvideExtender) : ReadsBack v := by
  intro j h
  have hf : j.find "provide_extender" = some (.boolean v.provideExtender) :=
    h "provide_extender" (by simp [keys])
  simp only [decode, requireBoolean_of_written hf]
  rfl

lemma SetMeasurementsEnabled.readsBack (v : SetMeasurementsEnabled) : ReadsBack v := by
  intro j h
  have hf : j.find "measurements_enabled" = some (.boolean v.measurementsEnabled) :=
    h "measurements_enabled" (by simp [keys])
  simp only [decode, requireBoolean_of_written hf]
  rfl

/-- The request names its space and its reset. -/
def ResetExtenders.Named (v : ResetExtenders) : Prop :=
  v.hostName.isEmpty = false ∧ v.envName.isEmpty = false ∧ v.extenderResetId.isEmpty = false

lemma ResetExtenders.readsBack {v : ResetExtenders} (hv : v.Named) : ReadsBack v := by
  intro j h
  obtain ⟨hhost, henv, hid⟩ := hv
  have hf : ∀ k ∈ keys ResetExtenders, j.find k = (encode v).find k := h
  have h₁ : j.find "host_name" = some (.string v.hostName) := hf _ (by simp [keys])
  have h₂ : j.find "env_name" = some (.string v.envName) := hf _ (by simp [keys])
  have h₃ : j.find "extender_reset_id" = some (.string v.extenderResetId) :=
    hf _ (by simp [keys])
  simp only [decode, requireNonEmpty_of_written h₁ hhost, requireNonEmpty_of_written h₂ henv,
    requireNonEmpty_of_written h₃ hid]
  rfl

lemma ResetExtenders.named_of_decode {j : Json} {d v : ResetExtenders}
    (h : decode j d = .ok v) : v.Named := by
  obtain ⟨host, hhost, h⟩ := bind_eq_ok h
  obtain ⟨env, henv, h⟩ := bind_eq_ok h
  obtain ⟨id, hid, h⟩ := bind_eq_ok h
  obtain rfl := Except.ok.inj h
  exact ⟨isEmpty_of_requireNonEmpty hhost, isEmpty_of_requireNonEmpty henv,
    isEmpty_of_requireNonEmpty hid⟩

/-- The request names its space. -/
def SetIngressDns.Named (v : SetIngressDns) : Prop :=
  v.hostName.isEmpty = false ∧ v.envName.isEmpty = false

lemma SetIngressDns.readsBack {v : SetIngressDns} (hv : v.Named) : ReadsBack v := by
  intro j h
  obtain ⟨hhost, henv⟩ := hv
  have hf : ∀ k ∈ keys SetIngressDns, j.find k = (encode v).find k := h
  have h₁ : j.find "host_name" = some (.string v.hostName) := hf _ (by simp [keys])
  have h₂ : j.find "env_name" = some (.string v.envName) := hf _ (by simp [keys])
  have h₃ : j.find "ingress_country_code" = some (.string v.ingressCountryCode) :=
    hf _ (by simp [keys])
  have h₄ : j.find "control_doh_urls" = some (.array (v.controlDohUrls.map .string)) :=
    hf _ (by simp [keys])
  simp only [decode, requireNonEmpty_of_written h₁ hhost, requireNonEmpty_of_written h₂ henv,
    h₃, h₄, readControlDohUrls_strings]
  rfl

/-! ### Replies -/

lemma TunnelStatus.readsBack (v : TunnelStatus) : ReadsBack v := by
  intro j h
  have hf : ∀ k ∈ keys TunnelStatus, j.find k = (encode v).find k := h
  have hs : j.find "state" = some (.string (utf8 (tunnelStateName v.state))) := by
    rw [h "state" (by simp [keys])]
    simp [encode]
    rfl
  have hm : j.find "mode" = some (.string (utf8 (startModeName v.mode))) := by
    rw [h "mode" (by simp [keys])]
    simp [encode]
    rfl
  simp [decode, hs, hm, Json.get, hf, keys, encode, bind, Except.bind, pure, Except.pure]

/-- The documents have their shape.  Both series of points are arrays, and the others may
also be null. -/
structure ProviderStats.Shaped (v : ProviderStats) : Prop where
  networkPeers : v.networkPeers = .null ∨ v.networkPeers.isArray
  providerPoints : v.providerPoints.isArray
  providerDistribution : v.providerDistribution = .null ∨ v.providerDistribution.isObject
  extenderPoints : v.extenderPoints.isArray
  extenderProvideStatus : v.extenderProvideStatus = .null ∨ v.extenderProvideStatus.isObject

lemma keep_of_shaped {p : Json → Bool} {j x : Json} {k : String} (h : j.find k = some x)
    (hx : x = .null ∨ p x) : j.keep p k .null = x := by
  rcases hx with rfl | hx
  · rw [Json.keep, h]
    exact ite_self _
  · exact Json.keep_of_kind h hx

lemma isArray_keep {j out : Json} {k : String} (h : out.isArray) :
    (j.keep Json.isArray k out).isArray := by
  rw [Json.keep]
  split
  · split
    · assumption
    · exact h
  · exact h

lemma shaped_keep {p : Json → Bool} {j : Json} {k : String} :
    j.keep p k .null = .null ∨ p (j.keep p k .null) := by
  rw [Json.keep]
  split
  · split
    · exact .inr ‹_›
    · exact .inl rfl
  · exact .inl rfl

lemma ProviderStats.shaped_of_decode {j : Json} {v : ProviderStats}
    (h : decode j default = .ok v) : v.Shaped := by
  obtain ⟨_, _, h⟩ := bind_eq_ok h
  obtain ⟨_, _, h⟩ := bind_eq_ok h
  obtain ⟨_, _, h⟩ := bind_eq_ok h
  obtain ⟨_, _, h⟩ := bind_eq_ok h
  obtain ⟨_, _, h⟩ := bind_eq_ok h
  obtain ⟨_, _, h⟩ := bind_eq_ok h
  obtain ⟨_, _, h⟩ := bind_eq_ok h
  obtain ⟨_, _, h⟩ := bind_eq_ok h
  obtain ⟨_, _, h⟩ := bind_eq_ok h
  obtain rfl := Except.ok.inj h
  exact ⟨shaped_keep, isArray_keep rfl, shaped_keep, isArray_keep rfl, shaped_keep⟩

lemma ProviderStats.readsBack {v : ProviderStats} (hv : v.Shaped) : ReadsBack v := by
  intro j h
  have hf : ∀ k ∈ keys ProviderStats, j.find k = (encode v).find k := h
  have h₁ : j.keep Json.isArray "network_peers" .null = v.networkPeers :=
    keep_of_shaped (by simp [hf, keys, encode]) hv.networkPeers
  have h₂ : j.keep Json.isArray "provider_points" (.array []) = v.providerPoints :=
    Json.keep_of_kind (by simp [hf, keys, encode]) hv.providerPoints
  have h₃ : j.keep Json.isObject "provider_distribution" .null = v.providerDistribution :=
    keep_of_shaped (by simp [hf, keys, encode]) hv.providerDistribution
  have h₄ : j.keep Json.isArray "extender_points" (.array []) = v.extenderPoints :=
    Json.keep_of_kind (by simp [hf, keys, encode]) hv.extenderPoints
  have h₅ : j.keep Json.isObject "extender_provide_status" .null = v.extenderProvideStatus :=
    keep_of_shaped (by simp [hf, keys, encode]) hv.extenderProvideStatus
  simp [decode, default, h₁, h₂, h₃, h₄, h₅, Json.get, hf, keys, encode, bind, Except.bind,
    pure, Except.pure]

lemma nested_of_written {α : Type} [Message α] {s : Option α} (h : ∀ v ∈ s, ReadsBack v)
    {j : Json} {k : String} (hj : j.find k = s.map fun v => .object (encode v)) :
    nested j k (none : Option α) = .ok s := by
  cases s with
  | none => rw [nested, hj]; rfl
  | some v =>
    have hv : decode (.object (encode v)) (default : α) = .ok v := (h v rfl).object
    rw [nested, hj]
    show some <$> decode (.object (encode v)) (default : α) = .ok (some v)
    rw [hv]
    rfl

lemma Reply.readsBack {v : Reply} (hv : ∀ s ∈ v.providerStats, s.Shaped) : ReadsBack v := by
  intro j h
  have hf : ∀ k ∈ keys Reply, j.find k = (encode v).find k := h
  have hstatus : nested j "status" none = .ok v.status := by
    refine nested_of_written (fun s _ => s.readsBack) ?_
    rw [hf _ (by simp [keys])]
    cases hs : v.status <;> simp [encode, find_setIf, find_setSome, hs]
  have hstats : nested j "provider_stats" none = .ok v.providerStats := by
    refine nested_of_written (fun s hs => ProviderStats.readsBack (hv s hs)) ?_
    rw [hf _ (by simp [keys])]
    cases hs : v.providerStats <;> simp [encode, find_setIf, find_setSome, hs]
  have hcarrier : j.get "log_upload_carrier" .empty = .ok v.logUploadCarrier := by
    refine Json.get_of_optional eq_empty_of_isEmpty ?_
    rw [hf _ (by simp [keys])]
    simp [encode, find_setIf, find_setSome]
  have hid : j.get "log_upload_id" (0 : Int64) = .ok v.logUploadId := by
    refine Json.get_of_optional (c := v.logUploadId != 0) (by simp) ?_
    rw [hf _ (by simp [keys])]
    simp [encode, find_setIf, find_setSome]
  -- the five flags are written only where they stand
  have flag {k : String} {b : Bool} (hk : k ∈ keys Reply)
      (he : (encode v).find k = if b then some (toJson true) else none) :
      j.get k false = .ok b :=
    Json.get_of_flag ((hf k hk).trans he)
  have hbusy : j.get "log_upload_busy" false = .ok v.logUploadBusy :=
    flag (by simp [keys]) (by simp [encode, find_setIf, find_setSome])
  have hreset : j.get "reset" false = .ok v.reset :=
    flag (by simp [keys]) (by simp [encode, find_setIf, find_setSome])
  have hresetBusy : j.get "reset_busy" false = .ok v.resetBusy :=
    flag (by simp [keys]) (by simp [encode, find_setIf, find_setSome])
  have hheld : j.get "ingress_dns_held" false = .ok v.ingressDnsHeld :=
    flag (by simp [keys]) (by simp [encode, find_setIf, find_setSome])
  have hdnsBusy : j.get "ingress_dns_busy" false = .ok v.ingressDnsBusy :=
    flag (by simp [keys]) (by simp [encode, find_setIf, find_setSome])
  simp only [decode, default, hstatus, hstats, hcarrier, hid, hbusy, hreset, hresetBusy, hheld,
    hdnsBusy]
  simp [Json.get, hf, keys, encode, find_setIf, find_setSome, bind, Except.bind, pure,
    Except.pure]

/-! ### The protocol -/

/-- Every message is read back as it was written, whatever else the value holds under
names its decoder does not read. -/
theorem messages_read_back :
    (∀ v : StartTunnel, ReadsBack v) ∧
    (∀ v : SetSplitTunnel, ReadsBack v) ∧
    (∀ v : Logout, ReadsBack v) ∧
    (∀ v : SetKillSwitch, ReadsBack v) ∧
    (∀ v : StartProvider, ReadsBack v) ∧
    (∀ v : SetNetworkCountry, ReadsBack v) ∧
    (∀ v : UploadLogs, ReadsBack v) ∧
    (∀ v : SetProvideExtender, ReadsBack v) ∧
    (∀ v : SetMeasurementsEnabled, ReadsBack v) ∧
    (∀ v : ResetExtenders, v.Named → ReadsBack v) ∧
    (∀ v : SetIngressDns, v.Named → ReadsBack v) ∧
    (∀ v : TunnelStatus, ReadsBack v) ∧
    (∀ v : ProviderStats, v.Shaped → ReadsBack v) ∧
    (∀ v : Reply, (∀ s ∈ v.providerStats, s.Shaped) → ReadsBack v) :=
  ⟨StartTunnel.readsBack, SetSplitTunnel.readsBack, Logout.readsBack, SetKillSwitch.readsBack,
    StartProvider.readsBack, SetNetworkCountry.readsBack, UploadLogs.readsBack,
    SetProvideExtender.readsBack, SetMeasurementsEnabled.readsBack,
    fun _ => ResetExtenders.readsBack, fun _ => SetIngressDns.readsBack,
    TunnelStatus.readsBack, fun _ => ProviderStats.readsBack, fun _ => Reply.readsBack⟩

/-- A reset and a region under their type tags, and the reply to a request for statistics
with one point and a status. -/
def sampleReset : ResetExtenders where
  hostName := utf8 "ur.network"
  envName := utf8 "main"
  extenderResetId := utf8 "7"

def sampleIngressDns : SetIngressDns where
  hostName := utf8 "ur.network"
  envName := utf8 "main"
  controlDohUrls := [utf8 "https://1.1.1.1/dns-query"]

def sampleStats : ProviderStats where
  available := true
  providerPoints := .array [.object []]

def sampleReply : Reply where
  ok := true
  status := some { state := .preparing, mode := .rpcOnly }
  providerStats := some sampleStats
  resetBusy := true

theorem messages_read_back_sample :
    decode (request "reset_extenders" (encode sampleReset)) default = .ok sampleReset ∧
    decode (request "set_ingress_dns" (encode sampleIngressDns)) default =
      .ok sampleIngressDns ∧
    ReadsBack sampleStats ∧ ReadsBack sampleReply := by
  obtain ⟨-, -, -, -, -, -, -, -, -, hreset, hdns, -, hstats, hreply⟩ := messages_read_back
  have hshaped : sampleStats.Shaped := ⟨.inl rfl, rfl, .inl rfl, rfl, .inl rfl⟩
  refine ⟨(hreset _ ⟨?_, ?_, ?_⟩).request (by simp [keys]) _,
    (hdns _ ⟨?_, ?_⟩).request (by simp [keys]) _, hstats _ hshaped, hreply _ ?_⟩
  · decide
  · decide
  · decide
  · decide
  · decide
  · rintro s hs
    cases hs
    exact hshaped

/-- A null series of points comes back empty, and a reset without an id is refused. -/
theorem null_points_read_as_empty :
    ¬ ReadsBack { providerPoints := .null : ProviderStats } ∧
    ¬ ReadsBack { sampleReset with extenderResetId := .empty } := by
  constructor
  · intro h
    have hshaped := ProviderStats.shaped_of_decode h.object
    exact absurd hshaped.providerPoints (by decide)
  · intro h
    have hnamed := ResetExtenders.named_of_decode h.object
    exact absurd hnamed.2.2 (by decide)

end UrnetworkWindows.Proto
