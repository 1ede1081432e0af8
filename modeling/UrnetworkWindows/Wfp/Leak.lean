/-
What the leak-prevention policy lets through.

* `permitted_connected_dualStack`: a connected dual-stack tunnel lets out only
  loopback, our own images, the tun, the LAN and the link-scoped protocols.
* `dns_decided_by_resolvers`: DNS goes to the configured resolvers and nowhere
  else, and the other name-resolution ports go nowhere at all.
* `armed_narrows`: the policy of an idle machine depends on no session state, and
  lets nothing through that the two connection states do not.
-/
import UrnetworkWindows.Wfp.Matches

namespace UrnetworkWindows.Wfp

open Lib Lib.Arbitration Net

/-! ### Vocabulary of the statements -/

/-- The remote address is in the bypass table of its family. -/
def Connection.toLocalBypass (c : Connection) : Bool :=
  c.remoteV4.any (fun a => kLocalBypassV4.any fun b => b.hasAddr a) ||
    c.remoteV6.any (fun a => kLocalBypassV6.any fun b => b.hasAddr a)

/-- Some resolver of the tunnel parses. -/
def ParsesTunnelResolver (pton : InetPton) (cfg : WfpConfig) : Prop :=
  (∃ r ∈ cfg.tunnelResolversV4, (pton.v4 r).isSome = true) ∨
    ∃ r ∈ cfg.tunnelResolversV6, (pton.v6 r).isSome = true

section Shared

variable {pton : InetPton} {state : WfpState} {cfg : WfpConfig}

lemma filterMap_ne_nil_iff {α : Type*} {f : String → Option α} {l : List String} :
    l.filterMap f ≠ [] ↔ ∃ r ∈ l, (f r).isSome = true := by
  simp only [ne_eq, List.filterMap_eq_nil_iff, not_forall, Option.isSome_iff_ne_none]
  constructor
  · rintro ⟨r, hr, h⟩
    exact ⟨r, hr, h⟩
  · rintro ⟨r, hr, h⟩
    exact ⟨r, hr, h⟩

lemma sharedDnsPath_connecting :
    sharedDnsPath pton .connecting cfg = true ↔ hostResolverAddrs pton cfg ≠ [] := by
  simp only [sharedDnsPath, hostResolverFilters, tunnelResolverFilters, tunnelResolverV6Filters,
    tunnelV6]
  by_cases h : hostResolverAddrs pton cfg = [] <;> simp [h]

lemma sharedDnsPath_connected :
    sharedDnsPath pton .connected cfg = true ↔
      tunnelResolverFilters pton .connected cfg ≠ [] ∨
        tunnelResolverV6Filters pton .connected cfg ≠ [] := by
  simp [sharedDnsPath, hostResolverFilters, or_iff_not_imp_left]

lemma sharedDnsPath_of_parses (hluid : cfg.tunLuid ≠ 0#64) (hv6 : cfg.tunnelIpv6 = true)
    (hres : ParsesTunnelResolver pton cfg) : sharedDnsPath pton .connected cfg = true := by
  rw [sharedDnsPath_connected]
  rcases hres with h | h
  · left
    have hne := filterMap_ne_nil_iff.2 h
    simpa [tunnelResolverFilters, hluid] using hne
  · right
    have hne := filterMap_ne_nil_iff.2 h
    simpa [tunnelResolverV6Filters, tunnelV6, hluid, hv6] using hne

end Shared

/-! ### The configuration of the self test -/

/-- `SampleConfig` of `SelfTest.cpp`. -/
def sampleConfig (luid : BitVec 64) : WfpConfig where
  tunLuid := luid
  tunnelResolversV4 := ["169.254.2.53"]
  tunnelIpv6 := true
  tunnelResolversV6 := ["2001:db8::65:49:70:65"]
  hostResolversV4 := ["192.168.1.1"]
  serviceImagePath := "C:\\Program Files\\URnetwork\\urnetworkd.exe"
  appImagePath := "C:\\Program Files\\URnetwork\\URnetwork.exe"

/-- `inet_pton` on the texts of `sampleConfig`. -/
def samplePton : InetPton where
  v4 := fun t =>
    if t = "169.254.2.53" then some 0xA9FE0235#32
    else if t = "192.168.1.1" then some 0xC0A80101#32
    else none
  v6 := fun t =>
    if t = "2001:db8::65:49:70:65" then some 0x20010db8000000000065004900700065#128 else none

/-- A browser on the physical adapter, to a remote TCP port. -/
def browser (remote : Endpoints) (port : BitVec 16) : Connection where
  outbound := true
  endpoints := remote
  appId := "C:\\browser.exe"
  flags := 0#32
  localInterface := 3#64
  protocol := kProtoTcp
  localPort := 50000#16
  remotePort := port

/-! ### Leak freedom -/

/-- **The connected dual-stack policy leaks nothing.** -/
theorem permitted_connected_dualStack (pton : InetPton) (cfg : WfpConfig)
    (hluid : cfg.tunLuid ≠ 0#64) (hv6 : cfg.tunnelIpv6 = true)
    (hres : ParsesTunnelResolver pton cfg) (c : Connection) (hout : c.outbound = true)
    (hperm : permitted (buildFilterSet pton .connected cfg) c = true) :
    c.loopback = true ∨
    (c.ofImage cfg.serviceImagePath ∨ c.ofImage cfg.appImagePath) ∨
    c.localInterface = cfg.tunLuid ∨
    (cfg.allowLan = true ∧ c.toLocalBypass = true ∧ c.isDns = false) ∨
    (c.isDhcpV4Broadcast = true ∨ c.isDhcpV6Request = true ∨ c.isNdp = true) := by
  have htunnel : tunnelV6 .connected cfg = true := by simp [tunnelV6, hluid, hv6]
  have hfloor : anyMatch (floorFilters .connected cfg) c = true := by
    simp [anyMatch_floorFilters, blockV6, htunnel]
  have hshared := sharedDnsPath_of_parses hluid hv6 hres
  rw [permitted_buildFilterSet _ _ _ (by simp), hfloor] at hperm
  simp only [Bool.not_true, Bool.or_false, Bool.and_eq_true, Bool.or_eq_true,
    Bool.not_eq_true'] at hperm
  obtain ⟨hbase, hdns⟩ := hperm
  -- a DNS query has to match a permit of the DNS sublayer, whatever the baseline says
  have hquery : c.isDns = true →
      c.loopback = true ∨ (c.ofImage cfg.serviceImagePath ∨ c.ofImage cfg.appImagePath) ∨
        c.localInterface = cfg.tunLuid := by
    intro hq
    have hblock : anyMatch (dnsBlocks pton .connected cfg) c = true :=
      (anyMatch_dnsBlocks pton .connected cfg hout).2 (.inl ⟨.inr hshared, hq⟩)
    rw [hblock] at hdns
    rcases ((anyMatch_dnsPermits pton .connected cfg hout).1 (by simpa using hdns)).2 with
      h | ⟨-, h⟩ | ⟨h, -⟩ | ⟨-, -, h, -⟩ | ⟨-, h, -⟩ | h
    · exact .inr (.inl (.inl h))
    · exact .inr (.inl (.inr h))
    · exact absurd h (by simp)
    · exact .inr (.inr h)
    · exact .inr (.inr h)
    · exact .inl h
  cases hq : c.isDns with
  | true =>
    rcases hquery hq with h | h | h
    · exact .inl h
    · exact .inr (.inl h)
    · exact .inr (.inr (.inl h))
  | false =>
    rcases (anyMatch_baselinePermits .connected cfg hout).1 hbase with
      h | ⟨-, h⟩ | h | ⟨-, -, -, h⟩ | ⟨-, -, h⟩ | ⟨hlan, h⟩ | ⟨hlan, -, h⟩ | h | h | h | h
    · exact .inr (.inl (.inl h))
    · exact .inr (.inl (.inr h))
    · exact .inl h
    · exact .inr (.inr (.inl h))
    · exact .inr (.inr (.inl h))
    · refine .inr (.inr (.inr (.inl ⟨hlan, ?_, rfl⟩)))
      rw [Connection.toLocalBypass, Bool.or_eq_true]
      exact .inl h
    · refine .inr (.inr (.inr (.inl ⟨hlan, ?_, rfl⟩)))
      rw [Connection.toLocalBypass, Bool.or_eq_true]
      exact .inr h
    · exact .inr (.inr (.inr (.inr (.inl h))))
    · exact .inr (.inr (.inr (.inr (.inr (.inl h)))))
    · exact .inr (.inr (.inr (.inr (.inr (.inr h)))))
    · rw [hq] at h
      exact absurd h (by simp)

theorem permitted_connected_dualStack_printer :
    permitted (buildFilterSet samplePton .connected (sampleConfig 7#64))
        (browser (.v4 0xC0A80105#32 0xC0A80109#32) 631#16) = true ∧
      ((browser (.v4 0xC0A80105#32 0xC0A80109#32) 631#16).loopback = true ∨
        ((browser (.v4 0xC0A80105#32 0xC0A80109#32) 631#16).ofImage
            (sampleConfig 7#64).serviceImagePath ∨
          (browser (.v4 0xC0A80105#32 0xC0A80109#32) 631#16).ofImage
            (sampleConfig 7#64).appImagePath) ∨
        (browser (.v4 0xC0A80105#32 0xC0A80109#32) 631#16).localInterface =
          (sampleConfig 7#64).tunLuid ∨
        ((sampleConfig 7#64).allowLan = true ∧
          (browser (.v4 0xC0A80105#32 0xC0A80109#32) 631#16).toLocalBypass = true ∧
          (browser (.v4 0xC0A80105#32 0xC0A80109#32) 631#16).isDns = false) ∨
        ((browser (.v4 0xC0A80105#32 0xC0A80109#32) 631#16).isDhcpV4Broadcast = true ∨
          (browser (.v4 0xC0A80105#32 0xC0A80109#32) 631#16).isDhcpV6Request = true ∨
          (browser (.v4 0xC0A80105#32 0xC0A80109#32) 631#16).isNdp = true)) :=
  have hperm : permitted (buildFilterSet samplePton .connected (sampleConfig 7#64))
      (browser (.v4 0xC0A80105#32 0xC0A80109#32) 631#16) = true := by decide +kernel
  ⟨hperm, permitted_connected_dualStack samplePton (sampleConfig 7#64) (by decide) rfl
    (.inl ⟨"169.254.2.53", by simp [sampleConfig], by decide⟩) _ rfl hperm⟩

/-! ### Name resolution -/

section Dns

variable {pton : InetPton} {state : WfpState} {cfg : WfpConfig} {c : Connection}

lemma permitted_eq_of_dnsBlocks (hoff : state ≠ .off)
    (hblock : anyMatch (dnsBlocks pton state cfg) c = true) :
    permitted (buildFilterSet pton state cfg) c =
      ((anyMatch (baselinePermits state cfg) c || !anyMatch (floorFilters state cfg) c) &&
        anyMatch (dnsPermits pton state cfg) c) := by
  rw [permitted_buildFilterSet _ _ _ hoff, hblock, Bool.not_true, Bool.or_false]

/-- Where DNS is blocked, a query goes through exactly when the DNS sublayer
permits it: the baseline lifts every query. -/
lemma permitted_query_iff (hoff : state ≠ .off) (hout : c.outbound = true)
    (hq : c.isDns = true)
    (hpath : attemptsConnection state = false ∨ sharedDnsPath pton state cfg = true) :
    permitted (buildFilterSet pton state cfg) c = anyMatch (dnsPermits pton state cfg) c := by
  have hblock : anyMatch (dnsBlocks pton state cfg) c = true :=
    (anyMatch_dnsBlocks pton state cfg hout).2 (.inl ⟨hpath, hq⟩)
  have hlift : anyMatch (baselinePermits state cfg) c = true := by
    rw [anyMatch_baselinePermits state cfg hout]
    simp [hq]
  rw [permitted_eq_of_dnsBlocks hoff hblock, hlift, Bool.true_or, Bool.true_and]

lemma permitted_armed_query (hout : c.outbound = true) (hq : c.isDns = true)
    (hloop : c.loopback = false) (hservice : ¬ c.ofImage cfg.serviceImagePath) :
    permitted (buildFilterSet pton .armed cfg) c = false := by
  rw [permitted_query_iff (by simp) hout hq (.inl rfl), ← Bool.not_eq_true,
    anyMatch_dnsPermits pton .armed cfg hout]
  simp [hloop, hservice, attemptsConnection, tunnelV6]

lemma permitted_connecting_query (hout : c.outbound = true) (hq : c.isDns = true)
    (hloop : c.loopback = false) (hservice : ¬ c.ofImage cfg.serviceImagePath)
    (happ : ¬ c.ofImage cfg.appImagePath) (hres : hostResolverAddrs pton cfg ≠ []) :
    permitted (buildFilterSet pton .connecting cfg) c = true ↔
      ∃ a, c.remoteV4 = some a ∧ ∃ r ∈ cfg.hostResolversV4, pton.v4 r = some a := by
  rw [permitted_query_iff (by simp) hout hq (.inr (sharedDnsPath_connecting.2 hres)),
    anyMatch_dnsPermits pton .connecting cfg hout]
  simp only [hq, hloop, hservice, happ, tunnelV6, hostResolverAddrs, List.mem_filterMap]
  simp [and_comm]

lemma permitted_connected_query (hluid : cfg.tunLuid ≠ 0#64) (hout : c.outbound = true)
    (hq : c.isDns = true) (hloop : c.loopback = false)
    (hservice : ¬ c.ofImage cfg.serviceImagePath) (happ : ¬ c.ofImage cfg.appImagePath)
    (hres : tunnelResolverFilters pton .connected cfg ≠ [] ∨
      tunnelResolverV6Filters pton .connected cfg ≠ []) :
    permitted (buildFilterSet pton .connected cfg) c = true ↔
      c.localInterface = cfg.tunLuid ∧
        ((∃ a, c.remoteV4 = some a ∧ ∃ r ∈ cfg.tunnelResolversV4, pton.v4 r = some a) ∨
          (cfg.tunnelIpv6 = true ∧
            ∃ a, c.remoteV6 = some a ∧ ∃ r ∈ cfg.tunnelResolversV6, pton.v6 r = some a)) := by
  rw [permitted_query_iff (by simp) hout hq (.inr (sharedDnsPath_connected.2 hres)),
    anyMatch_dnsPermits pton .connected cfg hout]
  simp only [hq, hloop, hservice, happ, tunnelV6, List.mem_filterMap]
  constructor
  · rintro ⟨-, h | h | h | ⟨-, -, htun, a, ⟨r, hr, ha⟩, hrem⟩ |
      ⟨hv6, htun, a, ⟨r, hr, ha⟩, hrem⟩ | h⟩
    · simp at h
    · simp at h
    · simp at h
    · exact ⟨htun, .inl ⟨a, hrem, r, hr, ha⟩⟩
    · exact ⟨htun, .inr ⟨by simpa [hluid] using hv6, a, hrem, r, hr, ha⟩⟩
    · simp at h
  · rintro ⟨htun, ⟨a, hrem, r, hr, ha⟩ | ⟨hv6, a, hrem, r, hr, ha⟩⟩
    · exact ⟨trivial, .inr (.inr (.inr (.inl ⟨trivial, hluid, htun, a, ⟨r, hr, ha⟩, hrem⟩)))⟩
    · exact ⟨trivial, .inr (.inr (.inr (.inr (.inl
        ⟨by simp [hv6, hluid], htun, a, ⟨r, hr, ha⟩, hrem⟩))))⟩

lemma permitted_nameResolution (hoff : state ≠ .off) (hblk : cfg.blockLocalNameResolution = true)
    (hout : c.outbound = true) (hudp : c.isUdpTcp = true)
    (hport : c.remotePort ∈
      [kPortNetbiosNs, kPortNetbiosDgm, kPortNetbiosSsn, kPortMdns, kPortLlmnr]) :
    permitted (buildFilterSet pton state cfg) c = false := by
  have hmem : c.remotePort ∈
      [kPortLlmnr, kPortMdns, kPortNetbiosNs, kPortNetbiosDgm, kPortNetbiosSsn] := by
    simp only [List.mem_cons, List.not_mem_nil, or_false] at hport ⊢
    tauto
  have hblock : anyMatch (dnsBlocks pton state cfg) c = true :=
    (anyMatch_dnsBlocks pton state cfg hout).2 (.inr ⟨hblk, hudp, hmem⟩)
  -- none of these ports is port 53, the only one a permit of the sublayer names
  have hquery : c.isDns = false := by
    have hne : c.remotePort ≠ kPortDns := by
      rintro heq
      rw [heq] at hport
      exact absurd hport (by decide)
    simp [Connection.isDns, hne]
  have hpermit : anyMatch (dnsPermits pton state cfg) c = false := by
    rw [← Bool.not_eq_true, anyMatch_dnsPermits pton state cfg hout]
    simp [hquery]
  rw [permitted_eq_of_dnsBlocks hoff hblock, hpermit, Bool.and_false]

end Dns

/-- **DNS is decided by the resolver lists**, the tunnel's IPv6 resolvers being in
use when the tunnel carries IPv6; and the other name-resolution ports are closed
to everyone. -/
theorem dns_decided_by_resolvers (pton : InetPton) (cfg : WfpConfig) (c : Connection)
    (hout : c.outbound = true) :
    (c.isDns = true → c.loopback = false → ¬ c.ofImage cfg.serviceImagePath →
      permitted (buildFilterSet pton .armed cfg) c = false ∧
      (¬ c.ofImage cfg.appImagePath →
        ((∃ r ∈ cfg.hostResolversV4, (pton.v4 r).isSome = true) →
          (permitted (buildFilterSet pton .connecting cfg) c = true ↔
            ∃ a, c.remoteV4 = some a ∧ ∃ r ∈ cfg.hostResolversV4, pton.v4 r = some a)) ∧
        (cfg.tunLuid ≠ 0#64 →
          tunnelResolverFilters pton .connected cfg ≠ [] ∨
            tunnelResolverV6Filters pton .connected cfg ≠ [] →
          (permitted (buildFilterSet pton .connected cfg) c = true ↔
            c.localInterface = cfg.tunLuid ∧
              ((∃ a, c.remoteV4 = some a ∧ ∃ r ∈ cfg.tunnelResolversV4, pton.v4 r = some a) ∨
                (cfg.tunnelIpv6 = true ∧ ∃ a, c.remoteV6 = some a ∧
                  ∃ r ∈ cfg.tunnelResolversV6, pton.v6 r = some a)))))) ∧
    (∀ state, state ≠ .off → cfg.blockLocalNameResolution = true → c.isUdpTcp = true →
      c.remotePort ∈ [kPortNetbiosNs, kPortNetbiosDgm, kPortNetbiosSsn, kPortMdns, kPortLlmnr] →
      permitted (buildFilterSet pton state cfg) c = false) := by
  refine ⟨fun hq hloop hservice => ⟨permitted_armed_query hout hq hloop hservice, ?_⟩, ?_⟩
  · intro happ
    refine ⟨fun hres => ?_, fun hluid hres => ?_⟩
    · exact permitted_connecting_query hout hq hloop hservice happ (filterMap_ne_nil_iff.2 hres)
    · exact permitted_connected_query hluid hout hq hloop hservice happ hres
  · intro state hoff hblk hudp hport
    exact permitted_nameResolution hoff hblk hout hudp hport

/-- The browser's query to a tunnel resolver, over the tun. -/
def tunnelQuery (remote : Endpoints) : Connection :=
  { browser remote kPortDns with localInterface := 7#64 }

theorem dns_decided_by_resolvers_sample :
    permitted (buildFilterSet samplePton .connected (sampleConfig 7#64))
      (tunnelQuery (.v4 0xA9FE0201#32 0xA9FE0235#32)) = true ∧
    permitted (buildFilterSet samplePton .armed (sampleConfig 7#64))
      (browser (.v4 0xC0A80105#32 0x08080808#32) kPortLlmnr) = false :=
  ⟨((((dns_decided_by_resolvers samplePton (sampleConfig 7#64)
      (tunnelQuery (.v4 0xA9FE0201#32 0xA9FE0235#32)) rfl).1 rfl rfl
        (fun h => absurd h.2 (by decide))).2 (fun h => absurd h.2 (by decide))).2 (by decide)
        (.inl (by decide))).2
      ⟨rfl, .inl ⟨0xA9FE0235#32, rfl, "169.254.2.53", by simp [sampleConfig], by decide⟩⟩,
    (dns_decided_by_resolvers samplePton (sampleConfig 7#64)
      (browser (.v4 0xC0A80105#32 0x08080808#32) kPortLlmnr) rfl).2 .armed (by simp) rfl rfl
      (by decide)⟩

/-- The `staleV6` configuration of the self test: an IPv6 resolver on a tunnel that
carries no IPv6. -/
def staleV6Config : WfpConfig := { sampleConfig 7#64 with tunnelIpv6 := false }

/-- Over a tunnel without IPv6, the listed IPv6 resolver is not reached. -/
theorem staleV6_resolver_blocked :
    staleV6Config.tunLuid ≠ 0#64 ∧
    tunnelResolverFilters samplePton .connected staleV6Config ≠ [] ∧
    (tunnelQuery (.v6 0#128 0x20010db8000000000065004900700065#128)).outbound = true ∧
    (tunnelQuery (.v6 0#128 0x20010db8000000000065004900700065#128)).isDns = true ∧
    (tunnelQuery (.v6 0#128 0x20010db8000000000065004900700065#128)).loopback = false ∧
    (tunnelQuery (.v6 0#128 0x20010db8000000000065004900700065#128)).appId ≠
      staleV6Config.serviceImagePath ∧
    (tunnelQuery (.v6 0#128 0x20010db8000000000065004900700065#128)).appId ≠
      staleV6Config.appImagePath ∧
    ¬ (permitted (buildFilterSet samplePton .connected staleV6Config)
        (tunnelQuery (.v6 0#128 0x20010db8000000000065004900700065#128)) = true ↔
      (tunnelQuery (.v6 0#128 0x20010db8000000000065004900700065#128)).localInterface =
        staleV6Config.tunLuid ∧
      ∃ r ∈ staleV6Config.tunnelResolversV6, samplePton.v6 r =
        (tunnelQuery (.v6 0#128 0x20010db8000000000065004900700065#128)).remoteV6) := by
  decide +kernel

/-! ### Narrowing -/

section Narrow

variable {pton : InetPton} {state : WfpState} {cfg : WfpConfig} {c : Connection}

lemma anyMatch_mono {fs gs : List WfpFilterSpec} (h : fs ⊆ gs) (hf : anyMatch fs c = true) :
    anyMatch gs c = true := by
  simp only [anyMatch, List.any_eq_true] at hf ⊢
  obtain ⟨f, hmem, hmatch⟩ := hf
  exact ⟨f, h hmem, hmatch⟩

lemma baselinePermits_armed :
    baselinePermits .armed cfg = serviceFilters cfg ++ loopbackFilters ++ lanFilters cfg ++
      dhcpV4Filters ++ dhcpV6Filters ++ ndpFilters ++ dnsLiftFilters := by
  simp [baselinePermits, appFilters, tunFilters, tunV6Filters, lanV6Filters, tunnelV6,
    attemptsConnection]

lemma dnsPermits_armed :
    dnsPermits pton .armed cfg = serviceDnsFilters cfg ++ loopbackDnsFilters := by
  simp [dnsPermits, appDnsFilters, hostResolverFilters, tunnelResolverFilters,
    tunnelResolverV6Filters, tunnelV6, attemptsConnection]

lemma baselinePermits_armed_subset : baselinePermits .armed cfg ⊆ baselinePermits state cfg := by
  intro f hf
  rw [baselinePermits_armed] at hf
  simp only [baselinePermits, List.mem_append] at hf ⊢
  tauto

lemma dnsPermits_armed_subset : dnsPermits pton .armed cfg ⊆ dnsPermits pton state cfg := by
  intro f hf
  rw [dnsPermits_armed] at hf
  simp only [dnsPermits, List.mem_append] at hf ⊢
  tauto

lemma dnsBlocks_subset_armed : dnsBlocks pton state cfg ⊆ dnsBlocks pton .armed cfg := by
  intro f hf
  simp only [dnsBlocks, List.mem_append] at hf ⊢
  refine hf.imp (fun h => ?_) id
  rw [dnsBlockFilters] at h
  split_ifs at h
  · simpa [dnsBlockFilters, attemptsConnection] using h
  · exact absurd h List.not_mem_nil

lemma permitted_of_permitted_armed (hblk : cfg.blockIpv6WhenDisconnected = true)
    (hoff : state ≠ .off) (hperm : permitted (buildFilterSet pton .armed cfg) c = true) :
    permitted (buildFilterSet pton state cfg) c = true := by
  have hfloor : anyMatch (floorFilters .armed cfg) c = true := by
    simp [anyMatch_floorFilters, blockV6, hblk]
  rw [permitted_buildFilterSet _ _ _ (by simp), hfloor] at hperm
  rw [permitted_buildFilterSet _ _ _ hoff]
  simp only [Bool.not_true, Bool.or_false, Bool.and_eq_true, Bool.or_eq_true,
    Bool.not_eq_true'] at hperm ⊢
  obtain ⟨hbase, hdns⟩ := hperm
  refine ⟨.inl (anyMatch_mono baselinePermits_armed_subset hbase), ?_⟩
  refine hdns.imp (anyMatch_mono dnsPermits_armed_subset) fun hnone => ?_
  rw [← Bool.not_eq_true] at hnone ⊢
  exact fun h => hnone (anyMatch_mono dnsBlocks_subset_armed h)

lemma buildFilterSet_armed_congr {a c : WfpConfig} (hlan : a.allowLan = c.allowLan)
    (hblk : a.blockIpv6WhenDisconnected = c.blockIpv6WhenDisconnected)
    (hname : a.blockLocalNameResolution = c.blockLocalNameResolution)
    (himage : a.serviceImagePath = c.serviceImagePath) :
    buildFilterSet pton .armed a = buildFilterSet pton .armed c := by
  simp only [buildFilterSet, baselinePermits_armed, dnsPermits_armed, serviceFilters, lanFilters,
    serviceDnsFilters, floorFilters, blockV6, tunnelV6, dnsBlocks, dnsBlockFilters,
    nameResolutionFilters, attemptsConnection, hlan, hblk, hname, himage]
  simp

end Narrow

/-- **Narrowing to `armed` opens nothing.** -/
theorem armed_narrows (pton : InetPton) (a c : WfpConfig)
    (hblk : c.blockIpv6WhenDisconnected = true) (hlan : a.allowLan = c.allowLan)
    (hblk' : a.blockIpv6WhenDisconnected = c.blockIpv6WhenDisconnected)
    (hname : a.blockLocalNameResolution = c.blockLocalNameResolution)
    (himage : a.serviceImagePath = c.serviceImagePath) :
    buildFilterSet pton .armed a = buildFilterSet pton .armed c ∧
    ∀ conn : Connection, permitted (buildFilterSet pton .armed a) conn = true →
      permitted (buildFilterSet pton .connecting c) conn = true ∧
      permitted (buildFilterSet pton .connected c) conn = true := by
  have heq : buildFilterSet pton .armed a = buildFilterSet pton .armed c :=
    buildFilterSet_armed_congr hlan hblk' hname himage
  refine ⟨heq, fun conn hperm => ?_⟩
  rw [heq] at hperm
  exact ⟨permitted_of_permitted_armed hblk (by simp) hperm,
    permitted_of_permitted_armed hblk (by simp) hperm⟩

/-- The watchdog's base configuration against the session's. -/
theorem armed_narrows_sample :
    permitted (buildFilterSet samplePton .armed
        { serviceImagePath := (sampleConfig 7#64).serviceImagePath })
      (browser (.v4 0xC0A80105#32 0xC0A80109#32) 631#16) = true ∧
    permitted (buildFilterSet samplePton .connected (sampleConfig 7#64))
      (browser (.v4 0xC0A80105#32 0xC0A80109#32) 631#16) = true :=
  have hperm : permitted (buildFilterSet samplePton .armed
      { serviceImagePath := (sampleConfig 7#64).serviceImagePath })
      (browser (.v4 0xC0A80105#32 0xC0A80109#32) 631#16) = true := by decide +kernel
  ⟨hperm, ((armed_narrows samplePton { serviceImagePath := (sampleConfig 7#64).serviceImagePath }
    (sampleConfig 7#64) rfl rfl rfl rfl rfl).2 _ hperm).2⟩

end UrnetworkWindows.Wfp
