/-
What each list of `buildFilterSet` matches.

One lemma per numbered list says, in terms of the connection alone, when some
filter of the list matches it.  They are simp lemmas: the four parts of a filter
set unfold into them, and the results about whole policies never look inside a
filter again.
-/
import UrnetworkWindows.Wfp.Decision

namespace UrnetworkWindows.Wfp

open Lib Lib.Arbitration Net

/-! ### Conditions -/

section Conditions

variable (c : Connection)

@[simp] lemma holds_condAppId (path : String) : (condAppId path).holds c = (c.appId == path) := rfl

@[simp] lemma holds_condLoopback : condLoopback.holds c = c.loopback := rfl

@[simp] lemma holds_condLocalInterface (luid : BitVec 64) :
    (condLocalInterface luid).holds c = (c.localInterface == luid) := rfl

@[simp] lemma holds_condProtocol (proto : BitVec 8) :
    (condProtocol proto).holds c = (c.protocol == proto) := by
  simp [condProtocol, WfpCondition.holds, WfpMatch.test]

@[simp] lemma holds_condLocalPort (port : BitVec 16) :
    (condLocalPort port).holds c = (c.localPort == port) := by
  simp [condLocalPort, WfpCondition.holds, WfpMatch.test]

@[simp] lemma holds_condRemotePort (port : BitVec 16) :
    (condRemotePort port).holds c = (c.remotePort == port) := by
  simp [condRemotePort, WfpCondition.holds, WfpMatch.test]

@[simp] lemma holds_condRemoteV4_host (a : BitVec 32) :
    (condRemoteV4 a 32).holds c = (c.remoteV4 == some a) := by
  have hmask : prefixMask 32 = BitVec.allOnes 32 := by decide
  have hand : ∀ x : BitVec 32, x &&& prefixMask 32 = x := by
    intro x
    rw [hmask, BitVec.and_allOnes]
  cases h : c.remoteV4 with
  | none => simp [condRemoteV4, WfpCondition.holds, h]
  | some r =>
    simp [condRemoteV4, WfpCondition.holds, h, WfpCondition.testV4, hand, beq_eq_decide]

@[simp] lemma holds_condV6_host (a : BitVec 128) :
    (condV6 .remoteAddrV6 a 128).holds c = (c.remoteV6 == some a) := by
  have hmask : mask 128 128 = BitVec.allOnes 128 := by decide
  have hand : ∀ x : BitVec 128, x &&& mask 128 128 = x := by
    intro x
    rw [hmask, BitVec.and_allOnes]
  cases h : c.remoteV6 with
  | none => simp [condV6, WfpCondition.holds, h]
  | some r =>
    simp [condV6, WfpCondition.holds, h, WfpCondition.testV6, hand, beq_eq_decide]

lemma holds_condRemoteV4 {p : V4Prefix} (h : p.toPrefix.Aligned) :
    (condRemoteV4 p.network p.prefixLen).holds c = c.remoteV4.any p.hasAddr := by
  have haddr : p.network &&& prefixMask p.prefixLen = p.network := by
    rw [prefixMask_eq]
    exact h.2
  simp only [condRemoteV4, WfpCondition.holds]
  congr 1
  funext r
  simp only [WfpCondition.testV4, V4Prefix.hasAddr, haddr]

lemma holds_condRemoteV6Prefix {p : V6Prefix} (h : p.toPrefix.Aligned) :
    (condRemoteV6Prefix p).holds c = c.remoteV6.any p.hasAddr := by
  have haddr : p.bytes &&& mask 128 p.prefixLen = p.bytes := h.2
  simp only [condRemoteV6Prefix, WfpCondition.holds]
  congr 1
  funext r
  apply Bool.eq_iff_iff.2
  rw [V6Prefix.hasAddr_iff]
  simp only [WfpCondition.testV6, haddr, beq_iff_eq]
  rfl

/-- Is the address in the network? -/
def inV6 (network : BitVec 128) (len : ℕ) (a : BitVec 128) : Bool :=
  a &&& mask 128 len == network

lemma holds_condV6_remote {a : BitVec 128} {len : ℕ} (h : a &&& mask 128 len = a) :
    (condV6 .remoteAddrV6 a len).holds c = c.remoteV6.any (inV6 a len) := by
  simp only [condV6, WfpCondition.holds]
  congr 1
  funext r
  simp only [WfpCondition.testV6, inV6, h]

lemma holds_condV6_local {a : BitVec 128} {len : ℕ} (h : a &&& mask 128 len = a) :
    (condV6 .localAddrV6 a len).holds c = c.localV6.any (inV6 a len) := by
  simp only [condV6, WfpCondition.holds]
  congr 1
  funext r
  simp only [WfpCondition.testV6, inV6, h]

@[simp] lemma condsMatch_nil : condsMatch c [] = true := rfl

@[simp] lemma condsMatch_singleton (k : WfpCondition) : condsMatch c [k] = k.holds c :=
  matchesAll_singleton k

variable {ks : List WfpCondition}

lemma condsMatch_cons {k : WfpCondition} (h : ∀ k' ∈ ks, k.field ≠ k'.field) :
    condsMatch c (k :: ks) = (k.holds c && condsMatch c ks) :=
  matchesAll_cons h

lemma condsMatch_of_field_eq {i : WfpField} (hne : ks ≠ []) (h : ∀ k ∈ ks, k.field = i) :
    condsMatch c ks = ks.any (WfpCondition.holds c) :=
  matchesAll_of_field_eq hne h

lemma condsMatch_map {α : Type*} {l : List α} (g : α → WfpCondition) (i : WfpField)
    (p : α → Bool) (hne : l ≠ []) (hfield : ∀ a, (g a).field = i)
    (hholds : ∀ a ∈ l, (g a).holds c = p a) : condsMatch c (l.map g) = l.any p := by
  rw [@condsMatch_of_field_eq c (l.map g) i (by simpa using hne)
    (by simpa using fun a _ => hfield a)]
  apply Bool.eq_iff_iff.2
  simp only [List.any_map, List.any_eq_true, Function.comp]
  exact exists_congr fun a => and_congr_right fun ha => by rw [hholds a ha]

lemma condsMatch_udpTcp_append (h : ∀ k ∈ ks, k.field ≠ .protocol) :
    condsMatch c (udpTcp ++ ks) = (c.isUdpTcp && condsMatch c ks) := by
  have hfield : ∀ k ∈ udpTcp, k.field = .protocol := by simp [udpTcp, condProtocol]
  have hproto : condsMatch c udpTcp = c.isUdpTcp := by
    rw [condsMatch_of_field_eq c (by simp [udpTcp]) hfield]
    simp [udpTcp, Connection.isUdpTcp]
  have happ := @matchesAll_append _ _ _ WfpCondition.field (WfpCondition.holds c) udpTcp ks
    (fun x hx y hy heq => h y hy (heq ▸ hfield x hx))
  rw [← hproto]
  exact happ

lemma condsMatch_dnsConds_append (h : ∀ k ∈ ks, k.field ≠ .protocol ∧ k.field ≠ .remotePort) :
    condsMatch c (dnsConds ++ ks) = (c.isDns && condsMatch c ks) := by
  rw [dnsConds, List.append_assoc, condsMatch_udpTcp_append, List.singleton_append,
    condsMatch_cons, holds_condRemotePort, Connection.isDns, Bool.and_assoc]
  · exact fun k hk heq => (h k hk).2 heq.symm
  · intro k hk
    rcases List.mem_cons.1 hk with rfl | hk
    · simp [condRemotePort]
    · exact (h k hk).1

@[simp] lemma condsMatch_dnsConds : condsMatch c dnsConds = c.isDns := by
  simpa using @condsMatch_dnsConds_append c [] (by simp)

end Conditions

/-! ### Layers -/

namespace Connection

variable (c : Connection)

/-- An IPv4 connection. -/
def isV4 : Bool := c.remoteV4.isSome

end Connection

section Lists

variable (pton : InetPton) (state : WfpState) (cfg : WfpConfig) (c : Connection)

@[simp] lemma anyMatch_nil : anyMatch [] c = false := rfl

@[simp] lemma anyMatch_append (fs gs : List WfpFilterSpec) :
    anyMatch (fs ++ gs) c = (anyMatch fs c || anyMatch gs c) := by
  simp [anyMatch]

lemma anyMatch_cons (f : WfpFilterSpec) (fs : List WfpFilterSpec) :
    anyMatch (f :: fs) c =
      ((f.layer = c.layer && condsMatch c f.conditions) || anyMatch fs c) := by
  simp [anyMatch]

lemma anyMatch_ite (p : Prop) [Decidable p] (fs : List WfpFilterSpec) :
    anyMatch (if p then fs else []) c = (decide p && anyMatch fs c) := by
  split_ifs with h <;> simp [h]

lemma anyMatch_map_layers (ls : List WfpLayer) (g : WfpLayer → WfpFilterSpec)
    (ks : List WfpCondition) (h : ∀ l, (g l).layer = l ∧ (g l).conditions = ks) :
    anyMatch (ls.map g) c = (ls.contains c.layer && condsMatch c ks) := by
  induction ls with
  | nil => rfl
  | cons l ls ih =>
    rw [List.map_cons, anyMatch_cons, ih, (h l).1, (h l).2, List.contains_cons]
    cases condsMatch c ks <;> simp [beq_eq_decide, eq_comm (a := l)]

/-! ### The baseline permits -/

@[simp] lemma anyMatch_imageFilters (nameV4 nameV6 path : String) :
    anyMatch (imageFilters nameV4 nameV6 path) c = (c.appId == path) := by
  rw [imageFilters, anyMatch_append, anyMatch_map_layers c _ _ [condAppId path] (by simp),
    anyMatch_map_layers c _ _ [condAppId path] (by simp)]
  cases h : c.layer <;> simp

lemma anyMatch_serviceFilters :
    anyMatch (serviceFilters cfg) c =
      (cfg.serviceImagePath != "" && c.appId == cfg.serviceImagePath) := by
  rw [serviceFilters]
  split_ifs with h <;> simp [h]

lemma anyMatch_appFilters :
    anyMatch (appFilters state cfg) c =
      (attemptsConnection state && cfg.appImagePath != "" && c.appId == cfg.appImagePath) := by
  rw [appFilters, anyMatch_ite, anyMatch_imageFilters]
  simp [bne, beq_eq_decide]

lemma anyMatch_loopbackFilters : anyMatch loopbackFilters c = c.loopback := by
  rw [loopbackFilters, anyMatch_append, anyMatch_map_layers c _ _ [condLoopback] (by simp),
    anyMatch_map_layers c _ _ [condLoopback] (by simp)]
  cases h : c.layer <;> simp

lemma contains_layersV4 : [WfpLayer.connectV4, .recvAcceptV4].contains c.layer = c.isV4 := by
  simp only [Connection.layer, Connection.isV4, Connection.remoteV4]
  cases c.outbound <;> cases c.endpoints <;> rfl

lemma contains_layersV6 : [WfpLayer.connectV6, .recvAcceptV6].contains c.layer = !c.isV4 := by
  simp only [Connection.layer, Connection.isV4, Connection.remoteV4]
  cases c.outbound <;> cases c.endpoints <;> rfl

lemma anyMatch_tunFilters :
    anyMatch (tunFilters state cfg) c =
      (decide (state = .connected ∧ cfg.tunLuid ≠ 0#64) &&
        (c.isV4 && c.localInterface == cfg.tunLuid)) := by
  rw [tunFilters, anyMatch_ite,
    anyMatch_map_layers c _ _ [condLocalInterface cfg.tunLuid] (by simp), contains_layersV4]
  simp

lemma anyMatch_tunV6Filters :
    anyMatch (tunV6Filters state cfg) c =
      (tunnelV6 state cfg && (!c.isV4 && c.localInterface == cfg.tunLuid)) := by
  rw [tunV6Filters, anyMatch_ite,
    anyMatch_map_layers c _ _ [condLocalInterface cfg.tunLuid] (by simp), contains_layersV6]
  simp

lemma anyMatch_lanFilters :
    anyMatch (lanFilters cfg) c = (cfg.allowLan && c.remoteV4.any isLocalBypassV4) := by
  have hlan : condsMatch c (kLocalBypassV4.map fun p => condRemoteV4 p.network p.prefixLen) =
      c.remoteV4.any isLocalBypassV4 := by
    rw [condsMatch_map c (fun p : V4Prefix => condRemoteV4 p.network p.prefixLen) .remoteAddrV4
      (fun p => c.remoteV4.any p.hasAddr) (by simp [kLocalBypassV4]) (fun _ => rfl)
      fun p hp => holds_condRemoteV4 c (kLocalBypassV4_aligned p hp)]
    cases c.remoteV4 <;> simp [isLocalBypassV4]
  rw [lanFilters, anyMatch_ite]
  simp only [anyMatch_cons, anyMatch_nil, hlan, Bool.or_false, Bool.decide_eq_true]
  cases h : c.endpoints <;> cases h' : c.outbound <;>
    simp [Connection.layer, h, h', Connection.remoteV4]

lemma anyMatch_lanV6Filters :
    anyMatch (lanV6Filters state cfg) c =
      (cfg.allowLan && tunnelV6 state cfg &&
        c.remoteV6.any fun a => kLocalBypassV6.any fun b => b.hasAddr a) := by
  have hlan : condsMatch c (kLocalBypassV6.map condRemoteV6Prefix) =
      c.remoteV6.any fun a => kLocalBypassV6.any fun b => b.hasAddr a := by
    rw [condsMatch_map c condRemoteV6Prefix .remoteAddrV6
      (fun p => c.remoteV6.any p.hasAddr) (by simp [kLocalBypassV6]) (fun _ => rfl)
      fun p hp => holds_condRemoteV6Prefix c (kLocalBypassV6_aligned p hp)]
    cases c.remoteV6 <;> simp
  rw [lanV6Filters, anyMatch_ite]
  simp only [anyMatch_cons, anyMatch_nil, hlan, Bool.or_false, Bool.decide_eq_true]
  cases h : c.endpoints <;> cases h' : c.outbound <;>
    simp [Connection.layer, h, h', Connection.remoteV6]

end Lists

/-! ### The link-scoped shapes, outbound -/

namespace Connection

variable (c : Connection)

/-- A DHCPv4 broadcast: UDP 68 to 67 at 255.255.255.255. -/
def isDhcpV4Broadcast : Bool :=
  c.protocol == kProtoUdp && c.localPort == kPortDhcpClient &&
    c.remotePort == kPortDhcpServer && c.remoteV4 == some 0xFFFFFFFF#32

/-- A DHCPv6 request: UDP 546 to 547 from a link-local address to the relay
agents and servers of the link or to all servers of the site. -/
def isDhcpV6Request : Bool :=
  c.protocol == kProtoUdp && c.localV6.any (inV6 kV6LinkLocal 10) &&
    c.localPort == kPortDhcpV6Client && c.remotePort == kPortDhcpV6Server &&
    (c.remoteV6 == some kV6DhcpRelayAgentsAndServers || c.remoteV6 == some kV6DhcpAllServers)

/-- Neighbour discovery: a router solicitation to all routers of the link, or a
neighbour solicitation or advertisement to a link-local unicast or multicast
address. -/
def isNdp : Bool :=
  c.protocol == kProtoIcmpV6 &&
    ((c.localPort == kIcmpV6RouterSolicit && c.remoteV6 == some kV6AllRouters) ||
      ((c.localPort == kIcmpV6NeighborSolicit || c.localPort == kIcmpV6NeighborAdvert) &&
        (c.remoteV6.any (inV6 kV6LinkLocal 10) || c.remoteV6.any (inV6 kV6LinkLocalMcast 16))))

end Connection

/-- The connection belongs to an image; no image has the empty path. -/
def Connection.ofImage (c : Connection) (path : String) : Prop := path ≠ "" ∧ c.appId = path

section Outbound

variable (pton : InetPton) (state : WfpState) (cfg : WfpConfig) {c : Connection}
  (hout : c.outbound = true)

include hout

lemma layer_of_outbound : c.layer = if c.isV4 then .connectV4 else .connectV6 := by
  cases h : c.endpoints <;>
    simp [Connection.layer, Connection.isV4, Connection.remoteV4, hout, h]

lemma anyMatch_dhcpV4Filters : anyMatch dhcpV4Filters c = c.isDhcpV4Broadcast := by
  have hconds : condsMatch c [condProtocol kProtoUdp, condLocalPort kPortDhcpClient,
      condRemotePort kPortDhcpServer, condRemoteV4 0xFFFFFFFF#32 32] = c.isDhcpV4Broadcast := by
    rw [condsMatch_cons c (by simp [condProtocol, condLocalPort, condRemotePort, condRemoteV4]),
      condsMatch_cons c (by simp [condLocalPort, condRemotePort, condRemoteV4]),
      condsMatch_cons c (by simp [condRemotePort, condRemoteV4])]
    simp [Connection.isDhcpV4Broadcast, Bool.and_assoc]
  simp only [dhcpV4Filters, anyMatch_cons, anyMatch_nil, hconds, layer_of_outbound hout]
  -- a broadcast is an IPv4 connection
  cases h : c.remoteV4 with
  | none => simp [Connection.isV4, h, Connection.isDhcpV4Broadcast]
  | some r => simp [Connection.isV4, h]

omit hout in
lemma condsMatch_pairV6 {a b : BitVec 128} {m n : ℕ} (ha : a &&& mask 128 m = a)
    (hb : b &&& mask 128 n = b) :
    condsMatch c [condV6 .remoteAddrV6 a m, condV6 .remoteAddrV6 b n] =
      (c.remoteV6.any (inV6 a m) || c.remoteV6.any (inV6 b n)) := by
  rw [@condsMatch_of_field_eq c _ .remoteAddrV6 (by simp) (by simp [condV6])]
  simp [holds_condV6_remote c ha, holds_condV6_remote c hb]

lemma anyMatch_dhcpV6Filters : anyMatch dhcpV6Filters c = c.isDhcpV6Request := by
  have hservers : condsMatch c [condV6 .remoteAddrV6 kV6DhcpRelayAgentsAndServers 128,
      condV6 .remoteAddrV6 kV6DhcpAllServers 128] =
      (c.remoteV6 == some kV6DhcpRelayAgentsAndServers ||
        c.remoteV6 == some kV6DhcpAllServers) := by
    rw [@condsMatch_of_field_eq c _ .remoteAddrV6 (by simp) (by simp [condV6])]
    simp
  have hconds : condsMatch c [condProtocol kProtoUdp, condV6 .localAddrV6 kV6LinkLocal 10,
      condLocalPort kPortDhcpV6Client, condRemotePort kPortDhcpV6Server,
      condV6 .remoteAddrV6 kV6DhcpRelayAgentsAndServers 128,
      condV6 .remoteAddrV6 kV6DhcpAllServers 128] = c.isDhcpV6Request := by
    rw [condsMatch_cons c (by simp [condProtocol, condV6, condLocalPort, condRemotePort]),
      condsMatch_cons c (by simp [condV6, condLocalPort, condRemotePort]),
      condsMatch_cons c (by simp [condV6, condLocalPort, condRemotePort]),
      condsMatch_cons c (by simp [condV6, condRemotePort]), hservers,
      holds_condV6_local c (by decide)]
    simp [Connection.isDhcpV6Request, Bool.and_assoc]
  simp only [dhcpV6Filters, anyMatch_cons, anyMatch_nil, hconds, layer_of_outbound hout]
  cases h : c.endpoints with
  | v4 l r => simp [Connection.isV4, h, Connection.isDhcpV6Request, Connection.remoteV4,
      Connection.remoteV6]
  | v6 l r => simp [Connection.isV4, h, Connection.remoteV4]

lemma anyMatch_ndpFilters : anyMatch ndpFilters c = c.isNdp := by
  have hsolicit : condsMatch c [condProtocol kProtoIcmpV6, condLocalPort kIcmpV6RouterSolicit,
      condV6 .remoteAddrV6 kV6AllRouters 128] = (c.protocol == kProtoIcmpV6 &&
        (c.localPort == kIcmpV6RouterSolicit && c.remoteV6 == some kV6AllRouters)) := by
    rw [condsMatch_cons c (by simp [condProtocol, condV6, condLocalPort]),
      condsMatch_cons c (by simp [condV6, condLocalPort])]
    simp
  have hneighbor : ∀ type, condsMatch c [condProtocol kProtoIcmpV6, condLocalPort type,
      condV6 .remoteAddrV6 kV6LinkLocal 10, condV6 .remoteAddrV6 kV6LinkLocalMcast 16] =
      (c.protocol == kProtoIcmpV6 && (c.localPort == type &&
        (c.remoteV6.any (inV6 kV6LinkLocal 10) ||
          c.remoteV6.any (inV6 kV6LinkLocalMcast 16)))) := by
    intro type
    rw [condsMatch_cons c (by simp [condProtocol, condV6, condLocalPort]),
      condsMatch_cons c (by simp [condV6, condLocalPort]),
      condsMatch_pairV6 (by decide) (by decide)]
    simp
  simp only [ndpFilters, List.flatMap_cons, List.flatMap_nil, List.map_cons, List.map_nil,
    List.cons_append, List.nil_append, List.append_nil, anyMatch_cons, anyMatch_nil, hsolicit,
    hneighbor, layer_of_outbound hout]
  cases h : c.endpoints with
  | v4 l r => simp [Connection.isV4, h, Connection.isNdp, Connection.remoteV4, Connection.remoteV6]
  | v6 l r =>
    simp only [Connection.isV4, h, Connection.remoteV4, Connection.isNdp]
    cases c.protocol == kProtoIcmpV6 <;> simp [Bool.and_or_distrib_right]

lemma anyMatch_dnsLiftFilters : anyMatch dnsLiftFilters c = c.isDns := by
  simp only [dnsLiftFilters, anyMatch_cons, anyMatch_nil, condsMatch_dnsConds,
    layer_of_outbound hout]
  cases c.isV4 <;> simp

/-! ### The floor -/

omit hout in
lemma anyMatch_floorFilters :
    anyMatch (floorFilters state cfg) c = (c.isV4 || blockV6 state cfg) := by
  rw [floorFilters, anyMatch_append, anyMatch_ite]
  simp only [anyMatch_cons, anyMatch_nil, condsMatch_nil, Bool.decide_eq_true]
  have h4 := contains_layersV4 c
  have h6 := contains_layersV6 c
  cases hl : c.layer <;> cases hb : blockV6 state cfg <;> simp_all

/-! ### The DNS sublayer -/

lemma anyMatch_imageDnsFilters (nameV4 nameV6 path : String) :
    anyMatch (imageDnsFilters nameV4 nameV6 path) c = (c.isDns && c.appId == path) := by
  simp only [imageDnsFilters, anyMatch_cons, anyMatch_nil, layer_of_outbound hout]
  rw [condsMatch_dnsConds_append c (by simp [condAppId])]
  cases c.isV4 <;> simp

lemma anyMatch_serviceDnsFilters :
    anyMatch (serviceDnsFilters cfg) c =
      (cfg.serviceImagePath != "" && (c.isDns && c.appId == cfg.serviceImagePath)) := by
  rw [serviceDnsFilters]
  split_ifs with h <;> simp [h, anyMatch_imageDnsFilters hout]

lemma anyMatch_appDnsFilters :
    anyMatch (appDnsFilters state cfg) c =
      (attemptsConnection state && cfg.appImagePath != "" &&
        (c.isDns && c.appId == cfg.appImagePath)) := by
  rw [appDnsFilters, anyMatch_ite, anyMatch_imageDnsFilters hout]
  simp [bne, beq_eq_decide]

lemma anyMatch_hostResolverFilters :
    anyMatch (hostResolverFilters pton state cfg) c =
      (decide (state = .connecting) &&
        (c.isDns && (hostResolverAddrs pton cfg).any fun a => c.remoteV4 == some a)) := by
  rw [hostResolverFilters, anyMatch_ite]
  by_cases hne : hostResolverAddrs pton cfg = []
  · simp [hne]
  have hconds : condsMatch c (dnsConds ++
      (hostResolverAddrs pton cfg).map fun a => condRemoteV4 a 32) =
      (c.isDns && (hostResolverAddrs pton cfg).any fun a => c.remoteV4 == some a) := by
    rw [condsMatch_dnsConds_append c (by simp [condRemoteV4]),
      condsMatch_map c (fun a => condRemoteV4 a 32) .remoteAddrV4 (fun a => c.remoteV4 == some a)
        hne (fun _ => rfl) (fun a _ => holds_condRemoteV4_host c a)]
  simp only [anyMatch_cons, anyMatch_nil, hconds, layer_of_outbound hout]
  cases h : c.remoteV4 with
  | none => simp [Connection.isV4, h]
  | some r => simp [Connection.isV4, h, hne]

lemma anyMatch_tunnelResolverFilters :
    anyMatch (tunnelResolverFilters pton state cfg) c =
      (decide (state = .connected ∧ cfg.tunLuid ≠ 0#64) &&
        (c.isDns && c.localInterface == cfg.tunLuid &&
          (cfg.tunnelResolversV4.filterMap pton.v4).any fun a => c.remoteV4 == some a)) := by
  have hconds : ∀ a, condsMatch c (dnsConds ++ [condRemoteV4 a 32, condLocalInterface cfg.tunLuid])
      = (c.isDns && (c.remoteV4 == some a && c.localInterface == cfg.tunLuid)) := by
    intro a
    rw [condsMatch_dnsConds_append c (by simp [condRemoteV4, condLocalInterface]),
      condsMatch_cons c (by simp [condRemoteV4, condLocalInterface])]
    simp
  have hentry : ∀ a, (decide (WfpLayer.connectV4 = c.layer) &&
      (c.isDns && (c.remoteV4 == some a && c.localInterface == cfg.tunLuid))) =
      ((c.isDns && c.localInterface == cfg.tunLuid) && c.remoteV4 == some a) := by
    intro a
    rw [layer_of_outbound hout]
    cases h : c.remoteV4 <;> simp [Connection.isV4, h, Bool.and_assoc, Bool.and_comm]
  rw [tunnelResolverFilters, anyMatch_ite]
  simp only [anyMatch, List.any_map, Function.comp_def, hconds, hentry, List.and_any_distrib_left]

lemma anyMatch_tunnelResolverV6Filters :
    anyMatch (tunnelResolverV6Filters pton state cfg) c =
      (tunnelV6 state cfg &&
        (c.isDns && c.localInterface == cfg.tunLuid &&
          (cfg.tunnelResolversV6.filterMap pton.v6).any fun a => c.remoteV6 == some a)) := by
  have hconds : ∀ a, condsMatch c
      (dnsConds ++ [condV6 .remoteAddrV6 a 128, condLocalInterface cfg.tunLuid]) =
      (c.isDns && (c.remoteV6 == some a && c.localInterface == cfg.tunLuid)) := by
    intro a
    rw [condsMatch_dnsConds_append c (by simp [condV6, condLocalInterface]),
      condsMatch_cons c (by simp [condV6, condLocalInterface])]
    simp
  have hentry : ∀ a, (decide (WfpLayer.connectV6 = c.layer) &&
      (c.isDns && (c.remoteV6 == some a && c.localInterface == cfg.tunLuid))) =
      ((c.isDns && c.localInterface == cfg.tunLuid) && c.remoteV6 == some a) := by
    intro a
    rw [layer_of_outbound hout]
    cases h : c.endpoints <;>
      simp [Connection.isV4, h, Connection.remoteV4, Connection.remoteV6, Bool.and_assoc,
        Bool.and_comm, Bool.and_left_comm]
  rw [tunnelResolverV6Filters, anyMatch_ite]
  simp only [anyMatch, List.any_map, Function.comp_def, hconds, hentry, List.and_any_distrib_left,
    Bool.decide_eq_true]

lemma anyMatch_loopbackDnsFilters : anyMatch loopbackDnsFilters c = (c.isDns && c.loopback) := by
  simp only [loopbackDnsFilters, anyMatch_cons, anyMatch_nil, layer_of_outbound hout]
  rw [condsMatch_dnsConds_append c (by simp [condLoopback])]
  cases c.isV4 <;> simp

lemma anyMatch_dnsBlockFilters :
    anyMatch (dnsBlockFilters pton state cfg) c =
      ((!attemptsConnection state || sharedDnsPath pton state cfg) && c.isDns) := by
  rw [dnsBlockFilters, anyMatch_ite]
  simp only [anyMatch_cons, anyMatch_nil, condsMatch_dnsConds, layer_of_outbound hout]
  cases c.isV4 <;> simp

lemma anyMatch_portBlockFilters (name : String) {ports : List (BitVec 16)} (hne : ports ≠ []) :
    anyMatch (portBlockFilters name ports) c =
      (c.isUdpTcp && ports.any fun port => c.remotePort == port) := by
  have hconds : condsMatch c (udpTcp ++ ports.map condRemotePort) =
      (c.isUdpTcp && ports.any fun port => c.remotePort == port) := by
    rw [condsMatch_udpTcp_append c (by simp [condRemotePort]),
      condsMatch_map c condRemotePort .remotePort (fun port => c.remotePort == port) hne
        (fun _ => rfl) (fun port _ => holds_condRemotePort c port)]
  simp only [portBlockFilters, anyMatch_cons, anyMatch_nil, hconds, layer_of_outbound hout]
  cases c.isV4 <;> simp

lemma anyMatch_nameResolutionFilters :
    anyMatch (nameResolutionFilters cfg) c =
      (cfg.blockLocalNameResolution && (c.isUdpTcp &&
        [kPortLlmnr, kPortMdns, kPortNetbiosNs, kPortNetbiosDgm, kPortNetbiosSsn].any
          fun port => c.remotePort == port)) := by
  rw [nameResolutionFilters, anyMatch_ite, anyMatch_append, anyMatch_append,
    anyMatch_portBlockFilters hout _ (by simp), anyMatch_portBlockFilters hout _ (by simp),
    anyMatch_portBlockFilters hout _ (by simp)]
  cases c.isUdpTcp <;> simp [Bool.or_assoc]

/-! ### The four parts, outbound -/

theorem anyMatch_baselinePermits :
    anyMatch (baselinePermits state cfg) c = true ↔
      c.ofImage cfg.serviceImagePath ∨
      (attemptsConnection state = true ∧ c.ofImage cfg.appImagePath) ∨
      c.loopback = true ∨
      (state = .connected ∧ cfg.tunLuid ≠ 0#64 ∧ c.isV4 = true ∧ c.localInterface = cfg.tunLuid) ∨
      (tunnelV6 state cfg = true ∧ c.isV4 = false ∧ c.localInterface = cfg.tunLuid) ∨
      (cfg.allowLan = true ∧ c.remoteV4.any isLocalBypassV4 = true) ∨
      (cfg.allowLan = true ∧ tunnelV6 state cfg = true ∧
        c.remoteV6.any (fun a => kLocalBypassV6.any fun b => b.hasAddr a) = true) ∨
      c.isDhcpV4Broadcast = true ∨ c.isDhcpV6Request = true ∨ c.isNdp = true ∨ c.isDns = true := by
  simp only [baselinePermits, anyMatch_append, anyMatch_serviceFilters, anyMatch_appFilters,
    anyMatch_loopbackFilters, anyMatch_tunFilters, anyMatch_tunV6Filters, anyMatch_lanFilters,
    anyMatch_lanV6Filters, anyMatch_dhcpV4Filters hout, anyMatch_dhcpV6Filters hout,
    anyMatch_ndpFilters hout, anyMatch_dnsLiftFilters hout, Bool.or_eq_true, Bool.and_eq_true,
    bne_iff_ne, beq_iff_eq, decide_eq_true_eq, Bool.not_eq_true', or_assoc, and_assoc,
    Connection.ofImage]

theorem anyMatch_dnsPermits :
    anyMatch (dnsPermits pton state cfg) c = true ↔ c.isDns = true ∧
      (c.ofImage cfg.serviceImagePath ∨
      (attemptsConnection state = true ∧ c.ofImage cfg.appImagePath) ∨
      (state = .connecting ∧ ∃ a ∈ hostResolverAddrs pton cfg, c.remoteV4 = some a) ∨
      (state = .connected ∧ cfg.tunLuid ≠ 0#64 ∧ c.localInterface = cfg.tunLuid ∧
        ∃ a ∈ cfg.tunnelResolversV4.filterMap pton.v4, c.remoteV4 = some a) ∨
      (tunnelV6 state cfg = true ∧ c.localInterface = cfg.tunLuid ∧
        ∃ a ∈ cfg.tunnelResolversV6.filterMap pton.v6, c.remoteV6 = some a) ∨
      c.loopback = true) := by
  simp only [dnsPermits, anyMatch_append, anyMatch_serviceDnsFilters _ hout,
    anyMatch_appDnsFilters _ _ hout, anyMatch_hostResolverFilters _ _ _ hout,
    anyMatch_tunnelResolverFilters _ _ _ hout, anyMatch_tunnelResolverV6Filters _ _ _ hout,
    anyMatch_loopbackDnsFilters hout, Bool.or_eq_true, Bool.and_eq_true, bne_iff_ne, beq_iff_eq,
    decide_eq_true_eq, List.any_eq_true, Connection.ofImage]
  cases c.isDns <;> simp [or_assoc, and_assoc]

theorem anyMatch_dnsBlocks :
    anyMatch (dnsBlocks pton state cfg) c = true ↔
      ((attemptsConnection state = false ∨ sharedDnsPath pton state cfg = true) ∧
        c.isDns = true) ∨
      (cfg.blockLocalNameResolution = true ∧ c.isUdpTcp = true ∧ c.remotePort ∈
        [kPortLlmnr, kPortMdns, kPortNetbiosNs, kPortNetbiosDgm, kPortNetbiosSsn]) := by
  simp only [dnsBlocks, anyMatch_append, anyMatch_dnsBlockFilters _ _ _ hout,
    anyMatch_nameResolutionFilters _ hout, Bool.or_eq_true, Bool.and_eq_true, Bool.not_eq_true',
    List.any_eq_true, beq_iff_eq, exists_eq_right']

end Outbound

end UrnetworkWindows.Wfp
