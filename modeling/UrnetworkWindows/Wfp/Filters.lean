/-
The describable filter set of the leak-prevention firewall (`WfpPolicy.h`,
`WfpPolicy.cpp`).

`buildFilterSet` is the source's pure function from a policy state and a
configuration to filter descriptions.  Its body is one long sequence of
`push_back`s; here it is the append of one list per numbered comment of the
source, in the source's order, so that each list can be read against its
comment and reasoned about on its own.

The resolvers of a configuration are text.  `inet_pton` is not part of the
repository, so the parser is a parameter: nothing below depends on which texts
parse.
-/
import UrnetworkWindows.Lib.Arbitration
import UrnetworkWindows.Net.Policy

namespace UrnetworkWindows.Wfp

open Lib Net

/-! ### The vocabulary -/

/-- `WfpState`: the four states the policy has. -/
inductive WfpState
  | off
  | armed
  | connecting
  | connected
deriving DecidableEq, Repr

/-- `AttemptsConnection`: is a connection attempt made from this state? -/
def attemptsConnection (s : WfpState) : Bool := s = .connecting || s = .connected

/-- `WfpConfig`. -/
structure WfpConfig where
  tunLuid : BitVec 64 := 0#64
  tunnelResolversV4 : List String := []
  tunnelResolversV6 : List String := []
  tunnelIpv6 : Bool := false
  hostResolversV4 : List String := []
  allowLan : Bool := true
  blockIpv6WhenDisconnected : Bool := true
  blockLocalNameResolution : Bool := true
  serviceImagePath : String := ""
  appImagePath : String := ""
deriving DecidableEq, Repr

/-- `inet_pton`: the IPv4 address of a text in host byte order (the source
applies `ntohl` to what it parsed), and the sixteen bytes of an IPv6 text. -/
structure InetPton where
  v4 : String → Option (BitVec 32)
  v6 : String → Option (BitVec 128)

/-- `WfpLayer`: the four ALE layers. -/
inductive WfpLayer
  | connectV4
  | connectV6
  | recvAcceptV4
  | recvAcceptV6
deriving DecidableEq, Repr

/-- `WfpSublayer`, less the persistent one, which this build never installs. -/
inductive WfpSublayer
  | baseline
  | dns
deriving DecidableEq, Repr

/-- `WfpField`. -/
inductive WfpField
  | appId
  | flags
  | localInterface
  | protocol
  | localPort
  | remotePort
  | localAddrV4
  | remoteAddrV4
  | localAddrV6
  | remoteAddrV6
deriving DecidableEq, Repr

/-- `WfpMatch`. -/
inductive WfpMatch
  | equal
  | flagsAllSet
deriving DecidableEq, Repr

/-- `WfpCondition`: which of the values counts is decided by the field. -/
structure WfpCondition where
  field : WfpField
  matchType : WfpMatch := .equal
  number : BitVec 64 := 0#64
  v4Addr : BitVec 32 := 0#32
  v4PrefixLen : ℕ := 32
  v6Addr : BitVec 128 := 0#128
  v6PrefixLen : ℕ := 128
  appPath : String := ""
deriving DecidableEq, Repr

/-- `WfpFilterSpec`. -/
structure WfpFilterSpec where
  name : String
  layer : WfpLayer
  sublayer : WfpSublayer
  block : Bool := false
  weight : ℕ := 0
  conditions : List WfpCondition := []
deriving DecidableEq, Repr

/-! ### The constants -/

def kProtoTcp : BitVec 8 := 6#8
def kProtoUdp : BitVec 8 := 17#8
def kProtoIcmpV6 : BitVec 8 := 58#8

def kPortDns : BitVec 16 := 53#16
def kPortDhcpServer : BitVec 16 := 67#16
def kPortDhcpClient : BitVec 16 := 68#16
def kPortNetbiosNs : BitVec 16 := 137#16
def kPortNetbiosDgm : BitVec 16 := 138#16
def kPortNetbiosSsn : BitVec 16 := 139#16
def kPortDhcpV6Client : BitVec 16 := 546#16
def kPortDhcpV6Server : BitVec 16 := 547#16
def kPortMdns : BitVec 16 := 5353#16
def kPortLlmnr : BitVec 16 := 5355#16

def kIcmpV6RouterSolicit : BitVec 16 := 133#16
def kIcmpV6RouterAdvert : BitVec 16 := 134#16
def kIcmpV6NeighborSolicit : BitVec 16 := 135#16
def kIcmpV6NeighborAdvert : BitVec 16 := 136#16

def kWeightMax : ℕ := 15
def kWeightLoopback : ℕ := 13
def kWeightExempt : ℕ := 12
def kWeightMedium : ℕ := 7
def kWeightMin : ℕ := 0

/-- `FWP_CONDITION_FLAG_IS_LOOPBACK`. -/
def kFlagIsLoopback : BitVec 32 := 1#32

def kV6LinkLocal : BitVec 128 := 0xfe800000000000000000000000000000#128
def kV6LinkLocalMcast : BitVec 128 := 0xff020000000000000000000000000000#128
def kV6DhcpRelayAgentsAndServers : BitVec 128 := 0xff020000000000000000000000010002#128
def kV6DhcpAllServers : BitVec 128 := 0xff050000000000000000000000010003#128
def kV6AllRouters : BitVec 128 := 0xff020000000000000000000000000002#128

/-! ### The condition constructors -/

def condAppId (path : String) : WfpCondition := { field := .appId, appPath := path }

def condLoopback : WfpCondition :=
  { field := .flags, matchType := .flagsAllSet, number := kFlagIsLoopback.setWidth 64 }

def condLocalInterface (luid : BitVec 64) : WfpCondition :=
  { field := .localInterface, number := luid }

def condProtocol (proto : BitVec 8) : WfpCondition :=
  { field := .protocol, number := proto.setWidth 64 }

def condLocalPort (port : BitVec 16) : WfpCondition :=
  { field := .localPort, number := port.setWidth 64 }

def condRemotePort (port : BitVec 16) : WfpCondition :=
  { field := .remotePort, number := port.setWidth 64 }

def condRemoteV4 (hostOrderAddr : BitVec 32) (len : ℕ) : WfpCondition :=
  { field := .remoteAddrV4, v4Addr := hostOrderAddr, v4PrefixLen := len }

def condV6 (field : WfpField) (addr : BitVec 128) (len : ℕ) : WfpCondition :=
  { field := field, v6Addr := addr, v6PrefixLen := len }

def condRemoteV6Prefix (p : V6Prefix) : WfpCondition :=
  { field := .remoteAddrV6, v6Addr := p.bytes, v6PrefixLen := p.prefixLen }

/-- `PushUdpTcp`: the two adjacent protocol conditions. -/
def udpTcp : List WfpCondition := [condProtocol kProtoUdp, condProtocol kProtoTcp]

/-- "UDP or TCP to remote port 53", as seven filters spell it. -/
def dnsConds : List WfpCondition := udpTcp ++ [condRemotePort kPortDns]

/-! ### The lists of `BuildFilterSet` -/

section Lists

variable (pton : InetPton) (state : WfpState) (cfg : WfpConfig)

/-- The policy of a connected tunnel that carries IPv6. -/
def tunnelV6 : Bool := state = .connected && cfg.tunnelIpv6 && cfg.tunLuid != 0#64

/-- Whether the IPv6 floor is installed. -/
def blockV6 : Bool := (cfg.blockIpv6WhenDisconnected && state != .connected) || tunnelV6 state cfg

/-- A permit for one image at the four layers, as filter 1 and the app permit
spell it. -/
def imageFilters (nameV4 nameV6 path : String) : List WfpFilterSpec :=
  ([WfpLayer.connectV4, .recvAcceptV4].map fun l =>
    ⟨nameV4, l, .baseline, false, kWeightMax, [condAppId path]⟩) ++
  ([WfpLayer.connectV6, .recvAcceptV6].map fun l =>
    ⟨nameV6, l, .baseline, false, kWeightMax, [condAppId path]⟩)

/-- 1. Our own service. -/
def serviceFilters : List WfpFilterSpec :=
  if cfg.serviceImagePath = "" then []
  else imageFilters "urnetwork-permit-service-v4" "urnetwork-permit-service-v6"
    cfg.serviceImagePath

/-- The UI, while a connection is attempted. -/
def appFilters : List WfpFilterSpec :=
  if attemptsConnection state && cfg.appImagePath != "" then
    imageFilters "urnetwork-permit-app-v4" "urnetwork-permit-app-v6" cfg.appImagePath
  else []

/-- 2. Loopback, by the flag. -/
def loopbackFilters : List WfpFilterSpec :=
  ([WfpLayer.connectV4, .recvAcceptV4].map fun l =>
    ⟨"urnetwork-permit-loopback-v4", l, .baseline, false, kWeightLoopback, [condLoopback]⟩) ++
  ([WfpLayer.connectV6, .recvAcceptV6].map fun l =>
    ⟨"urnetwork-permit-loopback-v6", l, .baseline, false, kWeightLoopback, [condLoopback]⟩)

/-- 3. The tun. -/
def tunFilters : List WfpFilterSpec :=
  if state = .connected ∧ cfg.tunLuid ≠ 0#64 then
    [WfpLayer.connectV4, .recvAcceptV4].map fun l =>
      ⟨"urnetwork-permit-tun-v4", l, .baseline, false, kWeightExempt,
        [condLocalInterface cfg.tunLuid]⟩
  else []

/-- 3b. The tun, v6. -/
def tunV6Filters : List WfpFilterSpec :=
  if tunnelV6 state cfg then
    [WfpLayer.connectV6, .recvAcceptV6].map fun l =>
      ⟨"urnetwork-permit-tun-v6", l, .baseline, false, kWeightExempt,
        [condLocalInterface cfg.tunLuid]⟩
  else []

/-- 4. The LAN, from the table the route set is derived from. -/
def lanFilters : List WfpFilterSpec :=
  if cfg.allowLan then
    let lan := kLocalBypassV4.map fun p => condRemoteV4 p.network p.prefixLen
    [⟨"urnetwork-permit-lan-out", .connectV4, .baseline, false, kWeightExempt, lan⟩,
      ⟨"urnetwork-permit-lan-in", .recvAcceptV4, .baseline, false, kWeightExempt, lan⟩]
  else []

/-- 4b. The v6 bypass ranges, for a connected dual-stack tunnel. -/
def lanV6Filters : List WfpFilterSpec :=
  if cfg.allowLan && tunnelV6 state cfg then
    let lan6 := kLocalBypassV6.map condRemoteV6Prefix
    [⟨"urnetwork-permit-lan-v6-out", .connectV6, .baseline, false, kWeightExempt, lan6⟩,
      ⟨"urnetwork-permit-lan-v6-in", .recvAcceptV6, .baseline, false, kWeightExempt, lan6⟩]
  else []

/-- 5. DHCPv4. -/
def dhcpV4Filters : List WfpFilterSpec :=
  [⟨"urnetwork-permit-dhcpv4-out", .connectV4, .baseline, false, kWeightExempt,
      [condProtocol kProtoUdp, condLocalPort kPortDhcpClient, condRemotePort kPortDhcpServer,
        condRemoteV4 0xFFFFFFFF#32 32]⟩,
    ⟨"urnetwork-permit-dhcpv4-in", .recvAcceptV4, .baseline, false, kWeightExempt,
      [condProtocol kProtoUdp, condLocalPort kPortDhcpClient, condRemotePort kPortDhcpServer]⟩]

/-- 6. DHCPv6. -/
def dhcpV6Filters : List WfpFilterSpec :=
  [⟨"urnetwork-permit-dhcpv6-out", .connectV6, .baseline, false, kWeightExempt,
      [condProtocol kProtoUdp, condV6 .localAddrV6 kV6LinkLocal 10,
        condLocalPort kPortDhcpV6Client, condRemotePort kPortDhcpV6Server,
        condV6 .remoteAddrV6 kV6DhcpRelayAgentsAndServers 128,
        condV6 .remoteAddrV6 kV6DhcpAllServers 128]⟩,
    ⟨"urnetwork-permit-dhcpv6-in", .recvAcceptV6, .baseline, false, kWeightExempt,
      [condProtocol kProtoUdp, condV6 .localAddrV6 kV6LinkLocal 10,
        condLocalPort kPortDhcpV6Client, condV6 .remoteAddrV6 kV6LinkLocal 10,
        condRemotePort kPortDhcpV6Server]⟩]

/-- 6. Neighbour discovery: the type of an ICMPv6 message is its local port. -/
def ndpFilters : List WfpFilterSpec :=
  [⟨"urnetwork-permit-ndp-rs-out", .connectV6, .baseline, false, kWeightExempt,
      [condProtocol kProtoIcmpV6, condLocalPort kIcmpV6RouterSolicit,
        condV6 .remoteAddrV6 kV6AllRouters 128]⟩,
    ⟨"urnetwork-permit-ndp-ra-in", .recvAcceptV6, .baseline, false, kWeightExempt,
      [condProtocol kProtoIcmpV6, condLocalPort kIcmpV6RouterAdvert,
        condV6 .remoteAddrV6 kV6LinkLocal 10]⟩] ++
  [kIcmpV6NeighborSolicit, kIcmpV6NeighborAdvert].flatMap fun type =>
    [WfpLayer.connectV6, .recvAcceptV6].map fun l =>
      ⟨if type = kIcmpV6NeighborSolicit then "urnetwork-permit-ndp-ns"
        else "urnetwork-permit-ndp-na", l, .baseline, false, kWeightExempt,
        [condProtocol kProtoIcmpV6, condLocalPort type,
          condV6 .remoteAddrV6 kV6LinkLocal 10, condV6 .remoteAddrV6 kV6LinkLocalMcast 16]⟩

/-- 7. The DNS lifting rule. -/
def dnsLiftFilters : List WfpFilterSpec :=
  [⟨"urnetwork-lift-dns-v4", .connectV4, .baseline, false, kWeightMedium, dnsConds⟩,
    ⟨"urnetwork-lift-dns-v6", .connectV6, .baseline, false, kWeightMedium, dnsConds⟩]

/-- 8. The floor. -/
def floorFilters : List WfpFilterSpec :=
  [⟨"urnetwork-block-all-v4-out", .connectV4, .baseline, true, kWeightMin, []⟩,
    ⟨"urnetwork-block-all-v4-in", .recvAcceptV4, .baseline, true, kWeightMin, []⟩] ++
  if blockV6 state cfg then
    [⟨"urnetwork-block-all-v6-out", .connectV6, .baseline, true, kWeightMin, []⟩,
      ⟨"urnetwork-block-all-v6-in", .recvAcceptV6, .baseline, true, kWeightMin, []⟩]
  else []

/-- A port-53 permit for one image at both connect layers. -/
def imageDnsFilters (nameV4 nameV6 path : String) : List WfpFilterSpec :=
  [⟨nameV4, .connectV4, .dns, false, kWeightMax, dnsConds ++ [condAppId path]⟩,
    ⟨nameV6, .connectV6, .dns, false, kWeightMax, dnsConds ++ [condAppId path]⟩]

/-- 9. Our own service, again. -/
def serviceDnsFilters : List WfpFilterSpec :=
  if cfg.serviceImagePath = "" then []
  else imageDnsFilters "urnetwork-permit-service-dns-v4" "urnetwork-permit-service-dns-v6"
    cfg.serviceImagePath

/-- The UI's own resolver. -/
def appDnsFilters : List WfpFilterSpec :=
  if attemptsConnection state && cfg.appImagePath != "" then
    imageDnsFilters "urnetwork-permit-app-dns-v4" "urnetwork-permit-app-dns-v6" cfg.appImagePath
  else []

/-- The host's resolvers that parse. -/
def hostResolverAddrs : List (BitVec 32) := cfg.hostResolversV4.filterMap pton.v4

/-- 9b. The host's own resolvers: one filter over all of them, if any parses. -/
def hostResolverFilters : List WfpFilterSpec :=
  if state = .connecting ∧ hostResolverAddrs pton cfg ≠ [] then
    [⟨"urnetwork-permit-dns-host-resolver", .connectV4, .dns, false, kWeightMedium,
      dnsConds ++ (hostResolverAddrs pton cfg).map fun a => condRemoteV4 a 32⟩]
  else []

/-- 10. The tunnel's own resolvers, one filter each. -/
def tunnelResolverFilters : List WfpFilterSpec :=
  if state = .connected ∧ cfg.tunLuid ≠ 0#64 then
    (cfg.tunnelResolversV4.filterMap pton.v4).map fun a =>
      ⟨"urnetwork-permit-dns-tunnel-resolver", .connectV4, .dns, false, kWeightMedium,
        dnsConds ++ [condRemoteV4 a 32, condLocalInterface cfg.tunLuid]⟩
  else []

/-- 10b. The tunnel's v6 resolvers. -/
def tunnelResolverV6Filters : List WfpFilterSpec :=
  if tunnelV6 state cfg then
    (cfg.tunnelResolversV6.filterMap pton.v6).map fun a =>
      ⟨"urnetwork-permit-dns-tunnel-resolver-v6", .connectV6, .dns, false, kWeightMedium,
        dnsConds ++ [condV6 .remoteAddrV6 a 128, condLocalInterface cfg.tunLuid]⟩
  else []

/-- `sharedDnsPath`: one of the three address-scoped permits was emitted. -/
def sharedDnsPath : Bool :=
  !(hostResolverFilters pton state cfg).isEmpty ||
  !(tunnelResolverFilters pton state cfg).isEmpty ||
  !(tunnelResolverV6Filters pton state cfg).isEmpty

/-- 11. Local stub resolvers. -/
def loopbackDnsFilters : List WfpFilterSpec :=
  [⟨"urnetwork-permit-dns-loopback-v4", .connectV4, .dns, false, kWeightMedium,
      dnsConds ++ [condLoopback]⟩,
    ⟨"urnetwork-permit-dns-loopback-v6", .connectV6, .dns, false, kWeightMedium,
      dnsConds ++ [condLoopback]⟩]

/-- 12. The port-53 block: always in `armed`, and in the two states that attempt a
connection only when they have a DNS path. -/
def dnsBlockFilters : List WfpFilterSpec :=
  if !attemptsConnection state || sharedDnsPath pton state cfg then
    [⟨"urnetwork-block-dns-v4", .connectV4, .dns, true, kWeightMin, dnsConds⟩,
      ⟨"urnetwork-block-dns-v6", .connectV6, .dns, true, kWeightMin, dnsConds⟩]
  else []

/-- One row of filter 13's table: a name and its ports, at both connect layers. -/
def portBlockFilters (name : String) (ports : List (BitVec 16)) : List WfpFilterSpec :=
  [⟨name ++ "-v4", .connectV4, .dns, true, kWeightMin, udpTcp ++ ports.map condRemotePort⟩,
    ⟨name ++ "-v6", .connectV6, .dns, true, kWeightMin, udpTcp ++ ports.map condRemotePort⟩]

/-- 13. The other name-resolution channels. -/
def nameResolutionFilters : List WfpFilterSpec :=
  if cfg.blockLocalNameResolution then
    portBlockFilters "urnetwork-block-llmnr" [kPortLlmnr] ++
    portBlockFilters "urnetwork-block-mdns" [kPortMdns] ++
    portBlockFilters "urnetwork-block-netbios" [kPortNetbiosNs, kPortNetbiosDgm, kPortNetbiosSsn]
  else []

/-- The permits of the baseline sublayer. -/
def baselinePermits : List WfpFilterSpec :=
  serviceFilters cfg ++ appFilters state cfg ++ loopbackFilters ++ tunFilters state cfg ++
  tunV6Filters state cfg ++ lanFilters cfg ++ lanV6Filters state cfg ++ dhcpV4Filters ++
  dhcpV6Filters ++ ndpFilters ++ dnsLiftFilters

/-- The permits of the DNS sublayer. -/
def dnsPermits : List WfpFilterSpec :=
  serviceDnsFilters cfg ++ appDnsFilters state cfg ++ hostResolverFilters pton state cfg ++
  tunnelResolverFilters pton state cfg ++ tunnelResolverV6Filters pton state cfg ++
  loopbackDnsFilters

/-- The blocks of the DNS sublayer. -/
def dnsBlocks : List WfpFilterSpec :=
  dnsBlockFilters pton state cfg ++ nameResolutionFilters cfg

/-- `BuildFilterSet`: the policy for one state. -/
def buildFilterSet : List WfpFilterSpec :=
  if state = .off then []
  else baselinePermits state cfg ++ floorFilters state cfg ++
    (dnsPermits pton state cfg ++ dnsBlocks pton state cfg)

end Lists

end UrnetworkWindows.Wfp
