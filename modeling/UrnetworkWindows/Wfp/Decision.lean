/-
What the filter engine does with a filter set (`WfpPolicy.h`, and
`BuildConditions` of `WfpPolicy.cpp`, which says how a description becomes a
filter).

A connection is classified at the layer of its direction and family.  There the
filters of each sublayer are arbitrated as in `Lib.Arbitration`, and the
connection goes through unless some sublayer blocks it.  Every filter set of
`buildFilterSet` is floored (its blocks are its filters of weight zero), so the
whole decision comes down to two questions asked of each sublayer: does a block
match, and does a permit match (`permitted_eq`).

The app id of an image is the image's path.
-/
import UrnetworkWindows.Wfp.Filters

namespace UrnetworkWindows.Wfp

open Lib Lib.Arbitration Net

/-! ### Connections -/

/-- The two addresses of a connection, IPv4 ones in host byte order. -/
inductive Endpoints
  | v4 (localAddr remoteAddr : BitVec 32)
  | v6 (localAddr remoteAddr : BitVec 128)
deriving DecidableEq, Repr

/-- What the engine knows of a connection.  For ICMPv6 the local port is the type
of the message and the remote port its code. -/
structure Connection where
  outbound : Bool
  endpoints : Endpoints
  appId : String
  flags : BitVec 32
  localInterface : BitVec 64
  protocol : BitVec 8
  localPort : BitVec 16
  remotePort : BitVec 16
deriving DecidableEq, Repr

namespace Connection

/-- The layer a connection is classified at. -/
def layer (c : Connection) : WfpLayer :=
  match c.outbound, c.endpoints with
  | true, .v4 .. => .connectV4
  | true, .v6 .. => .connectV6
  | false, .v4 .. => .recvAcceptV4
  | false, .v6 .. => .recvAcceptV6

/-- The remote address of an IPv4 connection. -/
def remoteV4 (c : Connection) : Option (BitVec 32) :=
  match c.endpoints with
  | .v4 _ r => some r
  | .v6 .. => none

/-- The local address of an IPv4 connection. -/
def localV4 (c : Connection) : Option (BitVec 32) :=
  match c.endpoints with
  | .v4 l _ => some l
  | .v6 .. => none

/-- The remote address of an IPv6 connection. -/
def remoteV6 (c : Connection) : Option (BitVec 128) :=
  match c.endpoints with
  | .v4 .. => none
  | .v6 _ r => some r

/-- The local address of an IPv6 connection. -/
def localV6 (c : Connection) : Option (BitVec 128) :=
  match c.endpoints with
  | .v4 .. => none
  | .v6 l _ => some l

/-- The loopback flag. -/
def loopback (c : Connection) : Bool := c.flags &&& kFlagIsLoopback == kFlagIsLoopback

/-- UDP or TCP. -/
def isUdpTcp (c : Connection) : Bool := c.protocol == kProtoUdp || c.protocol == kProtoTcp

/-- UDP or TCP to remote port 53. -/
def isDns (c : Connection) : Bool := c.isUdpTcp && c.remotePort == kPortDns

end Connection

/-! ### The match of a filter -/

/-- `FWP_MATCH_EQUAL` and `FWP_MATCH_FLAGS_ALL_SET`. -/
def WfpMatch.test {w : ℕ} (m : WfpMatch) (condition value : BitVec w) : Bool :=
  match m with
  | .equal => value == condition
  | .flagsAllSet => value &&& condition == condition

/-- An IPv4 address against an address and a mask (`V4Mask` is `PrefixMask`). -/
def WfpCondition.testV4 (k : WfpCondition) (a : BitVec 32) : Bool :=
  a &&& prefixMask k.v4PrefixLen == k.v4Addr &&& prefixMask k.v4PrefixLen

/-- An IPv6 address against an address and a prefix length. -/
def WfpCondition.testV6 (k : WfpCondition) (a : BitVec 128) : Bool :=
  a &&& mask 128 k.v6PrefixLen == k.v6Addr &&& mask 128 k.v6PrefixLen

/-- One condition on a connection, the number cut to the width `BuildConditions`
gives its field. -/
def WfpCondition.holds (c : Connection) (k : WfpCondition) : Bool :=
  match k.field with
  | .appId => c.appId == k.appPath
  | .flags => k.matchType.test (k.number.setWidth 32) c.flags
  | .localInterface => k.matchType.test k.number c.localInterface
  | .protocol => k.matchType.test (k.number.setWidth 8) c.protocol
  | .localPort => k.matchType.test (k.number.setWidth 16) c.localPort
  | .remotePort => k.matchType.test (k.number.setWidth 16) c.remotePort
  | .localAddrV4 => c.localV4.any k.testV4
  | .remoteAddrV4 => c.remoteV4.any k.testV4
  | .localAddrV6 => c.localV6.any k.testV6
  | .remoteAddrV6 => c.remoteV6.any k.testV6

/-- Conditions of one field are OR'd, different fields are AND'd. -/
def condsMatch (c : Connection) (ks : List WfpCondition) : Bool :=
  matchesAll WfpCondition.field (WfpCondition.holds c) ks

namespace WfpFilterSpec

/-- The action of a filter. -/
def action (f : WfpFilterSpec) : Action := if f.block then .block else .permit

/-- The filter is asked about the connection, and matches. -/
def applies (f : WfpFilterSpec) (s : WfpSublayer) (c : Connection) : Bool :=
  f.layer = c.layer && f.sublayer = s && condsMatch c f.conditions

end WfpFilterSpec

/-! ### The decision -/

/-- What one sublayer has to say. -/
def sublayerOpinion (fs : List WfpFilterSpec) (s : WfpSublayer) (c : Connection) : Option Action :=
  opinion WfpFilterSpec.weight WfpFilterSpec.action (fs.filter fun f => f.applies s c)

/-- A connection goes through unless some sublayer blocks it. -/
def permitted (fs : List WfpFilterSpec) (c : Connection) : Bool :=
  verdict [sublayerOpinion fs .baseline c, sublayerOpinion fs .dns c] ≠ some .block

/-- Does a filter of the sublayer with this action match? -/
def hits (block : Bool) (s : WfpSublayer) (fs : List WfpFilterSpec) (c : Connection) : Bool :=
  fs.any fun f => f.block = block && f.applies s c

/-- A filter set whose blocks are its filters of weight zero. -/
def WeightFloored (fs : List WfpFilterSpec) : Prop :=
  Floored WfpFilterSpec.weight WfpFilterSpec.action fs

/-- **The decision of a floored set**: each sublayer lets through what matches one
of its permits or none of its blocks. -/
theorem permitted_eq {fs : List WfpFilterSpec} (h : WeightFloored fs) (c : Connection) :
    permitted fs c =
      ((hits false .baseline fs c || !hits true .baseline fs c) &&
        (hits false .dns fs c || !hits true .dns fs c)) := by
  have hblock : ∀ s, sublayerOpinion fs s c = some .block ↔
      hits true s fs c = true ∧ hits false s fs c = false := by
    intro s
    rw [sublayerOpinion, opinion_eq_block_iff_of_floored (h.filter _)]
    simp only [hits, List.any_eq_true, List.any_eq_false, List.mem_filter, Bool.and_eq_true,
      decide_eq_true_eq, WfpFilterSpec.action]
    constructor
    · rintro ⟨⟨f, ⟨hf, happ⟩, hact⟩, hno⟩
      refine ⟨⟨f, hf, by simpa using hact, happ⟩, ?_⟩
      rintro g hg ⟨hb, happ'⟩
      exact hno g ⟨hg, happ'⟩ (by simp [hb])
    · rintro ⟨⟨f, hf, hb, happ⟩, hno⟩
      refine ⟨⟨f, ⟨hf, happ⟩, by simp [hb]⟩, ?_⟩
      rintro g ⟨hg, happ'⟩ hact
      exact hno g hg ⟨by simpa using hact, happ'⟩
  apply Bool.eq_iff_iff.2
  rw [permitted, decide_eq_true_eq, ne_eq, verdict_eq_block_iff]
  simp only [List.mem_cons, List.not_mem_nil, or_false, eq_comm (a := some Action.block), hblock]
  cases hits true .baseline fs c <;> cases hits false .baseline fs c <;>
    cases hits true .dns fs c <;> cases hits false .dns fs c <;> simp

lemma hits_append (b : Bool) (s : WfpSublayer) (fs gs : List WfpFilterSpec) (c : Connection) :
    hits b s (fs ++ gs) c = (hits b s fs c || hits b s gs c) := by
  simp [hits]

/-! ### The four parts of a filter set -/

/-- Does a filter of the list match, whatever its sublayer and action? -/
def anyMatch (fs : List WfpFilterSpec) (c : Connection) : Bool :=
  fs.any fun f => f.layer = c.layer && condsMatch c f.conditions

/-- All filters of the list belong to one sublayer and do one thing, with weight
zero exactly if they block. -/
def AllOf (b : Bool) (s : WfpSublayer) (fs : List WfpFilterSpec) : Prop :=
  ∀ f ∈ fs, f.block = b ∧ f.sublayer = s ∧ (f.weight = 0 ↔ b = true)

namespace AllOf

variable {b b' : Bool} {s s' : WfpSublayer} {fs gs : List WfpFilterSpec}

lemma nil : AllOf b s [] := fun _ hf => absurd hf List.not_mem_nil

lemma append (hf : AllOf b s fs) (hg : AllOf b s gs) : AllOf b s (fs ++ gs) := by
  intro f h
  rcases List.mem_append.1 h with h | h
  · exact hf f h
  · exact hg f h

lemma ite {p : Prop} [Decidable p] (hf : AllOf b s fs) (hg : AllOf b s gs) :
    AllOf b s (if p then fs else gs) := by
  split_ifs
  · exact hf
  · exact hg

lemma map {α : Type*} {g : α → WfpFilterSpec} (l : List α)
    (h : ∀ a, (g a).block = b ∧ (g a).sublayer = s ∧ ((g a).weight = 0 ↔ b = true)) :
    AllOf b s (l.map g) := by
  intro f hf
  obtain ⟨a, -, rfl⟩ := List.mem_map.1 hf
  exact h a

lemma floored (h : AllOf b s fs) : WeightFloored fs := by
  intro f hf
  obtain ⟨hb, -, hw⟩ := h f hf
  rw [hw, WfpFilterSpec.action, hb]
  cases b <;> simp

lemma hits_eq (h : AllOf b s fs) (c : Connection) : hits b s fs c = anyMatch fs c := by
  apply Bool.eq_iff_iff.2
  simp only [hits, anyMatch, List.any_eq_true]
  refine exists_congr fun f => and_congr_right fun hf => ?_
  obtain ⟨hb, hs, -⟩ := h f hf
  simp [WfpFilterSpec.applies, hb, hs]

lemma hits_eq_false (h : AllOf b s fs) (hne : b' ≠ b ∨ s' ≠ s) (c : Connection) :
    hits b' s' fs c = false := by
  simp only [hits, List.any_eq_false, Bool.and_eq_true, decide_eq_true_eq, WfpFilterSpec.applies]
  rintro f hf ⟨hb', ⟨-, hs'⟩, -⟩
  obtain ⟨hb, hs, -⟩ := h f hf
  rcases hne with hne | hne
  · exact hne (hb' ▸ hb)
  · exact hne (hs' ▸ hs)

end AllOf

lemma WeightFloored.append {fs gs : List WfpFilterSpec} (hf : WeightFloored fs)
    (hg : WeightFloored gs) : WeightFloored (fs ++ gs) := by
  intro f h
  rcases List.mem_append.1 h with h | h
  · exact hf f h
  · exact hg f h

section Parts

variable (pton : InetPton) (state : WfpState) (cfg : WfpConfig)

lemma imageFilters_allOf (nameV4 nameV6 path : String) :
    AllOf false .baseline (imageFilters nameV4 nameV6 path) := by
  simp [AllOf, imageFilters, kWeightMax]

lemma imageDnsFilters_allOf (nameV4 nameV6 path : String) :
    AllOf false .dns (imageDnsFilters nameV4 nameV6 path) := by
  simp [AllOf, imageDnsFilters, kWeightMax]

lemma portBlockFilters_allOf (name : String) (ports : List (BitVec 16)) :
    AllOf true .dns (portBlockFilters name ports) := by
  simp [AllOf, portBlockFilters, kWeightMin]

lemma baselinePermits_allOf : AllOf false .baseline (baselinePermits state cfg) := by
  have hservice : AllOf false .baseline (serviceFilters cfg) := .ite .nil (imageFilters_allOf _ _ _)
  have happ : AllOf false .baseline (appFilters state cfg) := .ite (imageFilters_allOf _ _ _) .nil
  have hloopback : AllOf false .baseline loopbackFilters := by
    simp [AllOf, loopbackFilters, kWeightLoopback]
  have htun : AllOf false .baseline (tunFilters state cfg) :=
    .ite (by simp [AllOf, kWeightExempt]) .nil
  have htun6 : AllOf false .baseline (tunV6Filters state cfg) :=
    .ite (by simp [AllOf, kWeightExempt]) .nil
  have hlan : AllOf false .baseline (lanFilters cfg) :=
    .ite (by simp [AllOf, kWeightExempt]) .nil
  have hlan6 : AllOf false .baseline (lanV6Filters state cfg) :=
    .ite (by simp [AllOf, kWeightExempt]) .nil
  have hdhcp : AllOf false .baseline dhcpV4Filters := by
    simp [AllOf, dhcpV4Filters, kWeightExempt]
  have hdhcp6 : AllOf false .baseline dhcpV6Filters := by
    simp [AllOf, dhcpV6Filters, kWeightExempt]
  have hndp : AllOf false .baseline ndpFilters := by
    simp [AllOf, ndpFilters, kWeightExempt]
  have hlift : AllOf false .baseline dnsLiftFilters := by
    simp [AllOf, dnsLiftFilters, kWeightMedium]
  exact ((((((((((hservice.append happ).append hloopback).append htun).append htun6).append
    hlan).append hlan6).append hdhcp).append hdhcp6).append hndp).append hlift)

lemma floorFilters_allOf : AllOf true .baseline (floorFilters state cfg) :=
  .append (by simp [AllOf, kWeightMin]) (.ite (by simp [AllOf, kWeightMin]) .nil)

lemma dnsPermits_allOf : AllOf false .dns (dnsPermits pton state cfg) := by
  have hservice : AllOf false .dns (serviceDnsFilters cfg) :=
    .ite .nil (imageDnsFilters_allOf _ _ _)
  have happ : AllOf false .dns (appDnsFilters state cfg) := .ite (imageDnsFilters_allOf _ _ _) .nil
  have hhost : AllOf false .dns (hostResolverFilters pton state cfg) :=
    .ite (by simp [AllOf, kWeightMedium]) .nil
  have htunnel : AllOf false .dns (tunnelResolverFilters pton state cfg) :=
    .ite (.map _ (by simp [kWeightMedium])) .nil
  have htunnel6 : AllOf false .dns (tunnelResolverV6Filters pton state cfg) :=
    .ite (.map _ (by simp [kWeightMedium])) .nil
  have hloopback : AllOf false .dns loopbackDnsFilters := by
    simp [AllOf, loopbackDnsFilters, kWeightMedium]
  exact ((((hservice.append happ).append hhost).append htunnel).append htunnel6).append hloopback

lemma dnsBlocks_allOf : AllOf true .dns (dnsBlocks pton state cfg) :=
  .append (.ite (by simp [AllOf, kWeightMin]) .nil)
    (.ite (((portBlockFilters_allOf _ _).append (portBlockFilters_allOf _ _)).append
      (portBlockFilters_allOf _ _)) .nil)

/-- **The decision of `buildFilterSet`**: a connection goes through when it
matches a baseline permit, or escapes the floor, and matches a permit of the DNS
sublayer or none of its blocks. -/
theorem permitted_buildFilterSet (h : state ≠ .off) (c : Connection) :
    permitted (buildFilterSet pton state cfg) c =
      ((anyMatch (baselinePermits state cfg) c || !anyMatch (floorFilters state cfg) c) &&
        (anyMatch (dnsPermits pton state cfg) c || !anyMatch (dnsBlocks pton state cfg) c)) := by
  have hbp := baselinePermits_allOf state cfg
  have hbb := floorFilters_allOf state cfg
  have hdp := dnsPermits_allOf pton state cfg
  have hdb := dnsBlocks_allOf pton state cfg
  rw [buildFilterSet, if_neg h,
    permitted_eq ((hbp.floored.append hbb.floored).append (hdp.floored.append hdb.floored))]
  simp [hits_append, hbp.hits_eq, hbb.hits_eq, hdp.hits_eq, hdb.hits_eq, hbp.hits_eq_false,
    hbb.hits_eq_false, hdp.hits_eq_false, hdb.hits_eq_false]

end Parts

end UrnetworkWindows.Wfp
