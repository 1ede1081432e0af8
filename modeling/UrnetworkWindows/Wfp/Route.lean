/-
The route table and the firewall make the same decision.

An address bypasses the tunnel or is captured by exactly one prefix of the tun's
route set (`Net.Policy`); the connected policy lets an ordinary connection out
of the physical adapter in the first case and in no other.  The ports the
firewall treats by themselves are set aside.
-/
import UrnetworkWindows.Wfp.Leak

namespace UrnetworkWindows.Wfp

open Lib Lib.Arbitration Net

/-- A TCP or UDP connection of some other program, off the tun. -/
structure Connection.Ordinary (c : Connection) (cfg : WfpConfig) : Prop where
  outbound : c.outbound = true
  isUdpTcp : c.isUdpTcp = true
  notService : ¬ c.ofImage cfg.serviceImagePath
  notApp : ¬ c.ofImage cfg.appImagePath
  notLoopback : c.loopback = false
  offTun : c.localInterface ≠ cfg.tunLuid

/-- The ports every family's statement sets aside. -/
def nameResolutionPorts : List (BitVec 16) :=
  [kPortDns, kPortNetbiosNs, kPortNetbiosDgm, kPortNetbiosSsn, kPortMdns, kPortLlmnr]

/-- (a): the address bypasses the tunnel and no capture prefix has it. -/
def BypassesV4 (a : BitVec 32) : Prop :=
  isLocalBypassV4 a = true ∧ ∀ p ∈ kTunCaptureV4, p.hasAddr a = false

/-- (b): one capture prefix has the address. -/
def CapturedV4 (a : BitVec 32) : Prop := kTunCaptureV4.countP (fun p => p.hasAddr a) = 1

/-- (a) for IPv6. -/
def BypassesV6 (a : BitVec 128) : Prop :=
  isLocalBypassV6 a = true ∧ ∀ p ∈ kTunCaptureV6, p.hasAddr a = false

/-- (b) for IPv6. -/
def CapturedV6 (a : BitVec 128) : Prop := kTunCaptureV6.countP (fun p => p.hasAddr a) = 1

/-! ### The route table -/

/-- A list that an address is in none or one of, by a question asked of the
address: the two cases exclude each other and the question tells them apart. -/
lemma xor_of_countP {α β : Type*} {l : List α} {mem : α → β → Bool} {q : Bool} {a : β}
    (hcount : l.countP (fun p => mem p a) = if q then 0 else 1) :
    Xor (q = true ∧ ∀ p ∈ l, mem p a = false) (l.countP (fun p => mem p a) = 1) ∧
      ((q = true ∧ ∀ p ∈ l, mem p a = false) ↔ q = true) := by
  cases q with
  | true =>
    have hnone : ∀ p ∈ l, mem p a = false := by
      have hzero : l.countP (fun p => mem p a) = 0 := by simpa using hcount
      simpa [List.countP_eq_zero] using hzero
    refine ⟨.inl ⟨⟨rfl, hnone⟩, ?_⟩, fun _ => rfl, fun _ => ⟨rfl, hnone⟩⟩
    rw [hcount]
    simp
  | false =>
    refine ⟨.inr ⟨by simpa using hcount, fun h => absurd h.1 (by simp)⟩, fun h => h.1, ?_⟩
    intro h
    exact absurd h (by simp)

lemma xor_bypassesV4 (a : BitVec 32) :
    Xor (BypassesV4 a) (CapturedV4 a) ∧ (BypassesV4 a ↔ isLocalBypassV4 a = true) :=
  xor_of_countP (countP_kTunCaptureV4 a)

lemma xor_bypassesV6 {a : BitVec 128} (ha : a ≠ 1#128) :
    Xor (BypassesV6 a) (CapturedV6 a) ∧ (BypassesV6 a ↔ isLocalBypassV6 a = true) :=
  xor_of_countP (by rw [isLocalBypassV6_of_ne ha]; exact countP_kTunCaptureV6 a)

/-! ### The firewall -/

section Firewall

variable {pton : InetPton} {cfg : WfpConfig} {c : Connection}

lemma Connection.Ordinary.permitted_iff (h : c.Ordinary cfg)
    (hport : c.remotePort ∉ nameResolutionPorts)
    (hfloor : anyMatch (floorFilters .connected cfg) c = true)
    (hdhcp : c.isDhcpV4Broadcast = false) (hdhcp6 : c.isDhcpV6Request = false) :
    permitted (buildFilterSet pton .connected cfg) c = true ↔
      cfg.allowLan = true ∧ (c.remoteV4.any isLocalBypassV4 = true ∨
        (tunnelV6 .connected cfg = true ∧
          c.remoteV6.any (fun a => kLocalBypassV6.any fun b => b.hasAddr a) = true)) := by
  simp only [nameResolutionPorts, List.mem_cons, List.not_mem_nil, or_false, not_or] at hport
  obtain ⟨hdns, hns, hdgm, hssn, hmdns, hllmnr⟩ := hport
  have hquery : c.isDns = false := by simp [Connection.isDns, hdns]
  have hblocks : anyMatch (dnsBlocks pton .connected cfg) c = false := by
    rw [← Bool.not_eq_true, anyMatch_dnsBlocks pton .connected cfg h.outbound]
    simp [hquery, hns, hdgm, hssn, hmdns, hllmnr]
  -- neighbour discovery is ICMPv6, neither UDP nor TCP
  have hndp : c.isNdp = false := by
    have hproto := h.isUdpTcp
    simp only [Connection.isUdpTcp, Bool.or_eq_true, beq_iff_eq] at hproto
    rcases hproto with hproto | hproto <;>
      simp [Connection.isNdp, hproto, kProtoUdp, kProtoTcp, kProtoIcmpV6]
  rw [permitted_buildFilterSet _ _ _ (by simp), hblocks, hfloor, Bool.not_true, Bool.not_false,
    Bool.or_false, Bool.or_true, Bool.and_true,
    anyMatch_baselinePermits .connected cfg h.outbound]
  simp only [h.notService, h.notApp, h.notLoopback, h.offTun, hdhcp, hdhcp6, hndp, hquery,
    and_false, false_or, or_false, Bool.false_eq_true]
  constructor
  · rintro (⟨hlan, h4⟩ | ⟨hlan, h6⟩)
    · exact ⟨hlan, .inl h4⟩
    · exact ⟨hlan, .inr h6⟩
  · rintro ⟨hlan, h4 | h6⟩
    · exact .inl ⟨hlan, h4⟩
    · exact .inr ⟨hlan, h6⟩

lemma permitted_iff_bypassV4 (hlan : cfg.allowLan = true) (h : c.Ordinary cfg) {a : BitVec 32}
    (ha : c.remoteV4 = some a) (hport : c.remotePort ∉ nameResolutionPorts)
    (hserver : c.remotePort ≠ kPortDhcpServer) :
    permitted (buildFilterSet pton .connected cfg) c = true ↔ isLocalBypassV4 a = true := by
  have hremote6 : c.remoteV6 = none := by
    simp only [Connection.remoteV4, Connection.remoteV6] at ha ⊢
    cases hend : c.endpoints <;> simp_all
  rw [h.permitted_iff hport (by simp [anyMatch_floorFilters, Connection.isV4, ha])
    (by simp [Connection.isDhcpV4Broadcast, hserver])
    (by simp [Connection.isDhcpV6Request, hremote6])]
  simp [hlan, ha, hremote6]

lemma permitted_iff_bypassV6 (hlan : cfg.allowLan = true) (hluid : cfg.tunLuid ≠ 0#64)
    (hv6 : cfg.tunnelIpv6 = true) (h : c.Ordinary cfg) {a : BitVec 128} (hne : a ≠ 1#128)
    (ha : c.remoteV6 = some a) (hport : c.remotePort ∉ nameResolutionPorts)
    (hserver : c.remotePort ≠ kPortDhcpV6Server) :
    permitted (buildFilterSet pton .connected cfg) c = true ↔ isLocalBypassV6 a = true := by
  have htunnel : tunnelV6 .connected cfg = true := by simp [tunnelV6, hluid, hv6]
  have hremote4 : c.remoteV4 = none := by
    simp only [Connection.remoteV4, Connection.remoteV6] at ha ⊢
    cases hend : c.endpoints <;> simp_all
  rw [h.permitted_iff hport (by simp [anyMatch_floorFilters, blockV6, htunnel])
    (by simp [Connection.isDhcpV4Broadcast, hremote4])
    (by simp [Connection.isDhcpV6Request, hserver]), isLocalBypassV6_of_ne hne]
  simp [hlan, ha, hremote4, htunnel]

end Firewall

/-- **The route table and the firewall agree** on every IPv4 address, and on every
IPv6 address but ::1 for a dual-stack tunnel. -/
theorem route_firewall_agree (pton : InetPton) (cfg : WfpConfig) (hlan : cfg.allowLan = true)
    (hluid : cfg.tunLuid ≠ 0#64) :
    (∀ a : BitVec 32, Xor (BypassesV4 a) (CapturedV4 a) ∧
      ∀ c : Connection, c.Ordinary cfg → c.remoteV4 = some a →
        c.remotePort ∉ kPortDhcpServer :: nameResolutionPorts →
        (permitted (buildFilterSet pton .connected cfg) c = true ↔ BypassesV4 a)) ∧
    (cfg.tunnelIpv6 = true → ∀ a : BitVec 128, a ≠ 1#128 →
      Xor (BypassesV6 a) (CapturedV6 a) ∧
      ∀ c : Connection, c.Ordinary cfg → c.remoteV6 = some a →
        c.remotePort ∉ kPortDhcpV6Server :: nameResolutionPorts →
        (permitted (buildFilterSet pton .connected cfg) c = true ↔ BypassesV6 a)) := by
  refine ⟨fun a => ⟨(xor_bypassesV4 a).1, fun c h ha hport => ?_⟩, fun hv6 a hne =>
    ⟨(xor_bypassesV6 hne).1, fun c h ha hport => ?_⟩⟩
  · obtain ⟨hserver, hport⟩ := not_or.1 (List.mem_cons.not.1 hport)
    rw [(xor_bypassesV4 a).2]
    exact permitted_iff_bypassV4 hlan h ha hport hserver
  · obtain ⟨hserver, hport⟩ := not_or.1 (List.mem_cons.not.1 hport)
    rw [(xor_bypassesV6 hne).2]
    exact permitted_iff_bypassV6 hlan hluid hv6 h hne ha hport hserver

lemma browser_ordinary (remote : Endpoints) (port : BitVec 16) :
    (browser remote port).Ordinary (sampleConfig 7#64) :=
  ⟨rfl, rfl, fun h => absurd h.2 (by simp [browser, sampleConfig]),
    fun h => absurd h.2 (by simp [browser, sampleConfig]), by simp [browser, Connection.loopback,
      kFlagIsLoopback], by simp [browser, sampleConfig]⟩

theorem route_firewall_agree_sample :
    (permitted (buildFilterSet samplePton .connected (sampleConfig 7#64))
      (browser (.v4 0xC0A80105#32 0xC0A80109#32) 631#16) = true ↔ BypassesV4 0xC0A80109#32) ∧
    (permitted (buildFilterSet samplePton .connected (sampleConfig 7#64))
      (browser (.v6 0#128 0x20010db8000000000000000000000001#128) 443#16) = true ↔
        BypassesV6 0x20010db8000000000000000000000001#128) :=
  ⟨((route_firewall_agree samplePton (sampleConfig 7#64) rfl (by decide)).1 _).2 _
      (browser_ordinary _ _) rfl (by decide),
    ((route_firewall_agree samplePton (sampleConfig 7#64) rfl (by decide)).2 rfl _
      (by decide)).2 _ (browser_ordinary _ _) rfl (by decide)⟩

end UrnetworkWindows.Wfp
