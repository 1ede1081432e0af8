/-
What the app keeps of the service's statuses (`SdkHost.cpp`: `AdoptServiceFacts`,
`ApplySdkEgressBind`, `OnServiceDisconnected`).

A status is adopted field by field, each field in a store of its own, with no lock over them
all.  The drop of the control channel stores the values of a service that is gone, and a
sign-out and a quit those of a provider that is, in the same way.

An interface's index is a 32-bit word, and never all ones.  The two indexes of a binding are
kept packed into one word beside what the sdk was told, and `-1` says that the sdk was told
nothing yet.  The provider's client count and what an adoption starts (the provider's plots,
the log upload) are left out.
-/
import UrnetworkWindows.Ipc.Messages

namespace UrnetworkWindows.ServiceFacts

open Lib Controller Proto

/-- `egress` is what the sdk was last told. -/
structure Facts where
  lastServiceState : TunnelState := .stopped
  serviceStateKnown : Bool := false
  lastServiceDnsApplied : Bool := false
  lastServiceRoutesInstalled : Bool := false
  serviceProviderRunning : Bool := false
  serviceProviderMode : Int64 := 0
  serviceProviderNetworkKey : Bool := false
  serviceProviderKnown : Bool := false
  sdkEgressBound : Int64 := -1
  egress : Int64 × Int64 := (0, 0)
  lastServiceWfpState : ByteArray := utf8 "off"

/-! ### The egress binding -/

/-- A binding's two indexes in one word. -/
def packed (index4 index6 : Int64) : Int64 := (index4 <<< 32) ||| (index6 &&& 0xFFFFFFFF)

/-- A word that can be an interface's index, or 0. -/
def InterfaceIndex (index : Int64) : Prop := index.toBitVec.toNat < 2 ^ 32 - 1

instance (index : Int64) : Decidable (InterfaceIndex index) :=
  inferInstanceAs (Decidable (_ < _))

lemma packed_toNat {index4 index6 : Int64} (h4 : InterfaceIndex index4)
    (h6 : InterfaceIndex index6) :
    (packed index4 index6).toBitVec.toNat =
      index4.toBitVec.toNat * 2 ^ 32 + index6.toBitVec.toNat := by
  unfold InterfaceIndex at h4 h6
  have hshift : ((32 : Int64).toBitVec.smod 64).toNat = 32 := by decide
  have hmask : (0xFFFFFFFF : Int64).toBitVec.toNat = 2 ^ 32 - 1 := by decide
  have hlow : index6.toBitVec.toNat &&& (2 ^ 32 - 1) = index6.toBitVec.toNat := by
    rw [Nat.and_two_pow_sub_one_eq_mod]
    exact Nat.mod_eq_of_lt (by omega)
  have hhigh : index4.toBitVec.toNat <<< 32 % 2 ^ 64 = index4.toBitVec.toNat <<< 32 := by
    rw [Nat.shiftLeft_eq]
    exact Nat.mod_eq_of_lt (by omega)
  rw [packed, Int64.toBitVec_or, Int64.toBitVec_shiftLeft, Int64.toBitVec_and, BitVec.toNat_or,
    BitVec.toNat_and, hmask, hlow, BitVec.shiftLeft_eq', hshift, BitVec.toNat_shiftLeft, hhigh,
    ← Nat.shiftLeft_add_eq_or_of_lt (by omega), Nat.shiftLeft_eq]

lemma packed_inj {i4 i6 j4 j6 : Int64} (hi4 : InterfaceIndex i4) (hi6 : InterfaceIndex i6)
    (hj4 : InterfaceIndex j4) (hj6 : InterfaceIndex j6) (h : packed i4 i6 = packed j4 j6) :
    i4 = j4 ∧ i6 = j6 := by
  have hword : (packed i4 i6).toBitVec.toNat = (packed j4 j6).toBitVec.toNat := by rw [h]
  rw [packed_toNat hi4 hi6, packed_toNat hj4 hj6] at hword
  unfold InterfaceIndex at hi4 hi6 hj4 hj6
  constructor
  · exact Int64.toBitVec_inj.1 (BitVec.eq_of_toNat_eq (by omega))
  · exact Int64.toBitVec_inj.1 (BitVec.eq_of_toNat_eq (by omega))

lemma packed_ne_neg_one {i4 i6 : Int64} (h4 : InterfaceIndex i4) (h6 : InterfaceIndex i6) :
    packed i4 i6 ≠ -1 := by
  intro h
  have hones : (-1 : Int64).toBitVec.toNat = 2 ^ 64 - 1 := by decide
  have hword := packed_toNat h4 h6
  rw [h, hones] at hword
  unfold InterfaceIndex at h4 h6
  omega

/-- `ApplySdkEgressBind`. -/
def Facts.applySdkEgressBind (facts : Facts) (index4 index6 : Int64) : Facts :=
  if facts.sdkEgressBound = packed index4 index6 then facts
  else { facts with sdkEgressBound := packed index4 index6, egress := (index4, index6) }

/-- A binding that an interface's indexes make, or none. -/
def Facts.Bindable (facts : Facts) : Prop :=
  InterfaceIndex facts.egress.1 ∧ InterfaceIndex facts.egress.2

instance (facts : Facts) : Decidable facts.Bindable := inferInstanceAs (Decidable (_ ∧ _))

/-- The packed word is the binding's, or the sdk was told nothing yet. -/
structure Facts.Bound (facts : Facts) : Prop where
  bindable : facts.Bindable
  word : facts.sdkEgressBound = packed facts.egress.1 facts.egress.2 ∨
    facts.sdkEgressBound = -1

lemma Facts.bound_init : Facts.Bound {} := ⟨by decide, .inr rfl⟩

lemma Facts.Bound.applySdkEgressBind {facts : Facts} (h : facts.Bound) {index4 index6 : Int64}
    (h4 : InterfaceIndex index4) (h6 : InterfaceIndex index6) :
    (facts.applySdkEgressBind index4 index6).egress = (index4, index6) ∧
      (facts.applySdkEgressBind index4 index6).Bound := by
  unfold Facts.applySdkEgressBind
  split_ifs with hsame
  · rcases h.word with hword | hword
    · obtain ⟨rfl, rfl⟩ := packed_inj h.bindable.1 h.bindable.2 h4 h6 (hword.symm.trans hsame)
      exact ⟨rfl, h⟩
    · exact absurd (hsame.symm.trans hword) (packed_ne_neg_one h4 h6)
  · exact ⟨rfl, ⟨h4, h6⟩, .inl rfl⟩

/-! ### The stores -/

/-- The fields in which the app keeps a status. -/
inductive Field
  | state
  | stateKnown
  | dns
  | routes
  | providerRunning
  | providerMode
  | providerNetworkKey
  | providerKnown
  | egress
  | wfp
deriving DecidableEq, Repr

/-- A field is stored. -/
def Facts.store (facts src : Facts) : Field → Facts
  | .state => { facts with lastServiceState := src.lastServiceState }
  | .stateKnown => { facts with serviceStateKnown := src.serviceStateKnown }
  | .dns => { facts with lastServiceDnsApplied := src.lastServiceDnsApplied }
  | .routes => { facts with lastServiceRoutesInstalled := src.lastServiceRoutesInstalled }
  | .providerRunning => { facts with serviceProviderRunning := src.serviceProviderRunning }
  | .providerMode => { facts with serviceProviderMode := src.serviceProviderMode }
  | .providerNetworkKey =>
    { facts with serviceProviderNetworkKey := src.serviceProviderNetworkKey }
  | .providerKnown => { facts with serviceProviderKnown := src.serviceProviderKnown }
  | .egress => facts.applySdkEgressBind src.egress.1 src.egress.2
  | .wfp => { facts with lastServiceWfpState := src.lastServiceWfpState }

/-- What a field shows is what it shows in `src`.  The two flags that any status sets show
nothing of it. -/
def Facts.Shows (facts src : Facts) : Field → Prop
  | .state => facts.lastServiceState = src.lastServiceState
  | .stateKnown => True
  | .dns => facts.lastServiceDnsApplied = src.lastServiceDnsApplied
  | .routes => facts.lastServiceRoutesInstalled = src.lastServiceRoutesInstalled
  | .providerRunning => facts.serviceProviderRunning = src.serviceProviderRunning
  | .providerMode => facts.serviceProviderMode = src.serviceProviderMode
  | .providerNetworkKey => facts.serviceProviderNetworkKey = src.serviceProviderNetworkKey
  | .providerKnown => True
  | .egress => facts.egress = src.egress
  | .wfp => facts.lastServiceWfpState = src.lastServiceWfpState

instance (facts src : Facts) (f : Field) : Decidable (facts.Shows src f) := by
  cases f <;> unfold Facts.Shows <;> infer_instance

namespace Facts

variable {facts src src' : Facts} {f g : Field}

lemma Shows.symm (h : facts.Shows src f) : src.Shows facts f := by
  cases f with
  | stateKnown | providerKnown => trivial
  | _ => exact Eq.symm h

lemma Shows.trans (h : facts.Shows src f) (h' : src.Shows src' f) : facts.Shows src' f := by
  cases f with
  | stateKnown | providerKnown => trivial
  | _ => exact Eq.trans h h'

lemma store_shows (h : facts.Bound) (hsrc : src.Bindable) : (facts.store src f).Shows src f := by
  cases f with
  | stateKnown | providerKnown => trivial
  | egress => exact (h.applySdkEgressBind hsrc.1 hsrc.2).1
  | _ => rfl

lemma store_shows_of_ne (hne : g ≠ f) (h : facts.Shows src' g) :
    (facts.store src f).Shows src' g := by
  cases f with
  | egress =>
    unfold Facts.store Facts.applySdkEgressBind
    dsimp only
    split_ifs
    · exact h
    · cases g <;> first | exact h | exact absurd rfl hne
  | _ => cases g <;> first | exact h | exact absurd rfl hne

lemma Bound.store (h : facts.Bound) (hsrc : src.Bindable) : (facts.store src f).Bound := by
  cases f with
  | egress => exact (h.applySdkEgressBind hsrc.1 hsrc.2).2
  | _ => exact ⟨h.bindable, h.word⟩

end Facts

/-! ### The adoptions -/

/-- What a status says. -/
def Facts.of (st : TunnelStatus) : Facts where
  lastServiceState := st.state
  serviceStateKnown := true
  lastServiceDnsApplied := st.dnsApplied
  lastServiceRoutesInstalled := st.routesInstalled
  serviceProviderRunning := st.providerRunning
  serviceProviderMode := if st.providerRunning then st.providerMode else 0
  serviceProviderNetworkKey := st.providerRunning && st.providerNetworkKey
  serviceProviderKnown := true
  -- bound before the service installs its routes, and while they are there
  egress :=
    if st.routesInstalled ∨ st.state = .preparing then (st.egressIndex4, st.egressIndex6)
    else (0, 0)
  lastServiceWfpState := st.wfpState

/-- The stores of `AdoptServiceFacts`, in its order. -/
def adoptServiceFacts : List Field :=
  [.state, .stateKnown, .dns, .routes, .providerRunning, .providerMode, .providerNetworkKey,
    .providerKnown, .egress, .wfp]

/-- The values of a service that is gone. -/
def dropped : Facts := {}

/-- The stores of `OnServiceDisconnected`, in its order. -/
def onServiceDisconnected : List Field :=
  [.dns, .routes, .state, .providerRunning, .providerMode, .providerNetworkKey, .egress, .wfp]

/-- The stores of a sign-out and a quit: nothing provides now. -/
def retireProvider : List Field := [.providerRunning, .providerMode, .providerNetworkKey]

lemma mem_adoptServiceFacts (f : Field) : f ∈ adoptServiceFacts := by
  cases f <;> decide

lemma mem_onServiceDisconnected {f : Field} (h : f ∉ onServiceDisconnected) (facts src : Facts) :
    facts.Shows src f := by
  cases f with
  | stateKnown | providerKnown => trivial
  | _ => exact absurd (by decide) h

/-- A status names interfaces by their indexes. -/
def Sendable (st : TunnelStatus) : Prop :=
  InterfaceIndex st.egressIndex4 ∧ InterfaceIndex st.egressIndex6

instance (st : TunnelStatus) : Decidable (Sendable st) := inferInstanceAs (Decidable (_ ∧ _))

lemma Facts.of_bindable {st : TunnelStatus} (h : Sendable st) : (Facts.of st).Bindable := by
  unfold Facts.Bindable Facts.of
  dsimp only
  split_ifs
  · exact h
  · decide

lemma dropped_bindable : dropped.Bindable := by decide

end UrnetworkWindows.ServiceFacts
