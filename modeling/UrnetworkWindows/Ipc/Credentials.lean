/-
Credentials compared by the client they name (`Protocol.h`, `ProvideLifecycle.h`).

A token that names a client has the client's two ids for its subject, joined by a slash, and any
other credential is its own (`compared_by_client`).  A network id that is missing, or is no text,
counts as empty.

The JSON library is a parameter.
-/
import UrnetworkWindows.Ipc.Messages
import UrnetworkWindows.Lib.Scan
import UrnetworkWindows.Top200.SignLink

namespace UrnetworkWindows.Proto

open Lib Top200 SignIn.Approval SignIn.AuthLink

/-! ### Base64url -/

/-- The loop of `DecodeBase64Url`, which padding ends. -/
def readSegment (d : Decoder) : List UInt8 → Option Decoder
  | [] => some d
  | c :: s =>
    match base64UrlValue c with
    | some v => readSegment (d.push v) s
    | none => if c = '='.toUInt8 then some d else none

/-- `DecodeBase64Url`. -/
def decodeSegment (s : List UInt8) : Option (List UInt8) := (readSegment {} s).map Decoder.out

lemma readSegment_append {d d' : Decoder} {s : List UInt8} (h : d.read s = some d')
    (rest : List UInt8) : readSegment d (s ++ rest) = readSegment d' rest := by
  induction s generalizing d with
  | nil =>
    cases h
    rfl
  | cons c s ih =>
    rw [Decoder.read] at h
    rw [List.cons_append, readSegment]
    split at h
    · cases h
    · next v hv =>
      rw [hv]
      exact ih h

lemma readSegment_padding (d : Decoder) (k : ℕ) :
    readSegment d (List.replicate k '='.toUInt8) = some d := by
  cases k with
  | zero => rfl
  | succ k => rfl

theorem decodeSegment_base64Url (b : List UInt8) (k : ℕ) :
    decodeSegment (base64Url b ++ List.replicate k '='.toUInt8) = some b := by
  have hstart : ({} : Decoder).After [] := ⟨by decide, rfl⟩
  rcases hstart.read (base64Url b) with ⟨-, d, hread, hafter⟩ | ⟨hall, -⟩
  · have hdecodes : Decodes (base64Url b) d.out :=
      ⟨_, (length_lowBits ..).trans_lt hafter.count_lt, hafter.bits_eq⟩
    rw [decodeSegment, readSegment_append hread, readSegment_padding, Option.map_some,
      hdecodes.unique (decodes_base64Url b)]
  · rw [all_base64Url] at hall
    cases hall

/-! ### Subjects -/

/-- The bytes of a text. -/
def bytesOf (s : ByteArray) : List UInt8 := s.data.toList

/-- What stands between the first two dots. -/
def payloadSegment (jwt : List UInt8) : Option (List UInt8) :=
  match jwt.dropWhile (· ≠ '.'.toUInt8) with
  | [] => none
  | _ :: rest =>
    match rest.dropWhile (· ≠ '.'.toUInt8) with
    | [] => none
    | _ :: _ => some (rest.takeWhile (· ≠ '.'.toUInt8))

/-- The network's id in a token's claims: one that is missing, or is no text, is empty. -/
def networkOf (claims : Json) : List UInt8 :=
  match claims.find "network_id" with
  | some (.string network) => bytesOf network
  | _ => []

/-- The ids in a token's claims: the network's and the client's, where it names a client. -/
def idsOf (claims : Json) : Option (List UInt8 × List UInt8) :=
  if claims.isObject then
    match claims.find "client_id" with
    | some (.string client) =>
      if bytesOf client = [] then none else some (networkOf claims, bytesOf client)
    | _ => none
  else none

/-- The identity a device is built from, with the client that its credential names. -/
structure DeviceIdentity where
  jwtSubject : List UInt8
  networkSpaceJson : ByteArray
  instanceId : ByteArray
  deviceDescription : ByteArray
  deviceSpec : ByteArray
  appVersion : ByteArray
deriving DecidableEq

/-- `SameIdentity`. -/
def sameIdentity (a b : DeviceIdentity) : Bool :=
  a.jwtSubject = b.jwtSubject && a.networkSpaceJson = b.networkSpaceJson &&
    a.instanceId = b.instanceId && a.deviceDescription = b.deviceDescription &&
      a.deviceSpec = b.deviceSpec && a.appVersion = b.appVersion

/-- `PromotesProviderDevice`. -/
def promotesProviderDevice (providerDevice : Bool) (provider start : DeviceIdentity) : Bool :=
  providerDevice && sameIdentity provider start

section Subjects

variable (parse : List UInt8 → Option Json)

/-- The client that a credential names. -/
def namedClient (jwt : List UInt8) : Option (List UInt8 × List UInt8) :=
  match payloadSegment jwt with
  | none => none
  | some segment =>
    match decodeSegment segment with
    | none => none
    | some payload => (parse payload).bind idsOf

/-- `JwtSubject`. -/
def jwtSubject (jwt : List UInt8) : List UInt8 :=
  match namedClient parse jwt with
  | none => jwt
  | some (network, client) => narrow "client:" ++ network ++ '/'.toUInt8 :: client

/-- `IdentityOf(StartProvider)`. -/
def identityOfProvider (r : StartProvider) : DeviceIdentity where
  jwtSubject := jwtSubject parse (bytesOf r.byJwt)
  networkSpaceJson := r.networkSpaceJson
  instanceId := r.instanceId
  deviceDescription := r.deviceDescription
  deviceSpec := r.deviceSpec
  appVersion := r.appVersion

/-- `IdentityOf(StartTunnel)`. -/
def identityOfTunnel (r : StartTunnel) : DeviceIdentity where
  jwtSubject := jwtSubject parse (bytesOf r.byJwt)
  networkSpaceJson := r.networkSpaceJson
  instanceId := r.instanceId
  deviceDescription := r.deviceDescription
  deviceSpec := r.deviceSpec
  appVersion := r.appVersion

/-- `SameProviderDevice`. -/
def sameProviderDevice (a b : StartProvider) : Bool :=
  sameIdentity (identityOfProvider parse a) (identityOfProvider parse b)

/-! ### Tokens -/

/-- A token of three parts whose claims name a client by a text, and a network by a text, or
none: then it is empty. -/
structure IsJwt (jwt network client : List UInt8) : Prop where
  parts : ∃ header payload padding signature claims client',
    jwt = header ++ '.'.toUInt8 ::
      ((base64Url payload ++ List.replicate padding '='.toUInt8) ++ '.'.toUInt8 :: signature) ∧
    '.'.toUInt8 ∉ header ∧ '.'.toUInt8 ∉ signature ∧
    parse payload = some claims ∧ claims.isObject = true ∧
    networkOf claims = network ∧
    claims.find "client_id" = some (.string client') ∧ bytesOf client' = client
  client_ne : client ≠ []
  network_plain : '/'.toUInt8 ∉ network
  client_plain : '/'.toUInt8 ∉ client

/-- What stands between the first two dots decodes to an object that names a client. -/
def NamesClient (jwt : List UInt8) : Prop :=
  ∃ header segment rest payload claims client,
    jwt = header ++ '.'.toUInt8 :: (segment ++ '.'.toUInt8 :: rest) ∧
    '.'.toUInt8 ∉ header ∧ '.'.toUInt8 ∉ segment ∧ decodeSegment segment = some payload ∧
    parse payload = some claims ∧ claims.isObject = true ∧
    claims.find "client_id" = some (.string client) ∧ bytesOf client ≠ []

end Subjects

lemma payloadSegment_eq {header segment : List UInt8} (hheader : '.'.toUInt8 ∉ header)
    (hsegment : '.'.toUInt8 ∉ segment) (rest : List UInt8) :
    payloadSegment (header ++ '.'.toUInt8 :: (segment ++ '.'.toUInt8 :: rest)) = some segment := by
  have hne : ∀ {s : List UInt8}, '.'.toUInt8 ∉ s → ∀ c ∈ s, decide (c ≠ '.'.toUInt8) = true := by
    intro s hs c hc
    exact decide_eq_true fun heq => hs (heq ▸ hc)
  rw [payloadSegment, List.dropWhile_append_of_pos (hne hheader),
    List.dropWhile_cons_of_neg (by decide)]
  dsimp only
  rw [List.dropWhile_append_of_pos (hne hsegment), List.dropWhile_cons_of_neg (by decide)]
  dsimp only
  rw [List.takeWhile_append_of_pos (hne hsegment), List.takeWhile_cons_of_neg (by decide),
    List.append_nil]

lemma exists_of_payloadSegment {jwt segment : List UInt8} (h : payloadSegment jwt = some segment) :
    ∃ header rest, jwt = header ++ '.'.toUInt8 :: (segment ++ '.'.toUInt8 :: rest) ∧
      '.'.toUInt8 ∉ header ∧ '.'.toUInt8 ∉ segment := by
  have hplain : ∀ s : List UInt8, '.'.toUInt8 ∉ s.takeWhile (· ≠ '.'.toUInt8) := by
    intro s hmem
    simpa using List.mem_takeWhile_imp hmem
  rw [payloadSegment] at h
  split at h
  · cases h
  · next c rest hfirst =>
    split at h
    · cases h
    · next d rest' hsecond =>
      cases h
      refine ⟨_, rest', ?_, hplain jwt, hplain rest⟩
      rw [← eq_of_dropWhile_ne hsecond]
      exact eq_of_dropWhile_ne hfirst

lemma dot_notMem_base64Url (payload : List UInt8) (padding : ℕ) :
    '.'.toUInt8 ∉ base64Url payload ++ List.replicate padding '='.toUInt8 := by
  rw [List.mem_append, not_or]
  constructor
  · intro hmem
    exact absurd (List.all_eq_true.1 (all_base64Url payload) _ hmem) (by decide)
  · intro hmem
    exact absurd (List.eq_of_mem_replicate hmem) (by decide)

section Compared

variable {parse : List UInt8 → Option Json}

lemma IsJwt.namedClient_eq {jwt network client : List UInt8} (h : IsJwt parse jwt network client) :
    namedClient parse jwt = some (network, client) := by
  obtain ⟨header, payload, padding, signature, claims, client', rfl, hheader, -, hparse, hobject,
    rfl, hclient, rfl⟩ := h.parts
  rw [namedClient, payloadSegment_eq hheader (dot_notMem_base64Url payload padding)]
  dsimp only
  rw [decodeSegment_base64Url]
  dsimp only
  rw [hparse, Option.bind_some, idsOf, if_pos hobject, hclient]
  dsimp only
  rw [if_neg h.client_ne]

lemma NamesClient.of_namedClient {jwt : List UInt8} {ids : List UInt8 × List UInt8}
    (h : namedClient parse jwt = some ids) : NamesClient parse jwt := by
  rw [namedClient] at h
  split at h
  · cases h
  · next segment hsegment =>
    split at h
    · cases h
    · next payload hpayload =>
      obtain ⟨claims, hclaims, h⟩ := Option.bind_eq_some_iff.1 h
      obtain ⟨header, rest, rfl, hheader, hplain⟩ := exists_of_payloadSegment hsegment
      rw [idsOf] at h
      split_ifs at h with hobject
      split at h
      · next client hclient =>
        split_ifs at h with hne
        exact ⟨header, segment, rest, payload, claims, client, rfl, hheader, hplain, hpayload,
          hclaims, hobject, hclient, hne⟩
      · cases h

lemma ids_inj {network network' client client' : List UInt8} (h : '/'.toUInt8 ∉ network)
    (h' : '/'.toUInt8 ∉ network') :
    network ++ '/'.toUInt8 :: client = network' ++ '/'.toUInt8 :: client' ↔
      network = network' ∧ client = client' := by
  constructor
  · intro heq
    have hne : ∀ {s : List UInt8}, '/'.toUInt8 ∉ s → ∀ c ∈ s, decide (c ≠ '/'.toUInt8) = true := by
      intro s hs c hc
      exact decide_eq_true fun heq => hs (heq ▸ hc)
    have hnetwork := congrArg (List.takeWhile (· ≠ '/'.toUInt8)) heq
    rw [List.takeWhile_append_of_pos (hne h), List.takeWhile_append_of_pos (hne h'),
      List.takeWhile_cons_of_neg (by decide), List.takeWhile_cons_of_neg (by decide),
      List.append_nil, List.append_nil] at hnetwork
    subst hnetwork
    exact ⟨rfl, (List.cons.inj (List.append_cancel_left heq)).2⟩
  · rintro ⟨rfl, rfl⟩
    rfl

lemma IsJwt.jwtSubject_eq {jwt network client : List UInt8} (h : IsJwt parse jwt network client) :
    jwtSubject parse jwt = narrow "client:" ++ network ++ '/'.toUInt8 :: client := by
  rw [jwtSubject, h.namedClient_eq]

lemma IsJwt.jwtSubject_inj {jwt jwt' network network' client client' : List UInt8}
    (h : IsJwt parse jwt network client) (h' : IsJwt parse jwt' network' client') :
    jwtSubject parse jwt = jwtSubject parse jwt' ↔ network = network' ∧ client = client' := by
  rw [h.jwtSubject_eq, h'.jwtSubject_eq, List.append_assoc, List.append_assoc,
    List.append_cancel_left_eq, ids_inj h.network_plain h'.network_plain]

lemma jwtSubject_of_not_namesClient {jwt : List UInt8} (h : ¬NamesClient parse jwt) :
    jwtSubject parse jwt = jwt := by
  rw [jwtSubject]
  split
  · rfl
  · next hids => exact absurd (NamesClient.of_namedClient hids) h

end Compared

/-! ### Devices -/

/-- The identities are equal but for the credentials. -/
structure OtherwiseEqual (a b : DeviceIdentity) : Prop where
  networkSpaceJson : a.networkSpaceJson = b.networkSpaceJson
  instanceId : a.instanceId = b.instanceId
  deviceDescription : a.deviceDescription = b.deviceDescription
  deviceSpec : a.deviceSpec = b.deviceSpec
  appVersion : a.appVersion = b.appVersion

lemma OtherwiseEqual.sameIdentity_iff {a b : DeviceIdentity} (h : OtherwiseEqual a b) :
    sameIdentity a b = true ↔ a.jwtSubject = b.jwtSubject := by
  simp only [sameIdentity, h.networkSpaceJson, h.instanceId, h.deviceDescription, h.deviceSpec,
    h.appVersion, decide_true, Bool.and_true, decide_eq_true_eq]

/-- Credentials are compared by the client they name. -/
structure ComparedByClient (parse : List UInt8 → Option Json) : Prop where
  decoded : ∀ (b : List UInt8) (padding : ℕ),
    decodeSegment (base64Url b ++ List.replicate padding '='.toUInt8) = some b
  subject : ∀ jwt network client, IsJwt parse jwt network client →
    jwtSubject parse jwt = narrow "client:" ++ network ++ '/'.toUInt8 :: client
  agree : ∀ jwt network client jwt' network' client',
    IsJwt parse jwt network client → IsJwt parse jwt' network' client' →
      (jwtSubject parse jwt = jwtSubject parse jwt' ↔ network = network' ∧ client = client')
  own : ∀ jwt, ¬NamesClient parse jwt → jwtSubject parse jwt = jwt
  sameProvider : ∀ (a b : StartProvider) (network client network' client' : List UInt8),
    IsJwt parse (bytesOf a.byJwt) network client →
      IsJwt parse (bytesOf b.byJwt) network' client' →
        OtherwiseEqual (identityOfProvider parse a) (identityOfProvider parse b) →
          (sameProviderDevice parse a b = true ↔ network = network' ∧ client = client')
  promoted : ∀ (a : StartProvider) (b : StartTunnel) (network client network' client' : List UInt8),
    IsJwt parse (bytesOf a.byJwt) network client →
      IsJwt parse (bytesOf b.byJwt) network' client' →
        OtherwiseEqual (identityOfProvider parse a) (identityOfTunnel parse b) →
          (promotesProviderDevice true (identityOfProvider parse a) (identityOfTunnel parse b) =
            true ↔ network = network' ∧ client = client')

theorem compared_by_client (parse : List UInt8 → Option Json) : ComparedByClient parse where
  decoded := decodeSegment_base64Url
  subject _ _ _ h := h.jwtSubject_eq
  agree _ _ _ _ _ _ h h' := h.jwtSubject_inj h'
  own _ h := jwtSubject_of_not_namesClient h
  sameProvider a b _ _ _ _ h h' hequal := by
    rw [sameProviderDevice, hequal.sameIdentity_iff]
    exact h.jwtSubject_inj h'
  promoted a b _ _ _ _ h h' hequal := by
    rw [promotesProviderDevice, Bool.true_and, hequal.sameIdentity_iff]
    exact h.jwtSubject_inj h'

/-- The claims of a token without a network, as the library reads them. -/
def noNetwork (payload : List UInt8) : Option Json :=
  if payload = narrow "\x7b\"client_id\":\"c\"\x7d" then
    some (.object (members [("client_id", .string (utf8 "c"))]))
  else none

/-- `e.eyJjbGllbnRfaWQiOiJjIn0.s`, whose claims name a client and no network. -/
theorem not_own_subject :
    (∀ network client, network ≠ [] →
      ¬IsJwt noNetwork (narrow "e.eyJjbGllbnRfaWQiOiJjIn0.s") network client) ∧
      jwtSubject noNetwork (narrow "e.eyJjbGllbnRfaWQiOiJjIn0.s") ≠
        narrow "e.eyJjbGllbnRfaWQiOiJjIn0.s" := by
  have hsegment : payloadSegment (narrow "e.eyJjbGllbnRfaWQiOiJjIn0.s") =
      some (narrow "eyJjbGllbnRfaWQiOiJjIn0") := by decide +kernel
  have hpayload : decodeSegment (narrow "eyJjbGllbnRfaWQiOiJjIn0") =
      some (narrow "\x7b\"client_id\":\"c\"\x7d") := by decide +kernel
  have hids : namedClient noNetwork (narrow "e.eyJjbGllbnRfaWQiOiJjIn0.s") =
      some ([], narrow "c") := by
    have hbytes : bytesOf (utf8 "c") = narrow "c" := by decide +kernel
    have hne : narrow "c" ≠ [] := by decide
    rw [namedClient, hsegment]
    dsimp only
    rw [hpayload]
    dsimp only
    rw [noNetwork, if_pos rfl, Option.bind_some]
    simp [idsOf, networkOf, Json.isObject, hbytes, hne]
  constructor
  · intro network client hne h
    have heq := h.namedClient_eq.symm.trans hids
    exact hne (congrArg Prod.fst (Option.some.inj heq))
  · rw [jwtSubject, hids]
    decide

end UrnetworkWindows.Proto
