/-
What a Solana wallet's hand-back leaves of the bridge (`WalletConnect.cpp`: `HandleDeepLink`).

`Bridge` has the library's functions return.  Here they may throw, and an exception that no
handler catches leaves `HandleDeepLink` with the members as they were when it was thrown
(`Thrown`).  Of a library that keeps its exceptions to itself the two say the same
(`Quiet.handleDeepLink_eq`).  The callbacks of the app, which the handlers call inside the
same try, are taken to return.

A connect return puts its key in the members before it is known to open, and its public key
before its session is read.  So a return that fails leaves the members as they were except
where `Marks` says otherwise (`hand_back_changes_nothing_iff`).
-/
import UrnetworkWindows.Browser.Bridge

namespace UrnetworkWindows.Browser.HandBack

open Lib WalletConnect

/-- What a function of the library throws: a `std::exception`, which the handlers catch, or
anything else. -/
inductive Thrown
  | std (what : Bytes)
  | other
deriving DecidableEq, Repr

/-- The library's functions for the hand-back, as they may throw. -/
structure Urnet where
  decodeBase58 (text : Bytes) : Except Thrown (Option Bytes)
  encodeBase58 (data : Bytes) : Except Thrown Bytes
  generateSharedSecret (privateKey publicKey : Bytes) : Except Thrown Bytes
  decryptData (data nonce secret : Bytes) : Except Thrown Bytes

/-- `catch (const std::exception&)` with an empty answer. -/
def caught {α : Type} : Except Thrown α → Except Thrown (Option α)
  | .ok a => .ok (some a)
  | .error (.std _) => .ok none
  | .error .other => .error .other

/-- `TryDecrypt`, of which an empty answer is none. -/
def Urnet.tryDecrypt (urnet : Urnet) (data nonce secret : Bytes) :
    Except Thrown (Option Bytes) := do
  let decrypted ← caught (urnet.decryptData data nonce secret)
  return decrypted.filter (· ≠ [])

/-- `SharedSecretBase58`, of the app's private key and a wallet's key. -/
def Urnet.sharedSecretBase58 (urnet : Urnet) (privateKey walletKey : Bytes) :
    Except Thrown (Option Bytes) := do
  match ← urnet.decodeBase58 privateKey, ← urnet.decodeBase58 walletKey with
  | some priv, some pub =>
    let secret ← caught do
      let shared ← urnet.generateSharedSecret priv pub
      if shared = [] then return none
      return some (← urnet.encodeBase58 shared)
    return secret.join
  | _, _ => return none

variable (sdk : Sdk) (urnet : Urnet) (base64 : Bytes → Bytes) (w : WalletConnect)

/-- `HandleConnect`: the members as it leaves them, and what it reports if it returns. -/
def handleConnect (p : Provider) (query : Bytes) : WalletConnect × Except Thrown Report :=
  let params := parseQueryString query
  match param params (narrow "errorCode") with
  | some code =>
    let pageText := (param params (narrow "errorMessage")).getD (narrow "wallet connect error")
    (w, .ok (.error (localizedBridgeError sdk p code pageText w.connectOffersManualEntry)))
  | none =>
    match param params (p.host ++ narrow "_encryption_public_key"),
      param params (narrow "nonce"), param params (narrow "data"), w.dappKeyPair with
    | some key, some nonce, some data, some pair =>
      let w := { w with walletEncryptionPublicKey := some key }
      match urnet.sharedSecretBase58 pair.privateKey key with
      | .error thrown => (w, .error thrown)
      | .ok none => (w, .ok (.error (narrow "failed to derive shared secret")))
      | .ok (some secret) =>
        match urnet.tryDecrypt data nonce secret with
        | .error thrown => (w, .error thrown)
        | .ok none => (w, .ok (.error (narrow "failed to decrypt wallet connection")))
        | .ok (some text) =>
          match sdk.member text (narrow "public_key") with
          | .error what => (w, .ok (.error (narrow "bad connect response: " ++ what)))
          | .ok publicKey =>
            let w := { w with connectedPublicKey := some publicKey }
            match sdk.member text (narrow "session") with
            | .error what => (w, .ok (.error (narrow "bad connect response: " ++ what)))
            | .ok session =>
              ({ w with
                session := some session
                currentProvider := p }, .ok (.publicKey publicKey p))
    | _, _, _, _ => (w, .ok (.error (narrow "missing wallet connect parameters")))

/-- `HandleSignMessage`. -/
def handleSignMessage (p : Provider) (query : Bytes) : Except Thrown Report :=
  let params := parseQueryString query
  match param params (narrow "errorCode") with
  | some code =>
    let pageText := (param params (narrow "errorMessage")).getD (narrow "wallet signing error")
    .ok (.error (localizedBridgeError sdk p code pageText false))
  | none =>
    match param params (narrow "nonce"), param params (narrow "data"), w.dappKeyPair,
      w.walletEncryptionPublicKey, w.connectedPublicKey with
    | some nonce, some data, some pair, some key, some publicKey => do
      match ← urnet.sharedSecretBase58 pair.privateKey key with
      | none => return .error (narrow "failed to derive shared secret")
      | some secret =>
        match ← urnet.tryDecrypt data nonce secret with
        | none => return .error (narrow "failed to decrypt wallet signature")
        | some text =>
          match sdk.member text (narrow "signature") with
          | .error what => return .error (narrow "bad signature response: " ++ what)
          | .ok signatureB58 =>
            -- inside the `try` of the response
            match urnet.decodeBase58 signatureB58 with
            | .error (.std what) => return .error (narrow "bad signature response: " ++ what)
            | .error .other => throw .other
            | .ok none => return .error (narrow "failed to decode wallet signature")
            | .ok (some signature) => return .signature publicKey (base64 signature) p
    | _, _, _, _, _ => .ok (.error (narrow "missing wallet signature parameters"))

/-- A Solana wallet's return, of the step that its host names. -/
def handleReturn (p : Provider) (url : Bytes) : WalletConnect × Except Thrown Report :=
  if isConnectHost (urlHost url) then handleConnect sdk urnet w p (urlQuery url)
  else (w, handleSignMessage sdk urnet base64 w p (urlQuery url))

/-- `HandleDeepLink`: the members as it leaves them, and what it reports if it returns. -/
def handleDeepLink (url : Bytes) : WalletConnect × Except Thrown (Option Report) :=
  let host := urlHost url
  if host = kOAuthReturnHost then (w, .ok (some (handleOAuthReturn url)))
  else
    match providerForHost host with
    | none => (w, .ok none)
    | some .bittensor => (w, .ok (some (.bittensor url)))
    | some p =>
      let handled := handleReturn sdk urnet base64 w p url
      (handled.1, handled.2.map some)

/-! ### A connect return -/

/-- A Solana wallet's connect return without an error, with the key pair it comes to. -/
structure ConnectReturn where
  provider : Provider
  key : Bytes
  nonce : Bytes
  data : Bytes
  pair : KeyPair

/-- The query is of a connect return. -/
def readReturn (p : Provider) (query : Bytes) : Option ConnectReturn := do
  let params := parseQueryString query
  guard (param params (narrow "errorCode") = none)
  let key ← param params (p.host ++ narrow "_encryption_public_key")
  let nonce ← param params (narrow "nonce")
  let data ← param params (narrow "data")
  let pair ← w.dappKeyPair
  return ⟨p, key, nonce, data, pair⟩

/-- The connect return that the link is. -/
def connectReturn (url : Bytes) : Option ConnectReturn :=
  match providerForHost (urlHost url) with
  | none | some .bittensor => none
  | some p => if isConnectHost (urlHost url) then readReturn w p (urlQuery url) else none

namespace ConnectReturn

variable (r : ConnectReturn)

/-- What it decrypts to under the key pair. -/
def opened : Option Bytes :=
  match urnet.sharedSecretBase58 r.pair.privateKey r.key with
  | .ok (some secret) => (urnet.tryDecrypt r.data r.nonce secret).toOption.join
  | _ => none

/-- The `public_key` that it opens to, if that is a text. -/
def publicKey : Option Bytes := do
  let text ← r.opened urnet
  (sdk.member text (narrow "public_key")).toOption

/-- The `public_key` and `session` that it opens to, if both are texts. -/
def said : Option (Bytes × Bytes) := do
  let text ← r.opened urnet
  let publicKey ← (sdk.member text (narrow "public_key")).toOption
  let session ← (sdk.member text (narrow "session")).toOption
  return (publicKey, session)

/-- The members that the return leaves. -/
def leaves : WalletConnect :=
  let w := { w with walletEncryptionPublicKey := some r.key }
  match r.publicKey sdk urnet with
  | none => w
  | some publicKey =>
    let w := { w with connectedPublicKey := some publicKey }
    match r.said sdk urnet with
    | none => w
    | some (_, session) => { w with session := some session, currentProvider := r.provider }

end ConnectReturn

variable {sdk urnet base64 w} {p : Provider} {query url : Bytes}

lemma handleConnect_fst : (handleConnect sdk urnet w p query).1 =
    match readReturn w p query with
    | none => w
    | some r => r.leaves sdk urnet w := by
  rcases w with ⟨dappKeyPair, connected, walletKey, current, provider, offers⟩
  rw [handleConnect, readReturn]
  cases param (parseQueryString query) (narrow "errorCode") with
  | some code => rfl
  | none =>
  cases param (parseQueryString query) (p.host ++ narrow "_encryption_public_key") with
  | none => rfl
  | some key =>
  cases param (parseQueryString query) (narrow "nonce") with
  | none => rfl
  | some nonce =>
  cases param (parseQueryString query) (narrow "data") with
  | none => rfl
  | some data =>
  cases dappKeyPair with
  | none => rfl
  | some pair =>
  simp only [Option.bind_eq_bind, Option.bind_some, guard_true, Option.pure_def,
    ConnectReturn.leaves, ConnectReturn.publicKey, ConnectReturn.said, ConnectReturn.opened]
  rcases urnet.sharedSecretBase58 pair.privateKey key with thrown | _ | secret
  · rfl
  · rfl
  dsimp only
  rcases urnet.tryDecrypt data nonce secret with thrown | _ | text
  · rfl
  · rfl
  dsimp only [Except.toOption, Option.join_some, Option.bind_some]
  cases sdk.member text (narrow "public_key") with
  | error what => rfl
  | ok publicKey =>
  dsimp only [Option.bind_some]
  cases sdk.member text (narrow "session") with
  | error what => rfl
  | ok session => rfl

lemma providerForHost_oauth : providerForHost kOAuthReturnHost = none := by decide

lemma handleDeepLink_fst : (handleDeepLink sdk urnet base64 w url).1 =
    match connectReturn w url with
    | none => w
    | some r => r.leaves sdk urnet w := by
  have hreturn : ∀ p, (handleReturn sdk urnet base64 w p url).1 =
      match if isConnectHost (urlHost url) then readReturn w p (urlQuery url) else none with
      | none => w
      | some r => r.leaves sdk urnet w := by
    intro p
    rw [handleReturn]
    split_ifs
    · exact handleConnect_fst
    · rfl
  rw [handleDeepLink, connectReturn]
  by_cases hhost : urlHost url = kOAuthReturnHost
  · rw [if_pos hhost, hhost, providerForHost_oauth]
  · rw [if_neg hhost]
    rcases providerForHost (urlHost url) with _ | _ | _ | _
    · rfl
    · exact hreturn .phantom
    · exact hreturn .solflare
    · rfl

/-! ### What a failure leaves -/

/-- The five members are the same. -/
structure Same (w w' : WalletConnect) : Prop where
  dappKeyPair : w'.dappKeyPair = w.dappKeyPair
  walletEncryptionPublicKey : w'.walletEncryptionPublicKey = w.walletEncryptionPublicKey
  connectedPublicKey : w'.connectedPublicKey = w.connectedPublicKey
  session : w'.session = w.session
  currentProvider : w'.currentProvider = w.currentProvider

/-- A connect return that opens to a public key and a session puts in just these, its key and its
provider, and any other link changes nothing. -/
def Kept (sdk : Sdk) (urnet : Urnet) (base64 : Bytes → Bytes) (w : WalletConnect) (url : Bytes) :
    Prop :=
  let w' := (handleDeepLink sdk urnet base64 w url).1
  (∀ r publicKey session, connectReturn w url = some r →
      r.said sdk urnet = some (publicKey, session) →
      Same { w with
        walletEncryptionPublicKey := some r.key
        connectedPublicKey := some publicKey
        session := some session
        currentProvider := r.provider } w') ∧
    ((∀ r, connectReturn w url = some r → r.said sdk urnet = none) → Same w w')

/-- The link is a connect return that fails, and its key, or a public key that it opens to
without a session, is not what the members have already. -/
def Marks (sdk : Sdk) (urnet : Urnet) (w : WalletConnect) (url : Bytes) : Prop :=
  ∃ r, connectReturn w url = some r ∧ r.said sdk urnet = none ∧
    (w.walletEncryptionPublicKey ≠ some r.key ∨
      ∃ publicKey, r.publicKey sdk urnet = some publicKey ∧ w.connectedPublicKey ≠ some publicKey)

lemma ConnectReturn.publicKey_of_said {r : ConnectReturn} {said : Bytes × Bytes}
    (h : r.said sdk urnet = some said) : r.publicKey sdk urnet = some said.1 := by
  rw [ConnectReturn.said] at h
  rw [ConnectReturn.publicKey]
  obtain ⟨text, htext, h⟩ := Option.bind_eq_some_iff.1 h
  obtain ⟨publicKey, hkey, h⟩ := Option.bind_eq_some_iff.1 h
  obtain ⟨session, -, h⟩ := Option.bind_eq_some_iff.1 h
  cases h
  rw [htext]
  exact hkey

/-- A failed return leaves the members as they were just where it has nothing new to put there. -/
lemma ConnectReturn.same_leaves_iff {r : ConnectReturn} (h : r.said sdk urnet = none) :
    Same w (r.leaves sdk urnet w) ↔ w.walletEncryptionPublicKey = some r.key ∧
      ∀ publicKey, r.publicKey sdk urnet = some publicKey →
        w.connectedPublicKey = some publicKey := by
  rw [ConnectReturn.leaves]
  cases r.publicKey sdk urnet with
  | none =>
    exact ⟨fun hsame => ⟨hsame.walletEncryptionPublicKey.symm, nofun⟩,
      fun hkey => ⟨rfl, hkey.1.symm, rfl, rfl, rfl⟩⟩
  | some publicKey =>
    rw [h]
    constructor
    · intro hsame
      refine ⟨hsame.walletEncryptionPublicKey.symm, ?_⟩
      rintro _ ⟨rfl⟩
      exact hsame.connectedPublicKey.symm
    · exact fun hkey => ⟨rfl, hkey.1.symm, (hkey.2 _ rfl).symm, rfl, rfl⟩

/-- A hand-back that fails changes nothing, and one that opens puts in what it says: just of the
links that mark nothing. -/
theorem hand_back_changes_nothing_iff (sdk : Sdk) (urnet : Urnet) (base64 : Bytes → Bytes)
    (w : WalletConnect) (url : Bytes) :
    Kept sdk urnet base64 w url ↔ ¬ Marks sdk urnet w url := by
  rw [Kept, handleDeepLink_fst]
  cases hreturn : connectReturn w url with
  | none =>
    refine iff_of_true ⟨nofun, fun _ => ⟨rfl, rfl, rfl, rfl, rfl⟩⟩ ?_
    rintro ⟨r, hr, -⟩
    exact absurd (hreturn.symm.trans hr) nofun
  | some r =>
    cases hsaid : r.said sdk urnet with
    | none =>
      constructor
      · rintro ⟨-, hkept⟩ ⟨r', hr, -, hnew⟩
        cases hreturn.symm.trans hr
        have hsame := hkept fun r' hr' => Option.some.inj hr' ▸ hsaid
        obtain ⟨hkey, hpublic⟩ := (r.same_leaves_iff hsaid).1 hsame
        rcases hnew with hnew | ⟨publicKey, hread, hnew⟩
        · exact hnew hkey
        · exact hnew (hpublic _ hread)
      · intro hmarks
        refine ⟨?_, fun _ => (r.same_leaves_iff hsaid).2 ⟨?_, fun publicKey hread => ?_⟩⟩
        · rintro _ publicKey session ⟨rfl⟩ hsaid'
          exact absurd (hsaid.symm.trans hsaid') nofun
        · exact not_not.1 fun hnew => hmarks ⟨r, hreturn, hsaid, .inl hnew⟩
        · exact not_not.1 fun hnew => hmarks ⟨r, hreturn, hsaid, .inr ⟨_, hread, hnew⟩⟩
    | some said =>
      refine iff_of_true ⟨?_, fun hall => absurd (hsaid.symm.trans (hall r rfl)) nofun⟩ ?_
      · rintro _ publicKey session ⟨rfl⟩ hsaid'
        have hkey := ConnectReturn.publicKey_of_said hsaid'
        dsimp only
        rw [ConnectReturn.leaves, hkey, hsaid']
        exact ⟨rfl, rfl, rfl, rfl, rfl⟩
      · rintro ⟨r', hr, hnone, -⟩
        cases hreturn.symm.trans hr
        exact absurd (hsaid.symm.trans hnone) nofun

/-- A library that takes any text for base 58 and decrypts nothing. -/
def closedUrnet : Urnet where
  decodeBase58 text := .ok (some text)
  encodeBase58 data := .ok data
  generateSharedSecret _ publicKey := .ok publicKey
  decryptData _ _ _ := .error (.std (narrow "decrypt"))

def closedSdk : Sdk where
  sharedSecret _ walletKey := some walletKey
  decryptData _ _ _ := none
  member _ _ := .error (narrow "parse")
  signature _ := none
  jwtClaimString _ _ := none
  oauthState token := token
  localized key := key
  format key _ := key
  displayName walletId := walletId

/-- A connected wallet. -/
def connectedWallet : WalletConnect where
  dappKeyPair := some ⟨narrow "2A", narrow "3B"⟩
  connectedPublicKey := some (narrow "4C")
  walletEncryptionPublicKey := some (narrow "5D")
  session := some (narrow "6E")

/-- A link that any program can fire. -/
def forgedLink : Bytes :=
  narrow "urnetwork://phantom-connect?" ++ narrow "phantom_encryption_public_key=7F" ++
    narrow "&nonce=1&data=1"

/-- The forged link fails, and the wallet's key is gone: its signature cannot be read any more. -/
theorem hand_back_changes_nothing_fails :
    ¬ Kept closedSdk closedUrnet id connectedWallet forgedLink := by
  rintro ⟨-, hkept⟩
  have hfails : ((connectReturn connectedWallet forgedLink).all fun r =>
      (r.said closedSdk closedUrnet).isNone) = true := by decide +kernel
  have hleft : (handleDeepLink closedSdk closedUrnet id connectedWallet
      forgedLink).1.walletEncryptionPublicKey = some (narrow "7F") := by decide +kernel
  have hsame := hkept fun r hr => by
    rw [hr, Option.all_some] at hfails
    exact Option.isNone_iff_eq_none.1 hfails
  exact absurd (hleft.symm.trans hsame.walletEncryptionPublicKey) (by decide)

/-! ### Where no exception leaves -/

/-- The base 58 decoder does not throw, and the other functions only what the handlers catch. -/
structure Urnet.Quiet (urnet : Urnet) : Prop where
  decodeBase58 : ∀ text, ∃ data, urnet.decodeBase58 text = .ok data
  encodeBase58 : ∀ data, urnet.encodeBase58 data ≠ .error .other
  generateSharedSecret : ∀ privateKey publicKey,
    urnet.generateSharedSecret privateKey publicKey ≠ .error .other
  decryptData : ∀ data nonce secret, urnet.decryptData data nonce secret ≠ .error .other

/-- What such a library answers. -/
def Urnet.answers (urnet : Urnet) (base64 : Bytes → Bytes) (sdk : Sdk) : Sdk :=
  { sdk with
    sharedSecret := fun privateKey walletKey =>
      (urnet.sharedSecretBase58 privateKey walletKey).toOption.join
    decryptData := fun data nonce secret => (urnet.decryptData data nonce secret).toOption
    signature := fun text => (urnet.decodeBase58 text).toOption.join.map base64 }

lemma caught_eq_ok {α : Type} {x : Except Thrown α} (h : x ≠ .error .other) :
    caught x = .ok x.toOption := by
  rcases x with (what | _) | a
  · rfl
  · exact absurd rfl h
  · rfl

namespace Urnet.Quiet

variable (h : urnet.Quiet)
include h

lemma tryDecrypt_eq (data nonce secret : Bytes) : urnet.tryDecrypt data nonce secret =
    .ok ((urnet.decryptData data nonce secret).toOption.filter (· ≠ [])) := by
  rw [Urnet.tryDecrypt, caught_eq_ok (h.decryptData data nonce secret)]
  rfl

lemma sharedSecretBase58_eq (privateKey walletKey : Bytes) :
    urnet.sharedSecretBase58 privateKey walletKey =
      .ok (urnet.sharedSecretBase58 privateKey walletKey).toOption.join := by
  obtain ⟨priv, hpriv⟩ := h.decodeBase58 privateKey
  obtain ⟨pub, hpub⟩ := h.decodeBase58 walletKey
  rw [Urnet.sharedSecretBase58, hpriv, hpub]
  rcases priv with _ | priv
  · rfl
  rcases pub with _ | pub
  · rfl
  dsimp only [bind, Except.bind]
  rw [caught_eq_ok]
  · rfl
  · rcases hshared : urnet.generateSharedSecret priv pub with (what | _) | shared
    · nofun
    · exact absurd hshared (h.generateSharedSecret priv pub)
    · dsimp only
      split_ifs
      · nofun
      · rcases htext : urnet.encodeBase58 shared with (what | _) | text
        · nofun
        · exact absurd htext (h.encodeBase58 shared)
        · nofun

lemma handleConnect_eq : handleConnect sdk urnet w p query =
    ((w.handleConnect (urnet.answers base64 sdk) p query).1,
      .ok (w.handleConnect (urnet.answers base64 sdk) p query).2) := by
  rcases w with ⟨dappKeyPair, connected, walletKey, current, provider, offers⟩
  rw [handleConnect, WalletConnect.handleConnect]
  cases param (parseQueryString query) (narrow "errorCode") with
  | some code => rfl
  | none =>
  cases param (parseQueryString query) (p.host ++ narrow "_encryption_public_key") with
  | none => rfl
  | some key =>
  cases param (parseQueryString query) (narrow "nonce") with
  | none => rfl
  | some nonce =>
  cases param (parseQueryString query) (narrow "data") with
  | none => rfl
  | some data =>
  cases dappKeyPair with
  | none => rfl
  | some pair =>
  simp only [WalletConnect.sharedSecretBase58, Option.bind_eq_bind, Option.bind_some]
  rw [h.sharedSecretBase58_eq, show (urnet.answers base64 sdk).sharedSecret pair.privateKey key =
    (urnet.sharedSecretBase58 pair.privateKey key).toOption.join from rfl]
  cases (urnet.sharedSecretBase58 pair.privateKey key).toOption.join with
  | none => rfl
  | some secret =>
  dsimp only
  rw [h.tryDecrypt_eq, show (urnet.answers base64 sdk).decryptData data nonce secret =
    (urnet.decryptData data nonce secret).toOption from rfl]
  cases (urnet.decryptData data nonce secret).toOption.filter (· ≠ []) with
  | none => rfl
  | some text =>
  dsimp only
  rw [show (urnet.answers base64 sdk).member = sdk.member from rfl]
  cases sdk.member text (narrow "public_key") with
  | error what => rfl
  | ok publicKey =>
  dsimp only
  cases sdk.member text (narrow "session") with
  | error what => rfl
  | ok session => rfl

lemma handleSignMessage_eq : handleSignMessage sdk urnet base64 w p query =
    .ok (w.handleSignMessage (urnet.answers base64 sdk) p query) := by
  rcases w with ⟨dappKeyPair, connected, walletKey, current, provider, offers⟩
  rw [handleSignMessage, WalletConnect.handleSignMessage]
  cases param (parseQueryString query) (narrow "errorCode") with
  | some code => rfl
  | none =>
  cases param (parseQueryString query) (narrow "nonce") with
  | none => rfl
  | some nonce =>
  cases param (parseQueryString query) (narrow "data") with
  | none => rfl
  | some data =>
  cases dappKeyPair with
  | none => rfl
  | some pair =>
  cases walletKey with
  | none => rfl
  | some key =>
  cases connected with
  | none => rfl
  | some publicKey =>
  simp only [WalletConnect.sharedSecretBase58, Option.bind_eq_bind, Option.bind_some]
  rw [h.sharedSecretBase58_eq, show (urnet.answers base64 sdk).sharedSecret pair.privateKey key =
    (urnet.sharedSecretBase58 pair.privateKey key).toOption.join from rfl]
  dsimp only [bind, Except.bind]
  cases (urnet.sharedSecretBase58 pair.privateKey key).toOption.join with
  | none => rfl
  | some secret =>
  dsimp only
  rw [h.tryDecrypt_eq, show (urnet.answers base64 sdk).decryptData data nonce secret =
    (urnet.decryptData data nonce secret).toOption from rfl]
  dsimp only
  cases (urnet.decryptData data nonce secret).toOption.filter (· ≠ []) with
  | none => rfl
  | some text =>
  dsimp only
  rw [show (urnet.answers base64 sdk).member = sdk.member from rfl]
  cases sdk.member text (narrow "signature") with
  | error what => rfl
  | ok signatureB58 =>
  obtain ⟨signature, hsignature⟩ := h.decodeBase58 signatureB58
  dsimp only [Urnet.answers]
  rw [hsignature]
  cases signature with
  | none => rfl
  | some signature => rfl

theorem handleDeepLink_eq : handleDeepLink sdk urnet base64 w url =
    ((w.handleDeepLink (urnet.answers base64 sdk) url).1,
      .ok (w.handleDeepLink (urnet.answers base64 sdk) url).2) := by
  have hreturn : ∀ p, handleReturn sdk urnet base64 w p url =
      ((w.handleReturn (urnet.answers base64 sdk) p url).1,
        .ok (w.handleReturn (urnet.answers base64 sdk) p url).2) := by
    intro p
    rw [handleReturn, WalletConnect.handleReturn]
    split_ifs
    · exact h.handleConnect_eq
    · rw [h.handleSignMessage_eq]
  rw [handleDeepLink, WalletConnect.handleDeepLink]
  dsimp only
  split_ifs
  · rfl
  · rcases providerForHost (urlHost url) with _ | _ | _ | _
    · rfl
    · dsimp only
      rw [hreturn .phantom]
      rfl
    · dsimp only
      rw [hreturn .solflare]
      rfl
    · rfl

end Urnet.Quiet

/-- A forged return, of a library whose decryption throws what the handlers catch. -/
theorem handleDeepLink_eq_forged :
    handleDeepLink closedSdk closedUrnet id connectedWallet forgedLink =
      ((connectedWallet.handleDeepLink (closedUrnet.answers id closedSdk) forgedLink).1,
        .ok (connectedWallet.handleDeepLink (closedUrnet.answers id closedSdk) forgedLink).2) := by
  have hquiet : closedUrnet.Quiet := by
    constructor
    · exact fun text => ⟨some text, rfl⟩
    · exact fun data h => by cases h
    · exact fun _ _ h => by cases h
    · exact fun _ _ _ h => by cases h
  exact hquiet.handleDeepLink_eq

end UrnetworkWindows.Browser.HandBack
