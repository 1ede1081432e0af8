/-
The browser bridge (`WalletConnect.cpp`, `UrlQuery.h`): what it reads in a link that any program
may have fired, and whom it tells.

A link that comes back from the browser carries no request id.  It is an answer of the api's
callbacks to a Google or Apple attempt (`IsReturn`), a wallet's answer that opens under the app's
key pair (`readConnect`, `readSignature`), a Bittensor hand-back that is passed on whole, or a
failure: what the bridge reports as an error (`Broken`).
-/
import UrnetworkWindows.Lib.Scan
import UrnetworkWindows.Lib.Text

namespace UrnetworkWindows.Browser

open Lib

/-- Narrow text, in bytes. -/
abbrev Bytes := List UInt8

/-! ### Links -/

/-- What follows the scheme of a url, or all of it where it has none. -/
def afterScheme (url : Bytes) : Bytes :=
  match findSuffix (fun rest => (narrow "://").isPrefixOf rest) url with
  | none => url
  | some scheme => url.drop (scheme + 3)

/-- What follows the first `?`. -/
def afterQuestion (text : Bytes) : Bytes := (text.dropWhile (· ≠ '?'.toUInt8)).drop 1

/-- The host of `SplitUrl`. -/
def urlHost (url : Bytes) : Bytes :=
  (afterScheme url).takeWhile fun c => c ≠ '?'.toUInt8 ∧ c ≠ '/'.toUInt8

/-- The query of `SplitUrl`. -/
def urlQuery (url : Bytes) : Bytes := afterQuestion (afterScheme url)

/-- `UrlPath`: between the host and the query, empty where there is none. -/
def urlPath (url : Bytes) : Bytes :=
  ((afterScheme url).takeWhile (· ≠ '?'.toUInt8)).dropWhile (· ≠ '/'.toUInt8)

def hexValue (c : UInt8) : Option UInt8 :=
  if '0'.toUInt8 ≤ c ∧ c ≤ '9'.toUInt8 then some (c - '0'.toUInt8)
  else if 'A'.toUInt8 ≤ c ∧ c ≤ 'F'.toUInt8 then some (c - 'A'.toUInt8 + 10)
  else if 'a'.toUInt8 ≤ c ∧ c ≤ 'f'.toUInt8 then some (c - 'a'.toUInt8 + 10)
  else none

/-- A `+` is a space. -/
def plusToSpace (c : UInt8) : UInt8 := if c = '+'.toUInt8 then ' '.toUInt8 else c

/-- `PercentDecode`: a malformed escape is kept as written. -/
def percentDecode : Bytes → Bytes
  | [] => []
  | [c] => [plusToSpace c]
  | [c, d] => [plusToSpace c, plusToSpace d]
  | c :: d :: e :: rest =>
    match if c = '%'.toUInt8 then hexValue d else none, hexValue e with
    | some hi, some lo => (hi <<< 4 ||| lo) :: percentDecode rest
    | _, _ => plusToSpace c :: percentDecode (d :: e :: rest)

/-- One pair of a query; one without `=` is skipped. -/
def readParam (pair : Bytes) : Option (Bytes × Bytes) :=
  if '='.toUInt8 ∈ pair then
    some (pair.takeWhile (· ≠ '='.toUInt8),
      percentDecode ((pair.dropWhile (· ≠ '='.toUInt8)).drop 1))
  else none

/-- `ParseQueryString`, in the order of the query. -/
def parseQueryString (query : Bytes) : List (Bytes × Bytes) :=
  (query.splitOn '&'.toUInt8).filterMap readParam

/-- The value under a key: a repeated key keeps its last one. -/
def param (params : List (Bytes × Bytes)) (key : Bytes) : Option Bytes := params.reverse.lookup key

/-- A parameter of an oauth callback. -/
def oauthParam (url key : Bytes) : Option Bytes :=
  param (parseQueryString (afterQuestion url)) key

/-! ### The bridge -/

inductive Provider
  | phantom
  | solflare
  | bittensor
deriving DecidableEq, Repr

/-- `WalletConnect::Host`. -/
def Provider.host : Provider → Bytes
  | .solflare => narrow "solflare"
  | .bittensor => narrow "bittensor"
  | .phantom => narrow "phantom"

/-- `WalletConnect::ProviderForHost`. -/
def providerForHost (host : Bytes) : Option Provider :=
  if host = narrow "phantom-connect" ∨ host = narrow "phantom-sign-message" then some .phantom
  else if host = narrow "solflare-connect" ∨ host = narrow "solflare-sign-message" then
    some .solflare
  else if host = narrow "bittensor-connect" ∨ host = narrow "bittensor-sign-message" then
    some .bittensor
  else none

/-- What the SDK and Windows do for the bridge and the host. -/
structure Sdk where
  /-- The shared secret of the app's private key and a wallet's key, in base 58. -/
  sharedSecret (privateKey walletKey : Bytes) : Option Bytes
  decryptData (data nonce secret : Bytes) : Option Bytes
  /-- A text member of a JSON text, or what was thrown. -/
  member (text key : Bytes) : Except Bytes Bytes
  /-- A signature in base 58, in base 64. -/
  signature (base58 : Bytes) : Option Bytes
  /-- `JwtClaimString`. -/
  jwtClaimString (jwt claim : Bytes) : Option Bytes
  /-- `WalletConnect::OAuthState`. -/
  oauthState (token : Bytes) : Bytes
  localized (key : Bytes) : Bytes
  format (key arg : Bytes) : Bytes
  /-- `bittensorWalletDisplayName`. -/
  displayName (walletId : Bytes) : Bytes

/-- What the app says for a code: the key of its text, and whether that takes the wallet's name. -/
structure BridgeErrorText where
  key : Bytes := []
  takesWalletName : Bool := false

/-- `solana::BridgeErrorTextFor`. -/
def bridgeErrorTextFor (code : Bytes) : BridgeErrorText :=
  if code = narrow "extension_not_found" then ⟨narrow "bittensor_error_extension_not_found", true⟩
  else if code = narrow "no_account" then ⟨narrow "bittensor_error_no_account", true⟩
  else if code = narrow "session_not_found" then
    ⟨narrow "solana_wallet_error_session_not_found", false⟩
  else if code = narrow "user_rejected" then ⟨narrow "bittensor_error_user_rejected", false⟩
  else {}

/-- `solana::PayoutBridgeErrorTextFor`. -/
def payoutBridgeErrorTextFor (code : Bytes) : BridgeErrorText :=
  if code = narrow "extension_not_found" then
    ⟨narrow "solana_wallet_error_extension_not_found", true⟩
  else bridgeErrorTextFor code

structure KeyPair where
  publicKey : Bytes
  privateKey : Bytes
deriving DecidableEq, Repr

/-- The members of `WalletConnect`. -/
structure WalletConnect where
  dappKeyPair : Option KeyPair := none
  connectedPublicKey : Option Bytes := none
  walletEncryptionPublicKey : Option Bytes := none
  session : Option Bytes := none
  currentProvider : Provider := .phantom
  connectOffersManualEntry : Bool := false
deriving DecidableEq, Repr

/-- What the bridge calls back: `on_error`, `on_public_key`, `on_signature`, `on_sso` and
`on_bittensor_return`. -/
inductive Report
  | error (err : Bytes)
  | publicKey (key : Bytes) (provider : Provider)
  | signature (key signature : Bytes) (provider : Provider)
  | sso (provider authJwt state err : Bytes)
  | bittensor (url : Bytes)
deriving DecidableEq, Repr

def kOAuthReturnHost : Bytes := narrow "oauth"

def kAppleReturnPath : Bytes := narrow "/apple"

def kGoogleReturnPath : Bytes := narrow "/google"

namespace WalletConnect

variable (sdk : Sdk) (w : WalletConnect)

/-- `SharedSecretBase58`. -/
def sharedSecretBase58 : Option Bytes := do
  let pair ← w.dappKeyPair
  let key ← w.walletEncryptionPublicKey
  sdk.sharedSecret pair.privateKey key

/-- `LocalizedBridgeError`. -/
def localizedBridgeError (p : Provider) (code pageText : Bytes) (offersManualEntry : Bool) :
    Bytes :=
  let text := if offersManualEntry then payoutBridgeErrorTextFor code else bridgeErrorTextFor code
  if text.key = [] then pageText
  else if text.takesWalletName then
    sdk.format text.key
      (sdk.localized (if p = .solflare then narrow "solflare" else narrow "phantom"))
  else sdk.localized text.key

/-- `HandleOAuthReturn`. -/
def handleOAuthReturn (url : Bytes) : Report :=
  let path := urlPath url
  if path ≠ kAppleReturnPath ∧ path ≠ kGoogleReturnPath then
    .error (narrow "unknown oauth callback")
  else
    let provider := if path = kAppleReturnPath then narrow "apple" else narrow "google"
    let state := (oauthParam url (narrow "state")).getD []
    let idToken := (oauthParam url (narrow "id_token")).getD []
    let error := (oauthParam url (narrow "error")).getD []
    .sso provider idToken state
      (if error = [] ∧ idToken = [] then narrow "sign-in returned no identity token" else error)

/-- `HandleConnect`. -/
def handleConnect (p : Provider) (query : Bytes) : WalletConnect × Report :=
  let params := parseQueryString query
  match param params (narrow "errorCode") with
  | some code =>
    let pageText := (param params (narrow "errorMessage")).getD (narrow "wallet connect error")
    (w, .error (localizedBridgeError sdk p code pageText w.connectOffersManualEntry))
  | none =>
    match param params (p.host ++ narrow "_encryption_public_key"),
      param params (narrow "nonce"), param params (narrow "data"), w.dappKeyPair with
    | some key, some nonce, some data, some _ =>
      let w := { w with walletEncryptionPublicKey := some key }
      match w.sharedSecretBase58 sdk with
      | none => (w, .error (narrow "failed to derive shared secret"))
      | some secret =>
        match (sdk.decryptData data nonce secret).filter (· ≠ []) with
        | none => (w, .error (narrow "failed to decrypt wallet connection"))
        | some text =>
          match sdk.member text (narrow "public_key") with
          | .error what => (w, .error (narrow "bad connect response: " ++ what))
          | .ok publicKey =>
            let w := { w with connectedPublicKey := some publicKey }
            match sdk.member text (narrow "session") with
            | .error what => (w, .error (narrow "bad connect response: " ++ what))
            | .ok session =>
              ({ w with
                session := some session
                currentProvider := p }, .publicKey publicKey p)
    | _, _, _, _ => (w, .error (narrow "missing wallet connect parameters"))

/-- `HandleSignMessage`. -/
def handleSignMessage (p : Provider) (query : Bytes) : Report :=
  let params := parseQueryString query
  match param params (narrow "errorCode") with
  | some code =>
    let pageText := (param params (narrow "errorMessage")).getD (narrow "wallet signing error")
    .error (localizedBridgeError sdk p code pageText false)
  | none =>
    match param params (narrow "nonce"), param params (narrow "data"), w.dappKeyPair,
      w.walletEncryptionPublicKey, w.connectedPublicKey with
    | some nonce, some data, some _, some _, some publicKey =>
      match w.sharedSecretBase58 sdk with
      | none => .error (narrow "failed to derive shared secret")
      | some secret =>
        match (sdk.decryptData data nonce secret).filter (· ≠ []) with
        | none => .error (narrow "failed to decrypt wallet signature")
        | some text =>
          match sdk.member text (narrow "signature") with
          | .error what => .error (narrow "bad signature response: " ++ what)
          | .ok signatureB58 =>
            match sdk.signature signatureB58 with
            | none => .error (narrow "failed to decode wallet signature")
            | some signature => .signature publicKey signature p
    | _, _, _, _, _ => .error (narrow "missing wallet signature parameters")

/-- The host is of a connect return. -/
def isConnectHost (host : Bytes) : Bool := decide (narrow "-connect" <:+: host)

/-- A Solana wallet's return, of the step that its host names. -/
def handleReturn (p : Provider) (url : Bytes) : WalletConnect × Report :=
  if isConnectHost (urlHost url) then w.handleConnect sdk p (urlQuery url)
  else (w, w.handleSignMessage sdk p (urlQuery url))

/-- `HandleDeepLink`: the bridge, and what it reports of a link of its own. -/
def handleDeepLink (url : Bytes) : WalletConnect × Option Report :=
  let host := urlHost url
  if host = kOAuthReturnHost then (w, some (handleOAuthReturn url))
  else
    match providerForHost host with
    | none => (w, none)
    | some .bittensor => (w, some (.bittensor url))
    | some p => ((w.handleReturn sdk p url).1, some (w.handleReturn sdk p url).2)

/-! ### What a link says -/

/-- A connect return opens under the app's key pair, and says this. -/
def readConnect (p : Provider) (query : Bytes) : Option (Bytes × Bytes) := do
  let params := parseQueryString query
  guard (param params (narrow "errorCode") = none)
  let key ← param params (p.host ++ narrow "_encryption_public_key")
  let nonce ← param params (narrow "nonce")
  let data ← param params (narrow "data")
  let pair ← w.dappKeyPair
  let secret ← sdk.sharedSecret pair.privateKey key
  let text ← (sdk.decryptData data nonce secret).filter (· ≠ [])
  let publicKey ← (sdk.member text (narrow "public_key")).toOption
  let session ← (sdk.member text (narrow "session")).toOption
  return (publicKey, session)

/-- A signature return opens under the app's key pair, and says this. -/
def readSignature (query : Bytes) : Option (Bytes × Bytes) := do
  let params := parseQueryString query
  guard (param params (narrow "errorCode") = none)
  let nonce ← param params (narrow "nonce")
  let data ← param params (narrow "data")
  let pair ← w.dappKeyPair
  let key ← w.walletEncryptionPublicKey
  let publicKey ← w.connectedPublicKey
  let secret ← sdk.sharedSecret pair.privateKey key
  let text ← (sdk.decryptData data nonce secret).filter (· ≠ [])
  let signatureB58 ← (sdk.member text (narrow "signature")).toOption
  let signature ← sdk.signature signatureB58
  return (publicKey, signature)

/-- A Solana wallet's return opens under the app's key pair. -/
def opensReturn (p : Provider) (url : Bytes) : Bool :=
  if isConnectHost (urlHost url) then (w.readConnect sdk p (urlQuery url)).isSome
  else (w.readSignature sdk (urlQuery url)).isSome

end WalletConnect

/-- The link is `urnetwork://oauth/<provider>` with this state. -/
def IsReturn (provider state url : Bytes) : Prop :=
  urlHost url = kOAuthReturnHost ∧ urlPath url = narrow "/" ++ provider ∧
    oauthParam url (narrow "state") = some state

instance (provider state url : Bytes) : Decidable (IsReturn provider state url) :=
  inferInstanceAs (Decidable (_ ∧ _ ∧ _))

/-- The link is a failure: an oauth callback of neither provider, or the return of a Solana wallet
that carries an error or does not open under the app's key pair. -/
def broken (sdk : Sdk) (w : WalletConnect) (url : Bytes) : Bool :=
  if urlHost url = kOAuthReturnHost then
    decide (urlPath url ≠ kAppleReturnPath ∧ urlPath url ≠ kGoogleReturnPath)
  else
    match providerForHost (urlHost url) with
    | none | some .bittensor => false
    | some p => !w.opensReturn sdk p url

/-! ### What the bridge reports -/

namespace WalletConnect

variable {sdk : Sdk} {w : WalletConnect} {p : Provider} {query url : Bytes}

lemma handleConnect_cases (sdk : Sdk) (w : WalletConnect) (p : Provider) (query : Bytes) :
    (∃ said, w.readConnect sdk p query = some said ∧
        (w.handleConnect sdk p query).2 = .publicKey said.1 p) ∨
      w.readConnect sdk p query = none ∧ ∃ err, (w.handleConnect sdk p query).2 = .error err := by
  unfold readConnect handleConnect sharedSecretBase58
  dsimp only
  cases param (parseQueryString query) (narrow "errorCode") with
  | some code => exact .inr ⟨rfl, _, rfl⟩
  | none =>
  cases param (parseQueryString query) (p.host ++ narrow "_encryption_public_key") with
  | none => exact .inr ⟨rfl, _, rfl⟩
  | some key =>
  cases param (parseQueryString query) (narrow "nonce") with
  | none => exact .inr ⟨rfl, _, rfl⟩
  | some nonce =>
  cases param (parseQueryString query) (narrow "data") with
  | none => exact .inr ⟨rfl, _, rfl⟩
  | some data =>
  cases w.dappKeyPair with
  | none => exact .inr ⟨rfl, _, rfl⟩
  | some pair =>
  simp only [Option.bind_eq_bind, Option.bind_some, guard_true]
  cases sdk.sharedSecret pair.privateKey key with
  | none => exact .inr ⟨rfl, _, rfl⟩
  | some secret =>
  dsimp only [Option.bind_some]
  cases (sdk.decryptData data nonce secret).filter (· ≠ []) with
  | none => exact .inr ⟨rfl, _, rfl⟩
  | some text =>
  dsimp only [Option.bind_some]
  cases sdk.member text (narrow "public_key") with
  | error what => exact .inr ⟨rfl, _, rfl⟩
  | ok publicKey =>
  dsimp only [Except.toOption, Option.bind_some]
  cases sdk.member text (narrow "session") with
  | error what => exact .inr ⟨rfl, _, rfl⟩
  | ok session => exact .inl ⟨_, rfl, rfl⟩

lemma handleSignMessage_cases (sdk : Sdk) (w : WalletConnect) (p : Provider) (query : Bytes) :
    (∃ said, w.readSignature sdk query = some said ∧
        w.handleSignMessage sdk p query = .signature said.1 said.2 p) ∨
      w.readSignature sdk query = none ∧ ∃ err, w.handleSignMessage sdk p query = .error err := by
  unfold readSignature handleSignMessage sharedSecretBase58
  dsimp only
  cases param (parseQueryString query) (narrow "errorCode") with
  | some code => exact .inr ⟨rfl, _, rfl⟩
  | none =>
  cases param (parseQueryString query) (narrow "nonce") with
  | none => exact .inr ⟨rfl, _, rfl⟩
  | some nonce =>
  cases param (parseQueryString query) (narrow "data") with
  | none => exact .inr ⟨rfl, _, rfl⟩
  | some data =>
  cases w.dappKeyPair with
  | none => exact .inr ⟨rfl, _, rfl⟩
  | some pair =>
  cases w.walletEncryptionPublicKey with
  | none => exact .inr ⟨rfl, _, rfl⟩
  | some key =>
  cases w.connectedPublicKey with
  | none => exact .inr ⟨rfl, _, rfl⟩
  | some publicKey =>
  simp only [Option.bind_eq_bind, Option.bind_some, guard_true]
  cases sdk.sharedSecret pair.privateKey key with
  | none => exact .inr ⟨rfl, _, rfl⟩
  | some secret =>
  dsimp only [Option.bind_some]
  cases (sdk.decryptData data nonce secret).filter (· ≠ []) with
  | none => exact .inr ⟨rfl, _, rfl⟩
  | some text =>
  dsimp only [Option.bind_some]
  cases sdk.member text (narrow "signature") with
  | error what => exact .inr ⟨rfl, _, rfl⟩
  | ok signatureB58 =>
  dsimp only [Except.toOption, Option.bind_some]
  cases sdk.signature signatureB58 with
  | none => exact .inr ⟨rfl, _, rfl⟩
  | some signature => exact .inl ⟨_, rfl, rfl⟩

lemma handleOAuthReturn_error_iff {url : Bytes} :
    (∃ err, handleOAuthReturn url = .error err) ↔
      urlPath url ≠ kAppleReturnPath ∧ urlPath url ≠ kGoogleReturnPath := by
  rw [handleOAuthReturn]
  split_ifs with hpath
  · exact ⟨fun _ => hpath, fun _ => ⟨_, rfl⟩⟩
  · exact ⟨fun ⟨_, h⟩ => absurd h nofun, fun h => absurd h hpath⟩

lemma handleOAuthReturn_sso {provider authJwt state err : Bytes}
    (h : handleOAuthReturn url = .sso provider authJwt state err) :
    urlPath url = narrow "/" ++ provider ∧ state = (oauthParam url (narrow "state")).getD [] ∧
      authJwt = (oauthParam url (narrow "id_token")).getD [] := by
  rw [handleOAuthReturn] at h
  split at h
  · cases h
  · next hpath =>
    obtain ⟨rfl, rfl, rfl, -⟩ := Report.sso.inj h
    refine ⟨?_, rfl, rfl⟩
    by_cases happle : urlPath url = kAppleReturnPath
    · rw [if_pos happle, happle]
      rfl
    · rw [if_neg happle, not_not.1 fun hgoogle => hpath ⟨happle, hgoogle⟩]
      rfl

/-- A Solana wallet's return is an error where it does not open, and never an answer to an
attempt. -/
lemma handleReturn_cases (sdk : Sdk) (w : WalletConnect) (p : Provider) (url : Bytes) :
    ((∃ err, (w.handleReturn sdk p url).2 = .error err) ↔ w.opensReturn sdk p url = false) ∧
      ∀ provider authJwt state err,
        (w.handleReturn sdk p url).2 ≠ .sso provider authJwt state err := by
  rw [handleReturn, opensReturn]
  split_ifs
  · rcases handleConnect_cases sdk w p (urlQuery url) with ⟨said, hread, heq⟩ | ⟨hread, err, heq⟩
    · simp [hread, heq]
    · simp [hread, heq]
  · rcases handleSignMessage_cases sdk w p (urlQuery url) with
      ⟨said, hread, heq⟩ | ⟨hread, err, heq⟩
    · simp [hread, heq]
    · simp [hread, heq]

/-- What is reported of a link that is no oauth callback: no answer to an attempt, and an error
where the link is a failure. -/
lemma reports_of_not_oauth (sdk : Sdk) (w : WalletConnect)
    (hhost : urlHost url ≠ kOAuthReturnHost) :
    ((∃ err, (w.handleDeepLink sdk url).2 = some (.error err)) ↔ broken sdk w url = true) ∧
      ∀ provider authJwt state err,
        (w.handleDeepLink sdk url).2 ≠ some (.sso provider authJwt state err) := by
  rw [handleDeepLink, broken, if_neg hhost, if_neg hhost]
  cases providerForHost (urlHost url) with
  | none => simp
  | some p =>
    cases p with
    | bittensor => simp
    | phantom => simpa using handleReturn_cases sdk w .phantom url
    | solflare => simpa using handleReturn_cases sdk w .solflare url

theorem reports_error_iff :
    (∃ err, (w.handleDeepLink sdk url).2 = some (.error err)) ↔ broken sdk w url = true := by
  by_cases hhost : urlHost url = kOAuthReturnHost
  · rw [handleDeepLink, broken, if_pos hhost, if_pos hhost, decide_eq_true_eq,
      ← handleOAuthReturn_error_iff]
    simp only [Option.some.injEq]
  · exact (reports_of_not_oauth sdk w hhost).1

/-- An answer to an attempt is reported under the provider of its path, with its parameters. -/
theorem isReturn_of_reports {provider authJwt state err : Bytes}
    (h : (w.handleDeepLink sdk url).2 = some (.sso provider authJwt state err)) (hne : state ≠ []) :
    IsReturn provider state url ∧ authJwt = (oauthParam url (narrow "id_token")).getD [] := by
  by_cases hhost : urlHost url = kOAuthReturnHost
  · rw [handleDeepLink, if_pos hhost] at h
    obtain ⟨hpath, hstate, hjwt⟩ := handleOAuthReturn_sso (Option.some.inj h)
    refine ⟨⟨hhost, hpath, ?_⟩, hjwt⟩
    cases hparam : oauthParam url (narrow "state") with
    | none => exact absurd (hstate.trans (by rw [hparam]; rfl)) hne
    | some state' => rw [hstate, hparam, Option.getD_some]
  · exact absurd h ((reports_of_not_oauth sdk w hhost).2 _ _ _ _)

end WalletConnect

end UrnetworkWindows.Browser
