/-
The browser flows of the host (`SdkHost.cpp`, `WalletBridgeRoute.h`, `AddSignIn.h`).

Every flow shares one bridge: a slot for the callback of each kind of flow, the Google or Apple
attempt, a number for the flow that started last and one for the proof.  Starting a flow answers
and empties the slots (`cancelPendingWalletFlows`).  A flow start, a link, an answer of the api and
a sign-out are one step each.  A request is the callback that its caller handed over, and the log
has what the host did in order: what it answered, opened and sent.
-/
import UrnetworkWindows.Browser.Bridge
import UrnetworkWindows.SignOut.Run

namespace UrnetworkWindows.Browser

open Lib
open SignOut (SignOutRun)

/-! ### Requests and what is told them -/

inductive AuthState
  | loggedOut
  | authenticating
  | loggedIn
  | error
deriving DecidableEq, Repr

structure AuthResult where
  ok : Bool := false
  verificationRequired : Bool := false
  error : Bytes := []
  walletNeedsNetwork : Bool := false
  authNeedsNetwork : Bool := false
deriving DecidableEq, Repr

/-- What a callback is called with. -/
inductive Reply
  /-- A sign-in's, or a network creation's. -/
  | auth (result : AuthResult)
  /-- `ConnectSolanaWallet`'s. -/
  | connected (ok : Bool) (publicKey error : Bytes)
  /-- `SignWithSolanaWallet`'s. -/
  | signed (ok : Bool) (publicKey signature error : Bytes)
  /-- `SsoTokenForAdd`'s. -/
  | token (authJwt error : Bytes)
  /-- `SignSolanaForAdd`'s and `SignBittensorForAdd`'s. -/
  | added (address signature message error : Bytes)
  /-- `SignWithBittensorWallet`'s. -/
  | proved (ok : Bool) (address signature message error : Bytes)
  /-- `SignNetworkConsent`'s. -/
  | consented (ok : Bool) (address signature message code error : Bytes)
deriving DecidableEq, Repr

def Reply.error : Reply → Bytes
  | .auth result => result.error
  | .connected _ _ error => error
  | .signed _ _ _ error => error
  | .token _ error => error
  | .added _ _ _ error => error
  | .proved _ _ _ _ error => error
  | .consented _ _ _ _ _ error => error

/-- A sign-in that failed. -/
def failed (error : Bytes) : Reply := .auth { error }

/-- `WalletAuthArgs`. -/
structure WalletAuth where
  address : Bytes
  signature : Bytes
  message : Bytes
  blockchain : Bytes
deriving DecidableEq, Repr

inductive Browsed
  | connect (provider : Provider)
  | signMessage (provider : Provider)
  | bittensor (url : Bytes)
  | oauth (provider state nonce : Bytes)
deriving DecidableEq, Repr

/-- Something the host did: a callback it called, a page it opened, or what it sent to `authLogin`
and `networkCreate`. -/
inductive Event
  | answer (req : ℕ) (reply : Reply)
  | opens (page : Browsed)
  | walletLogin (auth : WalletAuth)
  | ssoLogin (provider idToken : Bytes)
  | networkCreate (auth : WalletAuth)
deriving DecidableEq, Repr

/-! ### What waits -/

/-- A callback in a slot, with the flow that put it there, which the closures of a proof carry. -/
structure Waiting (α : Type) where
  done : α
  flow : ℕ
deriving DecidableEq, Repr

/-- What `walletSignDone_` goes on with: the answer to a request, or a network creation. -/
inductive SignDone
  | answer (req : ℕ)
  | added (req : ℕ) (message : Bytes)
  | create (req : ℕ) (epoch : ℕ) (identity : WalletAuth) (message : Bytes)
deriving DecidableEq, Repr

/-- What `bittensorDone_` goes on with. -/
inductive ProofDone
  | signIn (epoch : ℕ)
  | create (req : ℕ) (epoch : ℕ) (identity : WalletAuth)
  | added (req : ℕ)
  | answer (req : ℕ)
  | consent (req : ℕ)
deriving DecidableEq, Repr

structure Proof where
  address : Bytes
  signature : Bytes
  message : Bytes
deriving DecidableEq, Repr

/-- `BittensorProofOutcome`. -/
inductive Outcome
  | proved (proof : Proof)
  | refused (error code : Bytes)
deriving DecidableEq, Repr

inductive SsoPurpose
  | signIn
  | add
deriving DecidableEq, Repr

inductive SsoReturnRoute
  | authLogin
  | addAuth
deriving DecidableEq, Repr

/-- `RouteSsoReturn`. -/
def routeSsoReturn : SsoPurpose → SsoReturnRoute
  | .add => .addAuth
  | .signIn => .authLogin

structure SsoAttempt where
  provider : Bytes
  state : Bytes
  nonce : Bytes
  purpose : SsoPurpose
deriving DecidableEq, Repr

/-- A call to the api that has not been answered, and the flow in which it was made. -/
inductive Call
  /-- The challenge of a wallet sign-in. -/
  | walletChallenge (flow : ℕ)
  | addChallenge (flow req : ℕ) (provider : Provider)
  | createChallenge (flow req epoch : ℕ) (identity : WalletAuth)
  | proofChallenge (flow serial : ℕ)
  | walletLogin (flow epoch : ℕ) (auth : WalletAuth)
  | ssoLogin (flow : ℕ) (req : Option ℕ) (epoch : ℕ) (provider idToken : Bytes)
  | networkCreate (flow req epoch : ℕ)
  | register (flow : ℕ) (req : Option ℕ) (epoch : ℕ)
deriving DecidableEq, Repr

def Call.flow : Call → ℕ
  | .walletChallenge flow => flow
  | .addChallenge flow _ _ => flow
  | .createChallenge flow _ _ _ => flow
  | .proofChallenge flow _ => flow
  | .walletLogin flow _ _ => flow
  | .ssoLogin flow _ _ _ _ => flow
  | .networkCreate flow _ _ => flow
  | .register flow _ _ => flow

/-- The request whose callback goes with the call. -/
def Call.req : Call → Option ℕ
  | .walletChallenge _ => none
  | .addChallenge _ req _ => some req
  | .createChallenge _ req _ _ => some req
  | .proofChallenge _ _ => none
  | .walletLogin _ _ _ => none
  | .ssoLogin _ req _ _ _ => req
  | .networkCreate _ req _ => some req
  | .register _ req _ => req

/-- `DeferredSignIn`, and the flow that signed in. -/
structure DeferredSignIn where
  byJwt : Bytes
  req : Option ℕ
  epoch : ℕ
  flow : ℕ
deriving DecidableEq, Repr

/-- An answer of the api: the error of the call, or a result with an error of its own, the text or
credential that was asked for, and whether a code must be verified. -/
structure Answer where
  err : Option Bytes := none
  result : Bool := true
  error : Bytes := []
  value : Option Bytes := none
  verificationRequired : Bool := false
deriving DecidableEq, Repr

/-- `BittensorWalletResult`. -/
structure BittensorWalletResult where
  proof : Option Proof := none
  errorCode : Bytes := []
  errorMessage : Bytes := []
  bridgeErrorCode : Bytes := []
deriving DecidableEq, Repr

/-- What a step meets outside the host. -/
structure Env where
  /-- `generateWalletKeyPair`. -/
  keyPair : Option KeyPair := some ⟨[], []⟩
  /-- `generateNonce`, for the state of an attempt and for its nonce. -/
  token : Bytes := []
  nonce : Bytes := []
  /-- The browser opens. -/
  opened : Bool := true
  /-- `encryptData` answers something. -/
  encrypted : Bool := true
  /-- `newBittensorWalletSession` does not throw. -/
  session : Bool := true
  challengeArgs : Bool := true
  /-- What `setChallenge` or `setNetworkConsentChallenge` throws. -/
  thrown : Option Bytes := none
  transport : Bytes := narrow "browser_bridge"
  bridgeUrl : Option Bytes := some []
  /-- `handleBridgeReturn`. -/
  returned : Option BittensorWalletResult := none
  /-- `api_` is there. -/
  api : Bool := true
  /-- The device credentials are stored. -/
  stored : Bool := true
  spaceManager : Bool := true
  /-- The network space is switched, and the new one is signed in or not. -/
  switched : Option Bool := some false
deriving Repr

/-- The members of `SdkHost` that the flows use, the calls to the api, and the log. -/
structure SdkHost where
  wallet : WalletConnect := {}
  ssoAttempt : Option SsoAttempt := none
  walletAuthDone : Option (Waiting ℕ) := none
  walletAuthEpoch : ℕ := 0
  walletAuthMessage : Bytes := []
  walletSignDone : Option (Waiting SignDone) := none
  walletSignMessage : Bytes := []
  walletConnectDone : Option (Waiting ℕ) := none
  ssoAddDone : Option (Waiting ℕ) := none
  bittensorDone : Option (Waiting ProofDone) := none
  bittensorSession : Option Bytes := none
  bittensorSerial : ℕ := 0
  pendingBittensorWalletId : Bytes := []
  /-- `walletFlows_`. -/
  flows : ℕ := 0
  /-- `signOutRun_`. -/
  run : SignOutRun DeferredSignIn := {}
  authState : AuthState := .loggedOut
  pendingWalletAuth : Option WalletAuth := none
  pendingWalletEpoch : ℕ := 0
  pendingAuthJwt : Option (Bytes × Bytes) := none
  pendingAuthEpoch : ℕ := 0
  calls : List Call := []
  requests : ℕ := 0
  log : List Event := []
deriving DecidableEq, Repr

namespace SdkHost

variable (sdk : Sdk) (env : Env) (s : SdkHost)

/-! ### Single actions -/

def did (event : Event) : SdkHost := { s with log := s.log ++ [event] }

def answer (req : ℕ) (reply : Reply) : SdkHost := s.did (.answer req reply)

/-- `if (done) done(r)`. -/
def tell (req : Option ℕ) (reply : Reply) : SdkHost :=
  match req with
  | none => s
  | some req => s.answer req reply

def call (call : Call) : SdkHost := { s with calls := s.calls ++ [call] }

def setAuthState (a : AuthState) : SdkHost := { s with authState := a }

/-- `SetRegistrationAuthState`. -/
def setRegistrationAuthState (epoch : ℕ) (a : AuthState) : SdkHost :=
  if s.run.applyIfCurrent epoch then s.setAuthState a else s

/-- `ContinueAuthAttempt`, where the epoch has moved. -/
def endAuthAttempt (req : Option ℕ) : SdkHost :=
  s.tell req (failed (narrow "signed out while this sign-in was pending"))

/-! ### Signing in -/

/-- `AuthLoginWithWallet`. -/
def authLoginWithWallet (address signature message : Bytes) (provider : Provider) (epoch : ℕ) :
    SdkHost :=
  if epoch ≠ s.run.epoch then s
  else
    let w : WalletAuth := ⟨address, signature, message,
      if provider = .bittensor then narrow "TAO" else narrow "SOL"⟩
    (s.did (.walletLogin w)).call (.walletLogin s.flows epoch w)

/-- `AuthLoginWithSso`. -/
def authLoginWithSso (provider idToken : Bytes) (req : Option ℕ) (epoch : ℕ) : SdkHost :=
  if epoch ≠ s.run.epoch then s.endAuthAttempt req
  else if !env.api then
    (s.setRegistrationAuthState epoch .error).tell req
      (failed (narrow "the network session went away during sign-in"))
  else (s.did (.ssoLogin provider idToken)).call (.ssoLogin s.flows req epoch provider idToken)

/-- `SubmitCreateNetwork`, with a wallet's signature. -/
def submitCreateNetwork (auth : WalletAuth) (req epoch : ℕ) : SdkHost :=
  if epoch ≠ s.run.epoch then s.endAuthAttempt (some req)
  else (s.did (.networkCreate auth)).call (.networkCreate s.flows req epoch)

/-- `RegisterNetworkClient`, of a sign-in of this flow. -/
def registerNetworkClient (byJwt : Bytes) (req : Option ℕ) (epoch flow : ℕ) : SdkHost :=
  let deferred := s.run.defer ⟨byJwt, req, epoch, flow⟩ epoch
  if deferred.1 then
    let s := { s with run := deferred.2.2 }
    match deferred.2.1 with
    | none => s
    | some replaced => s.tell replaced.req (failed (narrow "a newer sign-in replaced this one"))
  else if epoch ≠ s.run.epoch then
    s.tell req (failed (narrow "signed out while this sign-in registered"))
  else s.call (.register flow req epoch)

/-! ### The callbacks of a request -/

/-- `walletSignDone_`, called. -/
def runSignDone (done : SignDone) (ok : Bool) (publicKey signature error : Bytes) : SdkHost :=
  match done with
  | .answer req => s.answer req (.signed ok publicKey signature error)
  | .added req message =>
    if ok then s.answer req (.added publicKey signature message [])
    else s.answer req (.added [] [] [] error)
  | .create req epoch identity message =>
    if !ok then
      (s.setRegistrationAuthState epoch .loggedOut).answer req
        (failed (if error = [] then narrow "wallet signing failed" else error))
    else if publicKey ≠ identity.address then
      (s.setRegistrationAuthState epoch .loggedOut).answer req
        (failed (narrow "wallet account changed; use the same account to create the network"))
    else
      s.submitCreateNetwork ⟨publicKey, signature, message, identity.blockchain⟩ req epoch

/-- `bittensorDone_`, called. -/
def runProofDone (w : Waiting ProofDone) (outcome : Outcome) : SdkHost :=
  match w.done, outcome with
  | .signIn epoch, .refused error _ =>
    if w.flow ≠ s.flows ∨ epoch ≠ s.run.epoch then s
    else
      match s.walletAuthDone with
      | none => s
      | some auth =>
        ({ s with walletAuthDone := none }.setRegistrationAuthState epoch .error).answer auth.done
          (failed error)
  | .signIn epoch, .proved proof =>
    if w.flow ≠ s.flows ∨ epoch ≠ s.run.epoch then s
    else s.authLoginWithWallet proof.address proof.signature proof.message .bittensor epoch
  | .create req epoch _, .refused error _ =>
    if w.flow ≠ s.flows then s.answer req (failed error)
    else (s.setRegistrationAuthState epoch .loggedOut).answer req (failed error)
  | .create req epoch identity, .proved proof =>
    s.submitCreateNetwork ⟨proof.address, proof.signature, proof.message, identity.blockchain⟩
      req epoch
  | .added req, .refused error _ => s.answer req (.added [] [] [] error)
  | .added req, .proved proof =>
    s.answer req (.added proof.address proof.signature proof.message [])
  | .answer req, .refused error _ => s.answer req (.proved false [] [] [] error)
  | .answer req, .proved proof =>
    s.answer req (.proved true proof.address proof.signature proof.message [])
  | .consent req, .refused error code => s.answer req (.consented false [] [] [] code error)
  | .consent req, .proved proof =>
    s.answer req (.consented true proof.address proof.signature proof.message [] [])

/-- `FinishBittensorProof`. -/
def finishBittensorProof (serial : ℕ) (outcome : Outcome) : SdkHost :=
  if serial ≠ s.bittensorSerial then s
  else
    let s' := { s with
      bittensorDone := none
      bittensorSession := none }
    match s.bittensorDone with
    | none => s'
    | some done => s'.runProofDone done outcome

/-- `on_error`. -/
def onError (err : Bytes) : SdkHost :=
  if s.bittensorDone.isSome then s.finishBittensorProof s.bittensorSerial (.refused err [])
  else
    match s.walletConnectDone with
    | some connect =>
        { s with walletConnectDone := none }.answer connect.done (.connected false [] err)
    | none =>
      match s.walletSignDone with
      | some sign => { s with walletSignDone := none }.runSignDone sign.done false [] [] err
      | none =>
        match s.ssoAddDone with
        | some add =>
          { s with
            ssoAddDone := none
            ssoAttempt := none }.answer add.done (.token [] err)
        | none =>
          match s.walletAuthDone with
          | none => s
          | some auth =>
            ({ s with walletAuthDone := none }.setAuthState .error).answer auth.done (failed err)

/-! ### The bridge -/

/-- `OpenUrl`. -/
def openUrl (page : Browsed) : SdkHost :=
  if env.opened then s.did (.opens page) else s.onError (narrow "failed to open browser")

/-- `WalletConnect::Connect`. -/
def connect (p : Provider) (offersManualEntry : Bool) : SdkHost :=
  let s := { s with wallet := ⟨env.keyPair, none, none, none, p, offersManualEntry⟩ }
  if env.keyPair = none then s.onError (narrow "failed to generate wallet keypair")
  else s.openUrl env (.connect p)

/-- `WalletConnect::SignMessage`. -/
def signMessage : SdkHost :=
  if s.wallet.dappKeyPair = none ∨ s.wallet.session = none ∨
      s.wallet.walletEncryptionPublicKey = none then
    s.onError (narrow "wallet not connected")
  else if s.wallet.sharedSecretBase58 sdk = none then
    s.onError (narrow "failed to derive shared secret")
  else if !env.encrypted then s.onError (narrow "failed to encrypt sign-message payload")
  else s.openUrl env (.signMessage s.wallet.currentProvider)

/-- `WalletConnect::OpenBittensorBridge`. -/
def openBittensorBridge (url : Bytes) : SdkHost :=
  { s with wallet := { s.wallet with
      connectedPublicKey := none
      walletEncryptionPublicKey := none
      session := none
      currentProvider := .bittensor } }.openUrl env (.bittensor url)

/-- `OpenSsoAttempt`: the api's url is a constant of the build. -/
def openSsoAttempt (provider : Bytes) (purpose : SsoPurpose) : SdkHost :=
  let attempt : SsoAttempt := ⟨provider, sdk.oauthState env.token, env.nonce, purpose⟩
  { s with ssoAttempt := some attempt }.openUrl env (.oauth provider attempt.state attempt.nonce)

/-! ### Starting a flow -/

/-- The callbacks of the slots, told in the order of the host. -/
def cancelProof (reason : Bytes) : SdkHost :=
  let s' := { s with
    bittensorDone := none
    bittensorSession := none
    bittensorSerial := s.bittensorSerial + 1 }
  match s.bittensorDone with
  | none => s'
  | some done => s'.runProofDone done (.refused reason [])

def cancelConnect (reason : Bytes) : SdkHost :=
  match s.walletConnectDone with
  | none => s
  | some connect =>
      { s with walletConnectDone := none }.answer connect.done (.connected false [] reason)

def cancelSign (reason : Bytes) : SdkHost :=
  match s.walletSignDone with
  | none => s
  | some sign => { s with walletSignDone := none }.runSignDone sign.done false [] [] reason

def cancelAdd (reason : Bytes) : SdkHost :=
  match s.ssoAddDone with
  | none => s
  | some add => { s with ssoAddDone := none }.answer add.done (.token [] reason)

def cancelAuth (reason : Bytes) : SdkHost :=
  match s.walletAuthDone with
  | none => s
  | some auth => { s with walletAuthDone := none }.answer auth.done (failed reason)

/-- `CancelPendingWalletFlows`; the new flow is `flows` of the state after it. -/
def cancelPendingWalletFlows (reason : Bytes) : SdkHost :=
  let s := { s with
    flows := s.flows + 1
    ssoAttempt := none }
  ((((s.cancelProof reason).cancelConnect reason).cancelSign reason).cancelAdd reason).cancelAuth
    reason

/-- A new request, whose callback the caller hands over. -/
def request : SdkHost := { s with requests := s.requests + 1 }

/-! ### Bittensor proofs -/

def kWalletConnectFailed : Bytes := narrow "wallet_connect_failed"

/-- `bittensor::ErrorKey`, with the key of what has no words of its own. -/
def errorKey (errorCode fallbackKey : Bytes) : Bytes :=
  if errorCode = narrow "invalid_signature" then narrow "bittensor_error_invalid_signature"
  else if errorCode = narrow "challenge_expired" then narrow "bittensor_error_challenge_expired"
  else if errorCode = narrow "message_mismatch" then narrow "bittensor_error_message_mismatch"
  else if errorCode = narrow "address_mismatch" then narrow "earnings_wallet_mismatch"
  else if errorCode = narrow "invalid_ss58_address" then narrow "invalid_ss58_address"
  else if errorCode = narrow "wallet_error" then []
  else fallbackKey

/-- `bittensor::BridgeErrorTextFor`. -/
def bittensorBridgeErrorTextFor (code : Bytes) : BridgeErrorText :=
  if code = narrow "address_not_in_wallet" then
    ⟨narrow "bittensor_error_address_not_in_wallet", true⟩
  else if code = narrow "address_mismatch" then ⟨narrow "earnings_wallet_mismatch", false⟩
  else if code = narrow "extension_not_found" then
    ⟨narrow "bittensor_error_extension_not_found", true⟩
  else if code = narrow "no_account" then ⟨narrow "bittensor_error_no_account", true⟩
  else if code = narrow "extension_not_authorized" then
    ⟨narrow "bittensor_error_extension_not_authorized", true⟩
  else if code = narrow "user_rejected" then ⟨narrow "bittensor_error_user_rejected", false⟩
  else if code = narrow "walletconnect_expired" then
    ⟨narrow "bittensor_error_walletconnect_expired", false⟩
  else if code = narrow "walletconnect_unavailable" then
    ⟨narrow "bittensor_error_walletconnect_unavailable", false⟩
  else {}

/-- `BittensorErrorText`. -/
def bittensorErrorText (r : BittensorWalletResult) (walletId : Bytes) : Bytes :=
  let key := errorKey r.errorCode kWalletConnectFailed
  if key ≠ [] then sdk.localized key
  else
    let text := bittensorBridgeErrorTextFor r.bridgeErrorCode
    if text.key ≠ [] then
      if text.takesWalletName then sdk.format text.key (sdk.displayName walletId)
      else sdk.localized text.key
    else if r.errorMessage = [] then sdk.localized kWalletConnectFailed
    else r.errorMessage

/-- `bittensor::IsForeignReturn`. -/
def isForeignReturn (errorCode : Bytes) : Bool :=
  decide (errorCode = narrow "purpose_mismatch" ∨ errorCode = narrow "not_bittensor_return" ∨
    errorCode = narrow "not_awaiting_wallet")

/-- `BeginBittensorSession`, and the serial of the proof where the SDK has not refused it. -/
def beginBittensorSession (walletId : Bytes) (done : ProofDone) : SdkHost × Option ℕ :=
  if !env.session then
    (s.runProofDone ⟨done, s.flows⟩ (.refused (sdk.localized kWalletConnectFailed) []), none)
  else
    ({ s with
      bittensorSerial := s.bittensorSerial + 1
      bittensorSession := some walletId
      bittensorDone := some ⟨done, s.flows⟩ }, some (s.bittensorSerial + 1))

/-- `BeginBittensorProof`, for the flow that started last. -/
def beginBittensorProof (walletId : Bytes) (done : ProofDone) : SdkHost :=
  match s.beginBittensorSession sdk env walletId done with
  | (s, none) => s
  | (s, some serial) =>
    if !env.challengeArgs then
      s.finishBittensorProof serial (.refused (sdk.localized kWalletConnectFailed) [])
    else s.call (.proofChallenge s.flows serial)

/-- `OpenBittensorWallet`. -/
def openBittensorWallet (serial : ℕ) : SdkHost :=
  if env.transport = narrow "browser_bridge" then
    match env.bridgeUrl with
    | none => s.finishBittensorProof serial (.refused (sdk.localized kWalletConnectFailed) [])
    | some url => s.openBittensorBridge env url
  else s.finishBittensorProof serial (.refused (sdk.localized kWalletConnectFailed) [])

/-- `HandleBittensorReturn`. -/
def handleBittensorReturn : SdkHost :=
  match s.bittensorSession with
  | none => s
  | some walletId =>
    match env.returned with
    | none =>
      s.finishBittensorProof s.bittensorSerial (.refused (sdk.localized kWalletConnectFailed) [])
    | some r =>
      match r.proof, decide (r.errorCode = []) with
      | some proof, true => s.finishBittensorProof s.bittensorSerial (.proved proof)
      | _, _ =>
        if isForeignReturn r.errorCode then s
        else
          s.finishBittensorProof s.bittensorSerial
            (.refused (bittensorErrorText sdk r walletId) r.errorCode)

/-! ### Flows -/

/-- `SignInWithSolana`. -/
def signInWithSolana (p : Provider) : SdkHost :=
  let req := s.requests
  let epoch := s.run.epoch
  let s := s.request.setRegistrationAuthState epoch .authenticating
  let s := { s with pendingWalletAuth := none }.cancelPendingWalletFlows
    (narrow "superseded by a wallet sign-in")
  { s with
    walletAuthEpoch := epoch
    walletAuthDone := some ⟨req, s.flows⟩ }.connect env p false

/-- `SignInWithBittensor`. -/
def signInWithBittensor (walletId : Bytes) : SdkHost :=
  let req := s.requests
  let epoch := s.run.epoch
  let s := s.request.setRegistrationAuthState epoch .authenticating
  let s := { s with pendingWalletAuth := none }.cancelPendingWalletFlows
    (narrow "superseded by a wallet sign-in")
  { s with
    walletAuthEpoch := epoch
    walletAuthDone := some ⟨req, s.flows⟩
    pendingBittensorWalletId := walletId }.beginBittensorProof sdk env walletId (.signIn epoch)

/-- `SignInWithSso`. -/
def signInWithSso (provider : Bytes) : SdkHost :=
  let req := s.requests
  if provider ≠ narrow "google" ∧ provider ≠ narrow "apple" then
    s.request.answer req (failed (narrow "unknown sign-in provider"))
  else
    let epoch := s.run.epoch
    let s := s.request.setRegistrationAuthState epoch .authenticating
    let s := { s with
      pendingAuthJwt := none
      pendingWalletAuth := none }.cancelPendingWalletFlows (narrow "superseded by a sign-in")
    { s with
      walletAuthEpoch := epoch
      walletAuthDone := some ⟨req, s.flows⟩ }.openSsoAttempt sdk env provider .signIn

/-- `SsoTokenForAdd`. -/
def ssoTokenForAdd (provider : Bytes) : SdkHost :=
  let req := s.requests
  if provider ≠ narrow "google" ∧ provider ≠ narrow "apple" then
    s.request.answer req (.token [] (narrow "unknown sign-in provider"))
  else
    let s := s.request.cancelPendingWalletFlows (narrow "superseded by adding a sign-in method")
    { s with ssoAddDone := some ⟨req, s.flows⟩ }.openSsoAttempt sdk env provider .add

/-- `SignWithSolanaWallet`, with what it goes on with. -/
def signWithSolanaWallet (p : Provider) (message : Bytes) (done : SignDone) : SdkHost :=
  let s := s.cancelPendingWalletFlows (narrow "superseded by a wallet signature request")
  { s with
    walletSignMessage := message
    walletSignDone := some ⟨done, s.flows⟩ }.connect env p false

/-- `ConnectSolanaWallet`. -/
def connectSolanaWallet (p : Provider) : SdkHost :=
  let req := s.requests
  let s := s.request.cancelPendingWalletFlows (narrow "superseded by a wallet connect request")
  { s with walletConnectDone := some ⟨req, s.flows⟩ }.connect env p true

/-- `SignWithBittensorWallet`. -/
def signWithBittensorWallet (walletId : Bytes) : SdkHost :=
  let req := s.requests
  (s.request.cancelPendingWalletFlows
    (narrow "superseded by a wallet signature request")).beginBittensorProof sdk env walletId
      (.answer req)

/-- `SignNetworkConsent`. -/
def signNetworkConsent (walletId : Bytes) : SdkHost :=
  let req := s.requests
  let s := s.request.cancelPendingWalletFlows (narrow "superseded by a payout consent signature")
  match s.beginBittensorSession sdk env walletId (.consent req) with
  | (s, none) => s
  | (s, some serial) =>
    match env.thrown with
    | some what =>
      s.finishBittensorProof serial (.refused (sdk.localized kWalletConnectFailed) what)
    | none => s.openBittensorWallet sdk env serial

/-- `SignSolanaForAdd`. -/
def signSolanaForAdd (p : Provider) : SdkHost :=
  let req := s.requests
  let s := s.request.cancelPendingWalletFlows (narrow "superseded by adding a sign-in method")
  s.call (.addChallenge s.flows req p)

/-- `SignBittensorForAdd`. -/
def signBittensorForAdd (walletId : Bytes) : SdkHost :=
  let req := s.requests
  (s.request.cancelPendingWalletFlows
    (narrow "superseded by adding a sign-in method")).beginBittensorProof sdk env walletId
      (.added req)

/-- `CreateNetwork`, with the wallet of the sign-in that found no network. -/
def createNetwork : SdkHost :=
  let req := s.requests
  let epoch := s.pendingWalletEpoch
  if epoch ≠ s.run.epoch then s.request.endAuthAttempt (some req)
  else
    let s := s.request.setRegistrationAuthState epoch .authenticating
    match s.pendingWalletAuth with
    | none =>
      (s.setRegistrationAuthState epoch .error).answer req
        (failed (narrow "no wallet sign-in is pending"))
    | some identity =>
      let s := s.cancelPendingWalletFlows (narrow "superseded by wallet network creation")
      if identity.blockchain = narrow "TAO" then
        let walletId :=
          if s.pendingBittensorWalletId = [] then narrow "talisman" else s.pendingBittensorWalletId
        s.beginBittensorProof sdk env walletId (.create req epoch identity)
      else s.call (.createChallenge s.flows req epoch identity)

/-- `BeginBrowserApproval`. -/
def beginBrowserApproval : SdkHost :=
  let s := s.cancelPendingWalletFlows (narrow "superseded by a ur.io approval")
  if s.authState = .authenticating then s.setAuthState .loggedOut else s

/-- `CancelAddSignIn`. -/
def cancelAddSignIn : SdkHost :=
  s.cancelPendingWalletFlows (narrow "superseded by the add sheet closing")

/-- `ApplyNetworkServer`. -/
def applyNetworkServer (hostName : Bytes) : SdkHost :=
  if hostName = [] then s
  else
    let s := s.cancelPendingWalletFlows (narrow "superseded by a network change")
    if s.run.running || !env.spaceManager then s
    else
      let s := { s with
        pendingWalletAuth := none
        pendingAuthJwt := none }
      match env.switched with
      | none => s
      | some loggedIn => s.setAuthState (if loggedIn then .loggedIn else .loggedOut)

/-- `Logout`. -/
def logout : SdkHost :=
  if s.run.begin.1 then
    { s with run := s.run.begin.2 }.cancelPendingWalletFlows (narrow "superseded by signing out")
  else s

/-- `SignOutTail`, of a sign-out that runs. -/
def signOutTail : SdkHost :=
  let s := { s with
    pendingWalletAuth := none
    pendingAuthJwt := none
    authState := .loggedOut }
  let finished := s.run.finish
  let s := { s with run := finished.2 }
  match finished.1 with
  | none => s
  | some next => s.registerNetworkClient next.byJwt next.req next.epoch next.flow

/-! ### Links -/

inductive PublicKeyRoute
  | drop
  | answerConnect
  | signForRequest
  | signIn
deriving DecidableEq, Repr

/-- `RoutePublicKey`. -/
def routePublicKey (bittensor connectWaiting signWaiting walletSignInWaiting : Bool) :
    PublicKeyRoute :=
  if bittensor then .drop
  else if connectWaiting then .answerConnect
  else if signWaiting then .signForRequest
  else if walletSignInWaiting then .signIn
  else .drop

inductive SignatureRoute
  | drop
  | answerRequest
  | signIn
deriving DecidableEq, Repr

/-- `RouteSignature`. -/
def routeSignature (signWaiting walletSignInWaiting : Bool) : SignatureRoute :=
  if signWaiting then .answerRequest else if walletSignInWaiting then .signIn else .drop

/-- `walletAuthDone_ && !ssoAttempt_`. -/
def walletSignInWaiting : Bool := s.walletAuthDone.isSome && s.ssoAttempt.isNone

/-- `on_public_key`. -/
def onPublicKey (publicKey : Bytes) (p : Provider) : SdkHost :=
  match routePublicKey (decide (p = .bittensor)) s.walletConnectDone.isSome s.walletSignDone.isSome
    s.walletSignInWaiting with
  | .drop => s
  | .answerConnect =>
    match s.walletConnectDone with
    | none => s
    | some connect =>
      { s with walletConnectDone := none }.answer connect.done (.connected true publicKey [])
  | .signForRequest => s.signMessage sdk env
  | .signIn => s.call (.walletChallenge s.flows)

/-- `on_signature`. -/
def onSignature (publicKey signature : Bytes) (p : Provider) : SdkHost :=
  match routeSignature s.walletSignDone.isSome s.walletSignInWaiting with
  | .drop => s
  | .answerRequest =>
    match s.walletSignDone with
    | none => s
    | some sign =>
      { s with walletSignDone := none }.runSignDone sign.done true publicKey signature []
  | .signIn => s.authLoginWithWallet publicKey signature s.walletAuthMessage p s.walletAuthEpoch

/-- `on_sso`. -/
def onSso (provider authJwt state error : Bytes) : SdkHost :=
  match s.ssoAttempt with
  | none => s
  | some attempt =>
    if state = [] ∨ state ≠ attempt.state ∨ provider ≠ attempt.provider then s
    else
      let s := { s with ssoAttempt := none }
      if error ≠ [] ∨ authJwt = [] then
        s.onError (if error = [] then narrow "sign-in returned no identity token" else error)
      else if sdk.jwtClaimString authJwt (narrow "nonce") ≠ some attempt.nonce then
        s.onError (narrow "the identity token did not match this sign-in")
      else
        match routeSsoReturn attempt.purpose with
        | .addAuth =>
          match s.ssoAddDone with
          | none => s
          | some add => { s with ssoAddDone := none }.answer add.done (.token authJwt [])
        | .authLogin =>
          { s with walletAuthDone := none }.authLoginWithSso env attempt.provider authJwt
            (s.walletAuthDone.map Waiting.done) s.walletAuthEpoch

/-- What the bridge reports. -/
def reported : Report → SdkHost
  | .error err => s.onError err
  | .publicKey key p => s.onPublicKey sdk env key p
  | .signature key signature p => s.onSignature key signature p
  | .sso provider authJwt state error => s.onSso sdk env provider authJwt state error
  | .bittensor _ => s.handleBittensorReturn sdk env

/-- `HandleDeepLink`. -/
def handleDeepLink (url : Bytes) : SdkHost :=
  if (narrow "urnetwork://onboarding/").isPrefixOf url then s
  else
    let handled := s.wallet.handleDeepLink sdk url
    let s := { s with wallet := handled.1 }
    match handled.2 with
    | none => s
    | some report => s.reported sdk env report

/-! ### Answers of the api -/

/-- What `RequestWalletChallenge` hands on: a message, or an error. -/
def challengeOf (a : Answer) : Except Bytes Bytes :=
  match a.err with
  | some err => .error err
  | none =>
    if !a.result then .error (narrow "wallet challenge returned no result")
    else if a.error ≠ [] then .error a.error
    else
      match a.value.filter (· ≠ []) with
      | none => .error (narrow "wallet challenge returned no message")
      | some message => .ok message

/-- The error of a call that failed or came to nothing. -/
def lostOf (a : Answer) : Option Bytes :=
  match a.err with
  | some err => some err
  | none => if !a.result then some (narrow "no result") else none

/-- The challenge of a wallet sign-in. -/
def walletChallenged (flow : ℕ) (a : Answer) : SdkHost :=
  if flow ≠ s.flows then s
  else
    match challengeOf a with
    | .error error =>
      s.onError (if error = [] then narrow "could not fetch wallet challenge" else error)
    | .ok message => { s with walletAuthMessage := message }.signMessage sdk env

/-- The challenge of `SignSolanaForAdd`. -/
def addChallenged (flow req : ℕ) (p : Provider) (a : Answer) : SdkHost :=
  if flow ≠ s.flows then
    s.answer req (.added [] [] [] (narrow "superseded by another wallet flow"))
  else
    match challengeOf a with
    | .error error =>
      s.answer req (.added [] [] []
        (if error = [] then narrow "could not fetch wallet challenge" else error))
    | .ok message => s.signWithSolanaWallet env p message (.added req message)

/-- The challenge of a network creation. -/
def createChallenged (flow req epoch : ℕ) (identity : WalletAuth) (a : Answer) : SdkHost :=
  if flow ≠ s.flows then s.answer req (failed (narrow "superseded by another wallet request"))
  else
    match challengeOf a with
    | .error error =>
      (s.setRegistrationAuthState epoch .loggedOut).answer req
        (failed (if error = [] then narrow "could not fetch wallet challenge" else error))
    | .ok message =>
      { s with
        walletSignMessage := message
        walletSignDone := some ⟨.create req epoch identity message, s.flows⟩ }.signMessage sdk env

/-- The challenge of a Bittensor proof. -/
def proofChallenged (flow serial : ℕ) (a : Answer) : SdkHost :=
  if flow ≠ s.flows then s
  else
    match a.err with
    | some err => s.finishBittensorProof serial (.refused err [])
    | none =>
      if !a.result then
        s.finishBittensorProof serial (.refused (narrow "wallet challenge returned no result") [])
      else if a.error ≠ [] then s.finishBittensorProof serial (.refused a.error [])
      else if env.thrown ≠ none then
        s.finishBittensorProof serial (.refused (sdk.localized kWalletConnectFailed) [])
      else s.openBittensorWallet sdk env serial

/-- The login of a wallet: a text that is not empty is a network's credential. -/
def walletLoggedIn (flow epoch : ℕ) (w : WalletAuth) (a : Answer) : SdkHost :=
  if epoch ≠ s.run.epoch ∨ flow ≠ s.flows then s
  else
    match s.walletAuthDone with
    | none => s
    | some auth =>
      let s := { s with walletAuthDone := none }
      match lostOf a with
      | some err => (s.setRegistrationAuthState epoch .error).answer auth.done (failed err)
      | none =>
        if a.error ≠ [] then
          (s.setRegistrationAuthState epoch .error).answer auth.done (failed a.error)
        else
          match a.value.filter (· ≠ []) with
          | some byJwt => s.registerNetworkClient byJwt (some auth.done) epoch flow
          | none =>
            ({ s with
              pendingWalletAuth := some w
              pendingWalletEpoch := epoch }.setRegistrationAuthState epoch .loggedOut).answer
                auth.done (.auth { walletNeedsNetwork := true })

/-- The login of a Google or Apple identity. -/
def ssoLoggedIn (flow : ℕ) (req : Option ℕ) (epoch : ℕ) (provider idToken : Bytes) (a : Answer) :
    SdkHost :=
  if epoch ≠ s.run.epoch then s.endAuthAttempt req
  else
    match lostOf a with
    | some err => (s.setRegistrationAuthState epoch .error).tell req (failed err)
    | none =>
      if a.error ≠ [] then
        (s.setRegistrationAuthState epoch .loggedOut).tell req (failed a.error)
      else
        match a.value.filter (· ≠ []) with
        | some byJwt => s.registerNetworkClient byJwt req epoch flow
        | none =>
          ({ s with
            pendingAuthJwt := some (idToken, provider)
            pendingAuthEpoch := epoch }.setRegistrationAuthState epoch .loggedOut).tell req
              (.auth { authNeedsNetwork := true })

/-- The creation of a network. -/
def networkCreated (flow req epoch : ℕ) (a : Answer) : SdkHost :=
  if epoch ≠ s.run.epoch then s.endAuthAttempt (some req)
  else
    match lostOf a with
    | some err => (s.setRegistrationAuthState epoch .error).answer req (failed err)
    | none =>
      if a.error ≠ [] then
        (s.setRegistrationAuthState epoch .loggedOut).answer req (failed a.error)
      else if a.verificationRequired then
        (s.setRegistrationAuthState epoch .loggedOut).answer req
          (.auth { verificationRequired := true })
      else
        match a.value.filter (· ≠ []) with
        | some byJwt =>
          { s with
            pendingWalletAuth := none
            pendingAuthJwt := none }.registerNetworkClient byJwt (some req) epoch flow
        | none =>
          (s.setRegistrationAuthState epoch .error).answer req
            (failed (narrow "create network returned no network"))

/-- `complete`, in the answer of a registration. -/
def complete (req : Option ℕ) (epoch : ℕ) (r : AuthResult) : SdkHost :=
  if epoch ≠ s.run.epoch then
    s.tell req (failed (narrow "signed out while this sign-in registered"))
  else (s.setAuthState (if r.ok then .loggedIn else .error)).tell req (.auth r)

/-- The registration of a client. -/
def registered (req : Option ℕ) (epoch : ℕ) (a : Answer) : SdkHost :=
  match lostOf a with
  | some err => s.complete req epoch { error := err }
  | none =>
    if a.error ≠ [] then s.complete req epoch { error := a.error }
    else
      match a.value with
      | none =>
        s.complete req epoch { error := narrow "device registration returned no client jwt" }
      | some _ =>
        if epoch ≠ s.run.epoch then
          s.tell req (failed (narrow "signed out while this sign-in registered"))
        else if !env.stored then
          s.complete req epoch { error := narrow "could not store the device credentials" }
        else s.complete req epoch { ok := true }

/-- The call is answered: it may be answered again, or not. -/
def asked (i : ℕ) (again : Bool) : SdkHost :=
  { s with calls := if again then s.calls else s.calls.eraseIdx i }

/-- An answer of the api. -/
def answered (a : Answer) : Call → SdkHost
  | .walletChallenge flow => s.walletChallenged sdk env flow a
  | .addChallenge flow req p => s.addChallenged env flow req p a
  | .createChallenge flow req epoch identity => s.createChallenged sdk env flow req epoch identity a
  | .proofChallenge flow serial => s.proofChallenged sdk env flow serial a
  | .walletLogin flow epoch w => s.walletLoggedIn flow epoch w a
  | .ssoLogin flow req epoch provider idToken => s.ssoLoggedIn flow req epoch provider idToken a
  | .networkCreate flow req epoch => s.networkCreated flow req epoch a
  | .register _ req epoch => s.registered env req epoch a

end SdkHost

/-! ### Runs -/

/-- A step: a flow's start, a sign-out's start or end, a link, or the answer to a call of the api,
which may be answered again. -/
inductive Act
  | signInWithSolana (provider : Provider)
  | signInWithBittensor (walletId : Bytes)
  | signInWithSso (provider : Bytes)
  | ssoTokenForAdd (provider : Bytes)
  | signSolanaForAdd (provider : Provider)
  | signBittensorForAdd (walletId : Bytes)
  | connectSolanaWallet (provider : Provider)
  | signWithSolanaWallet (provider : Provider) (message : Bytes)
  | signWithBittensorWallet (walletId : Bytes)
  | signNetworkConsent (walletId : Bytes)
  | createNetwork
  | beginBrowserApproval
  | cancelAddSignIn
  | applyNetworkServer (hostName : Bytes)
  | logout
  | signOutTail
  | deepLink (url : Bytes)
  | answered (call : ℕ) (again : Bool) (answer : Answer)
deriving Repr

/-- One step, and what it meets outside. -/
def hostStep (sdk : Sdk) (s : SdkHost) (l : Act × Env) : Option SdkHost :=
  match l.1 with
  | .signInWithSolana p => some (s.signInWithSolana l.2 p)
  | .signInWithBittensor walletId => some (s.signInWithBittensor sdk l.2 walletId)
  | .signInWithSso provider => some (s.signInWithSso sdk l.2 provider)
  | .ssoTokenForAdd provider => some (s.ssoTokenForAdd sdk l.2 provider)
  | .signSolanaForAdd p => some (s.signSolanaForAdd p)
  | .signBittensorForAdd walletId => some (s.signBittensorForAdd sdk l.2 walletId)
  | .connectSolanaWallet p => some (s.connectSolanaWallet l.2 p)
  | .signWithSolanaWallet p message =>
    some (s.request.signWithSolanaWallet l.2 p message (.answer s.requests))
  | .signWithBittensorWallet walletId => some (s.signWithBittensorWallet sdk l.2 walletId)
  | .signNetworkConsent walletId => some (s.signNetworkConsent sdk l.2 walletId)
  | .createNetwork => some (s.createNetwork sdk l.2)
  | .beginBrowserApproval => some s.beginBrowserApproval
  | .cancelAddSignIn => some s.cancelAddSignIn
  | .applyNetworkServer hostName => some (s.applyNetworkServer l.2 hostName)
  | .logout => some s.logout
  | .signOutTail => if s.run.running then some s.signOutTail else none
  | .deepLink url => some (s.handleDeepLink sdk l.2 url)
  | .answered i again answer => (s.calls[i]?).map fun call =>
    (s.asked i again).answered sdk l.2 answer call

/-- The runs of the host under a condition on its steps. -/
abbrev SdkHost.Runs (sdk : Sdk) (cond : SdkHost → Act × Env → Prop) :
    List (Transition SdkHost (Act × Env)) → SdkHost → Prop :=
  Run (· = {}) fun _ s l s' => hostStep sdk s l = some s' ∧ cond s l

/-! ### Two Google attempts -/

/-- What the browser's nonces are, and the answer of the api's callback. -/
structure Attempted where
  token : Bytes
  nonce : Bytes
  state : Bytes
  idToken : Bytes

def firstAttempt : Attempted where
  token := narrow "t"
  nonce := narrow "n"
  state := narrow "eyJwbGF0Zm9ybSI6IndpbmRvd3MiLCJ0b2tlbiI6InQifQ"
  idToken := narrow "e30.eyJub25jZSI6Im4ifQ."

def secondAttempt : Attempted where
  token := narrow "u"
  nonce := narrow "m"
  state := narrow "eyJwbGF0Zm9ybSI6IndpbmRvd3MiLCJ0b2tlbiI6InUifQ"
  idToken := narrow "e30.eyJub25jZSI6Im0ifQ."

/-- What the host meets when it opens the attempt. -/
def Attempted.env (a : Attempted) : Env where
  token := a.token
  nonce := a.nonce

/-- The link that brings the attempt's answer. -/
def Attempted.link (a : Attempted) : Bytes :=
  narrow "urnetwork://oauth/google?state=" ++ a.state ++ narrow "&id_token=" ++ a.idToken

/-- An SDK that knows these attempts, and no wallet. -/
def googleSdk : Sdk where
  sharedSecret _ _ := none
  decryptData _ _ _ := none
  member _ _ := .error []
  signature _ := none
  jwtClaimString jwt claim :=
    if claim ≠ narrow "nonce" then none
    else if jwt = firstAttempt.idToken then some firstAttempt.nonce
    else if jwt = secondAttempt.idToken then some secondAttempt.nonce
    else none
  oauthState token :=
    if token = firstAttempt.token then firstAttempt.state
    else if token = secondAttempt.token then secondAttempt.state
    else []
  localized key := key
  format key _ := key
  displayName walletId := walletId

/-- What a step did. -/
def events (t : Transition SdkHost (Act × Env)) : List Event := t.post.log.drop t.pre.log.length

end UrnetworkWindows.Browser
