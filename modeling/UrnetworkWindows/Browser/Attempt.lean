/-
A Google or Apple attempt and the links fired while it is in flight.

Where an attempt is armed no other callback waits (`SdkHost.Alone`), so a link is one of four
things to it (`Linked`): nothing, a failure that the bridge reports without knowing whose it is,
the attempt's own return with an error, or the return that brings its token.  The second is the
one that settles an attempt it has nothing to do with.
-/
import UrnetworkWindows.Browser.Steps

namespace UrnetworkWindows.Browser

open Lib

/-- No callback waits but an attempt's, and the flow that started last waits for no answer of the
api. -/
structure SdkHost.Alone (s : SdkHost) : Prop where
  bittensorDone : s.bittensorDone = none
  walletConnectDone : s.walletConnectDone = none
  walletSignDone : s.walletSignDone = none
  bittensorSession : s.bittensorSession = none
  calls : ∀ c ∈ s.calls, c.checks = true → c.flow ≠ s.flows

/-- The link brings a token that the attempt asked for. -/
structure Brings (sdk : Sdk) (a : SsoAttempt) (url token : Bytes) : Prop where
  own : IsReturn a.provider a.state url
  param : oauthParam url (narrow "id_token") = some token
  ne_nil : token ≠ []
  nonce : sdk.jwtClaimString token (narrow "nonce") = some a.nonce

/-- What a link is to an armed attempt. -/
inductive Linked (sdk : Sdk) (env : Env) (s : SdkHost) (a : SsoAttempt) (url : Bytes) :
    SdkHost → Prop
  | inert {s' : SdkHost} (wallet : WalletConnect) (h : s' = { s with wallet }) :
      Linked sdk env s a url s'
  | broken (wallet : WalletConnect) (err : Bytes) (h : broken sdk s.wallet url = true) :
      Linked sdk env s a url ({ s with wallet }.onError err)
  | failed (wallet : WalletConnect) (err : Bytes) (h : IsReturn a.provider a.state url) :
      Linked sdk env s a url ({ s with wallet, ssoAttempt := none }.onError err)
  | added (wallet : WalletConnect) {token : Bytes} (h : Brings sdk a url token)
      (hpurpose : a.purpose = .add) {add : Waiting ℕ} (hadd : s.ssoAddDone = some add) :
      Linked sdk env s a url
        ({ s with wallet, ssoAttempt := none, ssoAddDone := none }.answer add.done
          (.token token []))
  | dropped (wallet : WalletConnect) {token : Bytes} (h : Brings sdk a url token)
      (hpurpose : a.purpose = .add) (hadd : s.ssoAddDone = none) :
      Linked sdk env s a url { s with wallet, ssoAttempt := none }
  | loggedIn (wallet : WalletConnect) {token : Bytes} (h : Brings sdk a url token)
      (hpurpose : a.purpose = .signIn) :
      Linked sdk env s a url
        ({ s with wallet, ssoAttempt := none, walletAuthDone := none }.authLoginWithSso env
          a.provider token (s.walletAuthDone.map Waiting.done) s.walletAuthEpoch)

namespace SdkHost

variable {sdk : Sdk} {env : Env} {s : SdkHost} {a : SsoAttempt} {url : Bytes}

lemma onPublicKey_eq_self (sdk : Sdk) (env : Env) (hconnect : s.walletConnectDone = none)
    (hsign : s.walletSignDone = none) (hwaiting : s.walletSignInWaiting = false) (key : Bytes)
    (p : Provider) :
    s.onPublicKey sdk env key p = s := by
  rw [onPublicKey, hconnect, hsign, hwaiting]
  cases p <;> rfl

lemma onSignature_eq_self (hsign : s.walletSignDone = none)
    (hwaiting : s.walletSignInWaiting = false) (key signature : Bytes) (p : Provider) :
    s.onSignature key signature p = s := by
  rw [onSignature, hsign, hwaiting]
  rfl

lemma handleBittensorReturn_eq_self (sdk : Sdk) (env : Env) (hsession : s.bittensorSession = none) :
    s.handleBittensorReturn sdk env = s := by
  rw [handleBittensorReturn, hsession]

lemma linked_onSso (hattempt : s.ssoAttempt = some a) (wallet : WalletConnect)
    {provider authJwt state error : Bytes}
    (hreturn : state ≠ [] → IsReturn provider state url ∧
      authJwt = (oauthParam url (narrow "id_token")).getD []) :
    Linked sdk env s a url ({ s with wallet }.onSso sdk env provider authJwt state error) := by
  rw [onSso]
  split
  next hnone => exact absurd (hattempt.symm.trans hnone) (Option.some_ne_none a)
  next attempt hsome =>
  cases hattempt.symm.trans hsome
  split
  next => exact .inert wallet rfl
  next hmatch =>
  simp only [not_or, not_not] at hmatch
  obtain ⟨hne, hstate, hprovider⟩ := hmatch
  obtain ⟨hown, hjwt⟩ := hreturn hne
  rw [hstate, hprovider] at hown
  dsimp only
  split
  next => exact .failed wallet _ hown
  next hok =>
  split
  next => exact .failed wallet _ hown
  next hnonce =>
  have hbrings : Brings sdk a url authJwt := by
    refine ⟨hown, ?_, (not_or.1 hok).2, not_not.1 hnonce⟩
    cases hparam : oauthParam url (narrow "id_token") with
    | none => exact absurd (hjwt.trans (by rw [hparam]; rfl)) (not_or.1 hok).2
    | some token => rw [hjwt, hparam, Option.getD_some]
  cases hpurpose : a.purpose with
  | add =>
    simp only [routeSsoReturn]
    split
    next hadd => exact .dropped wallet hbrings hpurpose hadd
    next add hadd => exact .added wallet hbrings hpurpose hadd
  | signIn => exact .loggedIn wallet hbrings hpurpose

theorem linked_handleDeepLink (sdk : Sdk) (env : Env) (url : Bytes)
    (hattempt : s.ssoAttempt = some a) (halone : s.Alone) :
    Linked sdk env s a url (s.handleDeepLink sdk env url) := by
  have hwaiting (wallet : WalletConnect) : { s with wallet }.walletSignInWaiting = false := by
    simp [walletSignInWaiting, hattempt]
  rw [handleDeepLink]
  split
  next => exact .inert s.wallet rfl
  next =>
  dsimp only
  generalize hwallet : (s.wallet.handleDeepLink sdk url).1 = wallet
  cases hreport : (s.wallet.handleDeepLink sdk url).2 with
  | none => exact .inert wallet rfl
  | some report =>
    cases report with
    | error err => exact .broken wallet err (WalletConnect.reports_error_iff.1 ⟨err, hreport⟩)
    | publicKey key p =>
      exact .inert wallet (onPublicKey_eq_self (s := { s with wallet }) sdk env
        halone.walletConnectDone halone.walletSignDone (hwaiting wallet) key p)
    | signature key signature p =>
      exact .inert wallet
        (onSignature_eq_self (s := { s with wallet }) halone.walletSignDone (hwaiting wallet)
          key signature p)
    | sso provider authJwt state error =>
      exact linked_onSso hattempt wallet fun hne => WalletConnect.isReturn_of_reports hreport hne
    | bittensor link =>
      exact .inert wallet (handleBittensorReturn_eq_self (s := { s with wallet }) sdk env
        halone.bittensorSession)

lemma handleDeepLink_idle (sdk : Sdk) (env : Env) (url : Bytes) (halone : s.Alone)
    (hattempt : s.ssoAttempt = none) (hadd : s.ssoAddDone = none)
    (hauth : s.walletAuthDone = none) :
    ∃ wallet, s.handleDeepLink sdk env url = { s with wallet } := by
  have hwaiting (wallet : WalletConnect) : { s with wallet }.walletSignInWaiting = false := by
    simp [walletSignInWaiting, hauth]
  rw [handleDeepLink]
  split
  next => exact ⟨s.wallet, rfl⟩
  next =>
  dsimp only
  generalize (s.wallet.handleDeepLink sdk url).1 = wallet
  refine ⟨wallet, ?_⟩
  cases (s.wallet.handleDeepLink sdk url).2 with
  | none => rfl
  | some report =>
    cases report with
    | error err =>
      simp only [reported, onError, halone.bittensorDone, halone.walletConnectDone,
        halone.walletSignDone, hadd, hauth, Option.isSome_none, Bool.false_eq_true, if_false]
    | publicKey key p =>
      exact onPublicKey_eq_self (s := { s with wallet }) sdk env halone.walletConnectDone
        halone.walletSignDone (hwaiting wallet) key p
    | signature key signature p =>
      exact onSignature_eq_self (s := { s with wallet }) halone.walletSignDone (hwaiting wallet) key
        signature p
    | sso provider authJwt state error =>
      simp only [reported, onSso, hattempt]
    | bittensor link =>
      exact handleBittensorReturn_eq_self (s := { s with wallet }) sdk env halone.bittensorSession

lemma authLoginWithSso_cases (s : SdkHost) (env : Env) (provider idToken : Bytes) (req : Option ℕ)
    (epoch : ℕ) :
    Quiet s (s.authLoginWithSso env provider idToken req epoch) ∨
      s.authLoginWithSso env provider idToken req epoch =
        (s.did (.ssoLogin provider idToken)).call
          (.ssoLogin s.flows req epoch provider idToken) := by
  rw [authLoginWithSso]
  split
  next => exact .inl (quiet_tell _ _ _ rfl)
  next =>
  split
  next => exact .inl (quiet_ends _ _ _ _ _ rfl)
  next => exact .inr rfl

namespace Alone

lemma quiet {s' : SdkHost} (h : s.Alone) (hquiet : Quiet s s') : s'.Alone where
  bittensorDone := hquiet.bittensorDone.trans h.bittensorDone
  walletConnectDone := hquiet.walletConnectDone.trans h.walletConnectDone
  walletSignDone := hquiet.walletSignDone.trans h.walletSignDone
  bittensorSession := hquiet.bittensorSession.trans h.bittensorSession
  calls c hc hchecks := by
    rw [hquiet.flows]
    have hold := hquiet.calls.subset (List.mem_filter.2 ⟨hc, hchecks⟩)
    exact h.calls c (List.mem_filter.1 hold).1 hchecks

lemma onError_eq (h : s.Alone) (err : Bytes) :
    (∃ add, s.ssoAddDone = some add ∧ s.onError err =
      { s with ssoAddDone := none, ssoAttempt := none }.answer add.done (.token [] err)) ∨
    (s.ssoAddDone = none ∧ s.walletAuthDone = none ∧ s.onError err = s) ∨
    ∃ auth, s.ssoAddDone = none ∧ s.walletAuthDone = some auth ∧ s.onError err =
      ({ s with walletAuthDone := none }.setAuthState .error).answer auth.done (failed err) := by
  rw [onError, if_neg (by simp [h.bittensorDone]), h.walletConnectDone, h.walletSignDone]
  dsimp only
  split
  next add hadd => exact .inl ⟨add, hadd, rfl⟩
  next hadd =>
  split
  next hauth => exact .inr (.inl ⟨hadd, hauth, rfl⟩)
  next auth hauth => exact .inr (.inr ⟨auth, hadd, hauth, rfl⟩)

lemma onError (h : s.Alone) (err : Bytes) :
    (s.onError err).Alone ∧ (s.onError err).tokens = s.tokens := by
  rcases h.onError_eq err with ⟨add, -, heq⟩ | ⟨-, -, heq⟩ | ⟨auth, -, -, heq⟩
  · rw [heq, answer, tokens_did]
    exact ⟨{ h with }, by simp [Event.identity, Reply.identity, tokens]⟩
  · rw [heq]
    exact ⟨h, rfl⟩
  · rw [heq, answer, tokens_did]
    exact ⟨{ h with }, by simp [Event.identity, failed, Reply.identity, tokens, setAuthState]⟩

lemma linked {s' : SdkHost} (h : s.Alone) (hlinked : Linked sdk env s a url s') : s'.Alone := by
  cases hlinked with
  | inert wallet heq => exact heq ▸ { h with }
  | broken wallet err hbroken => exact (onError (s := { s with wallet }) { h with } err).1
  | failed wallet err hown =>
    exact (onError (s := { s with wallet, ssoAttempt := none }) { h with } err).1
  | added wallet hbrings hpurpose hadd | dropped wallet hbrings hpurpose hadd => exact { h with }
  | @loggedIn wallet token hbrings hpurpose =>
    have hbefore : Alone { s with wallet, ssoAttempt := none, walletAuthDone := none } :=
      { h with }
    rcases authLoginWithSso_cases { s with wallet, ssoAttempt := none, walletAuthDone := none } env
      a.provider token (s.walletAuthDone.map Waiting.done) s.walletAuthEpoch with hquiet | heq
    · exact hbefore.quiet hquiet
    · rw [heq]
      refine { h with calls := fun c hc hchecks => ?_ }
      rcases List.mem_append.1 hc with hc | hc
      · exact h.calls c hc hchecks
      · rw [List.mem_singleton.1 hc] at hchecks
        exact absurd hchecks Bool.false_ne_true

end Alone

end SdkHost

/-! ### The attempt of a flow -/

/-- The attempt is armed, and the callback of its request waits in its slot. -/
structure Waits (a : SsoAttempt) (r : ℕ) (s : SdkHost) : Prop where
  attempt : s.ssoAttempt = some a
  callback : (a.purpose = .signIn ∧ s.walletAuthDone = some ⟨r, s.flows⟩ ∧ s.ssoAddDone = none) ∨
    a.purpose = .add ∧ s.ssoAddDone = some ⟨r, s.flows⟩ ∧ s.walletAuthDone = none
  held : s.held.count r ≤ 1
  issued : r < s.requests

/-- No attempt is armed and none waits. -/
structure Over (s : SdkHost) : Prop where
  attempt : s.ssoAttempt = none
  add : s.ssoAddDone = none
  auth : s.walletAuthDone = none

namespace Waits

variable {sdk : Sdk} {env : Env} {a : SsoAttempt} {r : ℕ} {s s' : SdkHost} {url : Bytes}

lemma mem_waiting (h : Waits a r s) : r ∈ s.waiting := by
  rw [SdkHost.waiting, SdkHost.slots]
  simp only [List.filterMap_append, List.mem_append]
  rcases h.callback with ⟨-, hauth, -⟩ | ⟨-, hadd, -⟩
  · exact .inr (by simp [hauth])
  · exact .inl (.inr (by simp [hadd]))

lemma count_rest (h : Waits a r s) :
    (s.calls.filterMap Call.req).count r = 0 ∧ s.told.count r = 0 := by
  have hheld := h.held
  have hwaiting := List.count_pos_iff.2 h.mem_waiting
  simp only [SdkHost.held, List.count_append] at hheld
  omega

lemma not_mem_told (h : Waits a r s) : r ∉ s.told := List.count_eq_zero.1 h.count_rest.2

lemma quiet {act : Act} (h : Waits a r s) (hstepped : Stepped s act s') (hquiet : Quiet s s') :
    Waits a r s' where
  attempt := hquiet.ssoAttempt.trans h.attempt
  callback := by
    rw [hquiet.walletAuthDone, hquiet.ssoAddDone, hquiet.flows]
    exact h.callback
  held := by
    obtain ⟨copied, hcopied, -, hle⟩ := hstepped.held
    have hr := hle r
    have hnone : copied.count r = 0 := List.count_eq_zero.2 fun hmem =>
      List.count_eq_zero.1 h.count_rest.1 (hcopied hmem)
    rw [if_neg (by have := h.issued; omega)] at hr
    have hheld := h.held
    omega
  issued := h.issued.trans_le hstepped.requests_le

lemma onError (h : Waits a r s) (halone : s.Alone) (wallet : WalletConnect) (err : Bytes) :
    Over ({ s with wallet, ssoAttempt := none }.onError err) := by
  have halone' : SdkHost.Alone { s with wallet, ssoAttempt := none } := { halone with }
  rcases halone'.onError_eq err with ⟨add, hadd, heq⟩ | ⟨hadd, hauth, heq⟩ |
    ⟨auth, hadd, hauth, heq⟩
  · rw [heq]
    refine ⟨rfl, rfl, ?_⟩
    rcases h.callback with ⟨-, -, hnone⟩ | ⟨-, -, hnone⟩
    · exact absurd (hadd.symm.trans hnone) (Option.some_ne_none add)
    · exact hnone
  · rw [heq]
    exact ⟨rfl, hadd, hauth⟩
  · rw [heq]
    exact ⟨rfl, hadd, rfl⟩

/-- A link is nothing to it, or is its own return, which ends it and hands its token on at most
once. -/
lemma linked (h : Waits a r s) (halone : s.Alone) (hlinked : Linked sdk env s a url s')
    (hbroken : broken sdk s.wallet url = false) :
    (∃ wallet, s' = { s with wallet }) ∨
      IsReturn a.provider a.state url ∧ Over s' ∧
        (s'.tokens = s.tokens ∨ ∃ token, Brings sdk a url token ∧ s'.tokens = s.tokens ++ [token] ∧
          (a.purpose = .add → ∃ req reply, s'.log = s.log ++ [.answer req reply])) := by
  cases hlinked with
  | inert wallet heq => exact .inl ⟨wallet, heq⟩
  | broken wallet err hfails => exact absurd (hbroken.symm.trans hfails) Bool.false_ne_true
  | failed wallet err hown =>
    refine .inr ⟨hown, h.onError halone wallet err, .inl ?_⟩
    exact (SdkHost.Alone.onError (s := { s with wallet, ssoAttempt := none }) { halone with } err).2
  | @added wallet token hbrings hpurpose add hadd =>
    refine .inr ⟨hbrings.own, ⟨rfl, rfl, ?_⟩, .inr ⟨token, hbrings, ?_, fun _ => ⟨_, _, rfl⟩⟩⟩
    · rcases h.callback with ⟨hsignIn, -, -⟩ | ⟨-, -, hauth⟩
      · exact absurd (hpurpose.symm.trans hsignIn) (by rintro ⟨⟩)
      · exact hauth
    · rw [SdkHost.answer, SdkHost.tokens_did, Event.identity, Reply.identity, if_neg hbrings.ne_nil]
      rfl
  | @dropped wallet token hbrings hpurpose hadd =>
    rcases h.callback with ⟨hsignIn, -, -⟩ | ⟨-, hsome, -⟩
    · exact absurd (hpurpose.symm.trans hsignIn) (by rintro ⟨⟩)
    · exact absurd (hsome.symm.trans hadd) (Option.some_ne_none _)
  | @loggedIn wallet token hbrings hpurpose =>
    have hadd : s.ssoAddDone = none := by
      rcases h.callback with ⟨-, -, hadd⟩ | ⟨hadds, -, -⟩
      · exact hadd
      · exact absurd (hpurpose.symm.trans hadds) (by rintro ⟨⟩)
    refine .inr ⟨hbrings.own, ?_⟩
    rcases SdkHost.authLoginWithSso_cases
      { s with wallet, ssoAttempt := none, walletAuthDone := none } env a.provider token
      (s.walletAuthDone.map Waiting.done) s.walletAuthEpoch with hquiet | heq
    · exact ⟨⟨hquiet.ssoAttempt, hquiet.ssoAddDone.trans hadd, hquiet.walletAuthDone⟩,
        .inl hquiet.tokens⟩
    · rw [heq]
      refine ⟨⟨rfl, hadd, rfl⟩, .inr ⟨token, hbrings, ?_, fun hadds => ?_⟩⟩
      · exact SdkHost.tokens_did _ (.ssoLogin a.provider token)
      · exact absurd (hpurpose.symm.trans hadds) (by rintro ⟨⟩)

end Waits

/-! ### Steps while it is in flight -/

def Act.link : Act → Option Bytes
  | .deepLink url => some url
  | _ => none

/-- While an attempt is armed the bridge reports no link as a failure. -/
def Unbroken (sdk : Sdk) (s : SdkHost) (l : Act × Env) : Prop :=
  ∀ url ∈ l.1.link, s.ssoAttempt.isSome = true → broken sdk s.wallet url = false

instance (sdk : Sdk) (s : SdkHost) (l : Act × Env) : Decidable (Unbroken sdk s l) :=
  inferInstanceAs (Decidable (∀ url ∈ l.1.link, _))

/-- What a step may do to an attempt in flight: a link that is not its return changes nothing of it,
its token is handed on from its return only, while its callback has not been called, and that of an
add never goes to `authLogin`. -/
structure Proper (sdk : Sdk) (a : SsoAttempt) (r : ℕ) (t : Transition SdkHost (Act × Env)) :
    Prop where
  inert : ∀ url, t.label.1 = .deepLink url → ¬IsReturn a.provider a.state url →
    t.post.ssoAttempt = t.pre.ssoAttempt ∧ t.post.walletAuthDone = t.pre.walletAuthDone ∧
      t.post.ssoAddDone = t.pre.ssoAddDone ∧ t.post.authState = t.pre.authState
  own : t.post.tokens = t.pre.tokens ∨ ∃ url token, t.label.1 = .deepLink url ∧
    Brings sdk a url token ∧ t.post.tokens = t.pre.tokens ++ [token] ∧ r ∉ t.pre.told
  add : a.purpose = .add → ∀ provider idToken, Event.ssoLogin provider idToken ∉ events t

lemma not_mem_events {t : Transition SdkHost (Act × Env)} (hlog : t.pre.log <+: t.post.log)
    (htokens : t.post.tokens = t.pre.tokens) (provider idToken : Bytes) :
    Event.ssoLogin provider idToken ∉ events t := by
  obtain ⟨rest, hrest⟩ := hlog
  have hevents : events t = rest := by rw [events, ← hrest, List.drop_left]
  rw [SdkHost.tokens, ← hrest, List.filterMap_append] at htokens
  have hnone : rest.filterMap Event.identity = [] := List.append_right_eq_self.1 htokens
  rw [hevents]
  intro hmem
  exact absurd (List.filterMap_eq_nil_iff.1 hnone _ hmem) (Option.some_ne_none idToken)

/-- An attempt whose flow is the one that started last: its callback waits, or it is over and has
handed on one token at most. -/
structure InFlight (a : SsoAttempt) (r : ℕ) (tokens : List Bytes) (s : SdkHost) : Prop where
  alone : s.Alone
  phase : Waits a r s ∧ s.tokens = tokens ∨
    Over s ∧ ∃ handed, s.tokens = tokens ++ handed ∧ handed.length ≤ 1

namespace InFlight

variable {sdk : Sdk} {env : Env} {a : SsoAttempt} {r : ℕ} {tokens : List Bytes} {s s' : SdkHost}

lemma wallet (h : InFlight a r tokens s) (l : Act × Env) (wallet : WalletConnect) :
    InFlight a r tokens { s with wallet } ∧ Proper sdk a r ⟨s, l, { s with wallet }⟩ := by
  refine ⟨⟨{ h.alone with }, ?_⟩, fun _ _ _ => ⟨rfl, rfl, rfl, rfl⟩, .inl rfl, fun _ => ?_⟩
  · rcases h.phase with ⟨hwaits, htokens⟩ | ⟨hover, handed⟩
    · exact .inl ⟨{ hwaits with }, htokens⟩
    · exact .inr ⟨{ hover with }, handed⟩
  · exact not_mem_events List.prefix_rfl rfl

lemma link (h : InFlight a r tokens s) {url : Bytes}
    (hbroken : s.ssoAttempt.isSome = true → broken sdk s.wallet url = false)
    (hlog : s.log <+: (s.handleDeepLink sdk env url).log) :
    InFlight a r tokens (s.handleDeepLink sdk env url) ∧
      Proper sdk a r ⟨s, (.deepLink url, env), s.handleDeepLink sdk env url⟩ := by
  rcases h.phase with ⟨hwaits, htokens⟩ | ⟨hover, -⟩
  · have hlinked := SdkHost.linked_handleDeepLink sdk env url hwaits.attempt h.alone
    rcases hwaits.linked h.alone hlinked (hbroken (by simp [hwaits.attempt])) with
      ⟨wallet, heq⟩ | ⟨hown, hover, hhanded⟩
    · rw [heq]
      exact h.wallet _ wallet
    refine ⟨⟨h.alone.linked hlinked, .inr ⟨hover, ?_⟩⟩, ?_, ?_, ?_⟩
    · rcases hhanded with heq | ⟨token, -, heq, -⟩
      · exact ⟨[], by rw [heq, htokens, List.append_nil], Nat.zero_le _⟩
      · exact ⟨[token], by rw [heq, htokens], le_rfl⟩
    · intro url' hurl hforeign
      obtain rfl := Act.deepLink.inj hurl
      exact absurd hown hforeign
    · refine hhanded.imp id ?_
      rintro ⟨token, hbrings, heq, -⟩
      exact ⟨url, token, rfl, hbrings, heq, hwaits.not_mem_told⟩
    · intro hadds provider idToken
      rcases hhanded with heq | ⟨token, -, -, hanswers⟩
      · exact not_mem_events hlog heq provider idToken
      · obtain ⟨req, reply, heq⟩ := hanswers hadds
        rw [events, heq, List.drop_left, List.mem_singleton]
        rintro ⟨⟩
  · obtain ⟨wallet, heq⟩ :=
      SdkHost.handleDeepLink_idle sdk env url h.alone hover.attempt hover.add hover.auth
    rw [heq]
    exact h.wallet _ wallet

lemma quiet {l : Act × Env} (h : InFlight a r tokens s) (hstepped : Stepped s l.1 s')
    (hquiet : Quiet s s') (hlog : s.log <+: s'.log) (hlink : ∀ url, l.1 ≠ .deepLink url) :
    InFlight a r tokens s' ∧ Proper sdk a r ⟨s, l, s'⟩ := by
  refine ⟨⟨h.alone.quiet hquiet, ?_⟩, fun url hurl => absurd hurl (hlink url), .inl hquiet.tokens,
    fun _ => not_mem_events hlog hquiet.tokens⟩
  rcases h.phase with ⟨hwaits, htokens⟩ | ⟨hover, handed, htokens, hone⟩
  · exact .inl ⟨hwaits.quiet hstepped hquiet, hquiet.tokens.trans htokens⟩
  · refine .inr ⟨⟨?_, ?_, ?_⟩, handed, hquiet.tokens.trans htokens, hone⟩
    · exact hquiet.ssoAttempt.trans hover.attempt
    · exact hquiet.ssoAddDone.trans hover.add
    · exact hquiet.walletAuthDone.trans hover.auth

theorem step {l : Act × Env} (h : InFlight a r tokens s) (hs : Begun s)
    (hstep : hostStep sdk s l = some s') (hflows : s'.flows = s.flows)
    (hbroken : Unbroken sdk s l) :
    InFlight a r tokens s' ∧ Proper sdk a r ⟨s, l, s'⟩ := by
  have hstepped := SdkHost.stepped hs.slots hstep
  cases hstepped with
  | starts issues once same superseded moves arms =>
    have hmoved := moves.flows.trans (superseded.flows.trans
      (congrArg (· + 1) (same.flows.trans issues.quiet.flows)))
    exact absurd (hflows.symm.trans hmoved) (Nat.succ_ne_self _).symm
  | stays issues once moves calm =>
    have hlog : s.log <+: s'.log := issues.log ▸ moves.log
    by_cases hlink : ∃ url, l.1 = .deepLink url
    · obtain ⟨act, env⟩ := l
      obtain ⟨url, rfl⟩ := hlink
      cases hstep
      exact h.link (hbroken url (Option.mem_some_self url)) hlog
    · refine h.quiet (SdkHost.stepped hs.slots hstep) ?_ hlog fun url hurl => hlink ⟨url, hurl⟩
      rcases calm with hquiet | ⟨hengages, -⟩
      · exact hquiet
      -- nothing of the flow waits for an answer of the api
      · generalize l.1 = act at hengages hlink
        cases hengages with
        | link url => exact absurd ⟨url, rfl⟩ hlink
        | answer again answer hcall hchecks hflow =>
          exact absurd hflow (h.alone.calls _ (List.mem_of_getElem? hcall) hchecks)

end InFlight

/-! ### Its start -/

/-- The provider and the purpose of the flow that the label starts. -/
def Act.sso : Act → Option (Bytes × SsoPurpose)
  | .signInWithSso provider => some (provider, .signIn)
  | .ssoTokenForAdd provider => some (provider, .add)
  | _ => none

/-- The step opens the browser for the attempt. -/
structure Opens (sdk : Sdk) (a : SsoAttempt) (r : ℕ) (t : Transition SdkHost (Act × Env)) :
    Prop where
  provider : a.provider = narrow "google" ∨ a.provider = narrow "apple"
  act : t.label.1.sso = some (a.provider, a.purpose)
  attempt : a = SdkHost.attemptOf sdk t.label.2 a.provider a.purpose
  opened : t.label.2.opened = true
  request : r = t.pre.requests

lemma Superseded.alone {u v : SdkHost} (h : Superseded u v) (hcalls : u.CallsStarted) :
    v.Alone ∧ Over v := by
  have hslots := h.slots
  simp only [SdkHost.slots, List.append_eq_nil_iff, Option.toList_eq_nil_iff,
    Option.map_eq_none_iff] at hslots
  obtain ⟨⟨⟨⟨hproof, hconnect⟩, hsign⟩, hadd⟩, hauth⟩ := hslots
  refine ⟨⟨hproof, hconnect, hsign, h.session, fun c hc hchecks => ?_⟩, h.attempt, hadd, hauth⟩
  have hle := hcalls c (h.calls ▸ hc) hchecks
  rw [h.flows]
  omega

lemma Superseded.tokens {u v : SdkHost} (h : Superseded u v) : v.tokens = u.tokens := by
  obtain ⟨events, hlog, -, htold⟩ := h.log
  have hnone : events.filterMap Event.identity = [] := by
    refine List.filterMap_eq_nil_iff.2 fun e he => ?_
    obtain ⟨req, reply, rfl, -, hidentity⟩ := htold e he
    exact hidentity
  rw [SdkHost.tokens, hlog, List.filterMap_append, hnone, List.append_nil, SdkHost.tokens]

lemma SameHolders.tokens {s u : SdkHost} (h : SameHolders s u) : u.tokens = s.tokens := by
  rw [SdkHost.tokens, SdkHost.tokens, h.log]

lemma SdkHost.Alone.openSsoAttempt {s : SdkHost} (h : s.Alone) (sdk : Sdk) (env : Env) (p : Bytes)
    (purpose : SsoPurpose) : (s.openSsoAttempt sdk env p purpose).tokens = s.tokens := by
  have harmed : SdkHost.Alone { s with ssoAttempt := some (SdkHost.attemptOf sdk env p purpose) } :=
    { h with }
  rw [SdkHost.openSsoAttempt, SdkHost.openUrl]
  split
  · exact (SdkHost.tokens_did _ _).trans (List.append_nil _)
  · exact (harmed.onError _).2

section Opened

variable {sdk : Sdk} {env : Env} {s u v : SdkHost} (hs : Begun s) (hu : SameHolders s.request u)
  (h : Superseded u v)
include hs hu h

lemma alone_of_superseded : v.Alone ∧ Over v := by
  refine h.alone fun c hc hchecks => ?_
  have hcalls : s.request.CallsStarted := hs.calls
  rw [hu.flows]
  exact hcalls c (hu.calls ▸ hc) hchecks

lemma held_of_superseded {attempt : Option SsoAttempt} {s' : SdkHost}
    (hmoves : Moves [s.requests] { v with ssoAttempt := attempt } [] s') :
    s'.held.count s.requests ≤ 1 ∧ s.requests < s'.requests := by
  have hheld := hmoves.held s.requests
  have hfresh : s.held.count s.requests = 0 := hs.fresh _ le_rfl
  have hattempt : { v with ssoAttempt := attempt }.held = v.held := rfl
  have hrequest : s.request.held = s.held := rfl
  rw [List.count_nil, List.count_singleton_self, hattempt, h.held, hu.held, hrequest, hfresh]
    at hheld
  have hrequests : s'.requests = s.requests + 1 :=
    hmoves.requests.trans (h.requests.trans hu.requests)
  omega

lemma inFlight_openSsoSignIn (epoch : ℕ) (p : Bytes) (hopened : env.opened = true) {s' : SdkHost}
    (hs' : { v with
      walletAuthEpoch := epoch
      walletAuthDone := some ⟨s.requests, v.flows⟩ }.openSsoAttempt sdk env p .signIn = s') :
    InFlight (SdkHost.attemptOf sdk env p .signIn) s.requests s'.tokens s' := by
  obtain ⟨halone, hover⟩ := alone_of_superseded hs hu h
  have hmoves := @SdkHost.moves_openSsoSignIn sdk env v s.requests epoch p
  obtain ⟨hheld, hissued⟩ := held_of_superseded hs hu h hmoves
  rw [SdkHost.openSsoAttempt, SdkHost.openUrl, if_pos hopened] at hheld hissued hs'
  subst hs'
  exact ⟨{ halone with }, .inl ⟨⟨rfl, .inl ⟨rfl, rfl, hover.add⟩, hheld, hissued⟩, rfl⟩⟩

lemma inFlight_openSsoAdd (p : Bytes) (hopened : env.opened = true) {s' : SdkHost}
    (hs' : { v with ssoAddDone := some ⟨s.requests, v.flows⟩ }.openSsoAttempt sdk env p .add = s') :
    InFlight (SdkHost.attemptOf sdk env p .add) s.requests s'.tokens s' := by
  obtain ⟨halone, hover⟩ := alone_of_superseded hs hu h
  have hmoves := @SdkHost.moves_openSsoAdd sdk env v s.requests p
  obtain ⟨hheld, hissued⟩ := held_of_superseded hs hu h hmoves
  rw [SdkHost.openSsoAttempt, SdkHost.openUrl, if_pos hopened] at hheld hissued hs'
  subst hs'
  exact ⟨{ halone with }, .inl ⟨⟨rfl, .inr ⟨rfl, rfl, hover.auth⟩, hheld, hissued⟩, rfl⟩⟩

lemma tokens_openSsoSignIn (epoch : ℕ) (p : Bytes) {s' : SdkHost}
    (hs' : { v with
      walletAuthEpoch := epoch
      walletAuthDone := some ⟨s.requests, v.flows⟩ }.openSsoAttempt sdk env p .signIn = s') :
    s'.tokens = s.tokens := by
  obtain ⟨halone, -⟩ := alone_of_superseded hs hu h
  have hwaits : SdkHost.Alone { v with
      walletAuthEpoch := epoch
      walletAuthDone := some ⟨s.requests, v.flows⟩ } := { halone with }
  exact hs' ▸ (hwaits.openSsoAttempt sdk env p .signIn).trans (h.tokens.trans hu.tokens)

lemma tokens_openSsoAdd (p : Bytes) {s' : SdkHost}
    (hs' : { v with ssoAddDone := some ⟨s.requests, v.flows⟩ }.openSsoAttempt sdk env p .add = s') :
    s'.tokens = s.tokens := by
  obtain ⟨halone, -⟩ := alone_of_superseded hs hu h
  have hwaits : SdkHost.Alone { v with ssoAddDone := some ⟨s.requests, v.flows⟩ } :=
    { halone with }
  exact hs' ▸ (hwaits.openSsoAttempt sdk env p .add).trans (h.tokens.trans hu.tokens)

end Opened

theorem Opens.inFlight {sdk : Sdk} {a : SsoAttempt} {r : ℕ} {t : Transition SdkHost (Act × Env)}
    (h : Opens sdk a r t) (hs : Begun t.pre) (hstep : hostStep sdk t.pre t.label = some t.post) :
    InFlight a r t.post.tokens t.post := by
  have hknown : ¬ (a.provider ≠ narrow "google" ∧ a.provider ≠ narrow "apple") := by
    rintro ⟨hgoogle, happle⟩
    exact h.provider.elim hgoogle happle
  have hact := h.act
  rw [h.request]
  obtain ⟨s, ⟨act, env⟩, s'⟩ := t
  cases act with
  | signInWithSso p =>
    obtain ⟨rfl, hpurpose⟩ := Prod.mk.inj (Option.some.inj hact)
    have hpost : s.signInWithSso sdk env a.provider = s' := Option.some.inj hstep
    rw [SdkHost.signInWithSso, if_neg hknown] at hpost
    have hu := SdkHost.same_authenticating s.request s.run.epoch none
    have hsuperseded := SdkHost.superseded_cancel ((Issues.request s).slotsCurrent hs.slots hu)
      (by decide : kSupersededPrefix <+: narrow "superseded by a sign-in")
    rw [h.attempt, ← hpurpose]
    exact inFlight_openSsoSignIn hs hu hsuperseded s.run.epoch a.provider h.opened hpost
  | ssoTokenForAdd p =>
    obtain ⟨rfl, hpurpose⟩ := Prod.mk.inj (Option.some.inj hact)
    have hpost : s.ssoTokenForAdd sdk env a.provider = s' := Option.some.inj hstep
    rw [SdkHost.ssoTokenForAdd, if_neg hknown] at hpost
    have hu : SameHolders s.request s.request := .refl _
    have hsuperseded := SdkHost.superseded_cancel ((Issues.request s).slotsCurrent hs.slots hu)
      (by decide : kSupersededPrefix <+: narrow "superseded by adding a sign-in method")
    rw [h.attempt, ← hpurpose]
    exact inFlight_openSsoAdd hs hu hsuperseded a.provider h.opened hpost
  | _ => exact absurd hact (Option.some_ne_none _).symm

/-! ### No attempt -/

lemma tokens_of_arms {sdk : Sdk} {env : Env} {s s' : SdkHost} {act : Act} (hs : Begun s)
    (hstep : hostStep sdk s (act, env) = some s') (harms : act.arms = true) :
    s'.tokens = s.tokens := by
  cases act with
  | signInWithSso p =>
    have hpost : s.signInWithSso sdk env p = s' := Option.some.inj hstep
    rw [SdkHost.signInWithSso] at hpost
    split at hpost
    · exact hpost ▸ (SdkHost.tokens_did _ _).trans (List.append_nil _)
    · have hu := SdkHost.same_authenticating s.request s.run.epoch none
      have hsuperseded := SdkHost.superseded_cancel ((Issues.request s).slotsCurrent hs.slots hu)
        (by decide : kSupersededPrefix <+: narrow "superseded by a sign-in")
      exact tokens_openSsoSignIn hs hu hsuperseded s.run.epoch p hpost
  | ssoTokenForAdd p =>
    have hpost : s.ssoTokenForAdd sdk env p = s' := Option.some.inj hstep
    rw [SdkHost.ssoTokenForAdd] at hpost
    split at hpost
    · exact hpost ▸ (SdkHost.tokens_did _ _).trans (List.append_nil _)
    · have hu : SameHolders s.request s.request := .refl _
      have hsuperseded := SdkHost.superseded_cancel ((Issues.request s).slotsCurrent hs.slots hu)
        (by decide : kSupersededPrefix <+: narrow "superseded by adding a sign-in method")
      exact tokens_openSsoAdd hs hu hsuperseded p hpost
  | _ => exact absurd harms Bool.false_ne_true

/-- A step before which no attempt was armed hands on no token. -/
lemma tokens_of_unarmed {sdk : Sdk} {s s' : SdkHost} {l : Act × Env} (hs : Begun s)
    (hstep : hostStep sdk s l = some s') (hnone : s.ssoAttempt = none) : s'.tokens = s.tokens := by
  cases SdkHost.stepped hs.slots hstep with
  | stays issues once moves calm =>
    exact (moves.tokens (issues.quiet.ssoAttempt.trans hnone)).trans issues.quiet.tokens
  | starts issues once same superseded moves arms =>
    rcases arms with rfl | harms
    · exact (moves.tokens rfl).trans
        (superseded.tokens.trans (same.tokens.trans issues.quiet.tokens))
    · exact tokens_of_arms hs hstep harms

/-! ### Runs -/

/-- An attempt that was opened in the run is settled by its own return only, as long as no other
flow starts, and no token is handed on where no attempt is armed. -/
def Settled (sdk : Sdk) (es : List (Transition SdkHost (Act × Env))) : Prop :=
  (∀ before opening during rest a r, es = before ++ opening :: (during ++ rest) →
    Opens sdk a r opening → (∀ t ∈ during, t.post.flows = opening.post.flows) →
    ∀ t ∈ during, Proper sdk a r t ∧
      ∃ handed, t.post.tokens = opening.post.tokens ++ handed ∧ handed.length ≤ 1) ∧
  ∀ t ∈ es, t.pre.ssoAttempt = none → t.post.tokens = t.pre.tokens

/-- **A Google or Apple attempt is settled only by its own return**, where no link fails. -/
theorem settled_by_own_return {sdk : Sdk} {es : List (Transition SdkHost (Act × Env))}
    {s : SdkHost} (h : SdkHost.Runs sdk (Unbroken sdk) es s) : Settled sdk es := by
  refine ⟨?_, fun t ht hnone => ?_⟩
  · rintro before opening during rest a r rfl hopens hflows t ht
    obtain ⟨first, last, rfl⟩ := List.append_of_mem ht
    obtain ⟨hbefore, hopening, -⟩ := h.split rfl
    have hsplit : before ++ opening :: (first ++ t :: last ++ rest) =
        (before ++ opening :: first) ++ t :: (last ++ rest) := by simp
    obtain ⟨hrun, hstep, hunbroken⟩ := h.split hsplit
    have hstays : ∀ t ∈ first, t.post.flows = opening.post.flows :=
      fun t ht => hflows t (List.mem_append_left _ ht)
    have hkept : t.pre.flows = opening.post.flows ∧ Begun t.pre ∧
        InFlight a r opening.post.tokens t.pre := by
      refine Run.kept_since
        (R := fun s => s.flows = opening.post.flows ∧ Begun s ∧ InFlight a r opening.post.tokens s)
        ?_ hrun ?_ hstays
      · rintro es s l s' ⟨hstep, hunbroken⟩ hok ⟨hsame, hbegun, hflight⟩
        exact ⟨hok, hbegun.step hstep,
          (hflight.step hbegun hstep (hok.trans hsame.symm) hunbroken).1⟩
      · have hbegun := Begun.of_run hbefore
        exact ⟨rfl, hbegun.step hopening, hopens.inFlight hbegun hopening⟩
    obtain ⟨hsame, hbegun, hflight⟩ := hkept
    obtain ⟨hafter, hproper⟩ :=
      hflight.step hbegun hstep ((hflows t ht).trans hsame.symm) hunbroken
    refine ⟨hproper, ?_⟩
    rcases hafter.phase with ⟨-, htokens⟩ | ⟨-, hhanded⟩
    · exact ⟨[], by rw [htokens, List.append_nil], Nat.zero_le _⟩
    · exact hhanded
  · obtain ⟨first, last, rfl⟩ := List.append_of_mem ht
    obtain ⟨hrun, hstep, -⟩ := h.split rfl
    exact tokens_of_unarmed (Begun.of_run hrun) hstep hnone

theorem settled_by_own_return_signs_in :
    ∃ es, ∃ s : SdkHost, Settled googleSdk es ∧ s.tokens = [firstAttempt.idToken] := by
  obtain ⟨es, s, hrun, hgood⟩ := @Run.exists_of_cond _ _ (hostStep googleSdk) (Unbroken googleSdk) _
    {} [(.signInWithSso (narrow "google"), firstAttempt.env),
      (.deepLink (narrow "urnetwork://oauth/google?state=x&id_token=y"), {}),
      (.deepLink firstAttempt.link, {})]
    (fun s : SdkHost => decide (s.tokens = [firstAttempt.idToken])) (by decide +kernel)
  exact ⟨es, s, settled_by_own_return hrun, of_decide_eq_true hgood⟩

/-- A link of neither provider, which any program can fire. -/
def strayLink : Bytes := narrow "urnetwork://oauth/error"

/-- The stray link ends the sign-in. -/
theorem settled_by_own_return_fails :
    ¬ ∀ es s, SdkHost.Runs googleSdk (fun _ _ => True) es s → Settled googleSdk es := by
  intro hall
  let opened := ({} : SdkHost).signInWithSso googleSdk firstAttempt.env (narrow "google")
  let ended := opened.handleDeepLink googleSdk {} strayLink
  let opening : Transition SdkHost (Act × Env) :=
    ⟨{}, (.signInWithSso (narrow "google"), firstAttempt.env), opened⟩
  let stray : Transition SdkHost (Act × Env) := ⟨opened, (.deepLink strayLink, {}), ended⟩
  have hopened : SdkHost.Runs googleSdk (fun _ _ => True) ([] ++ [opening]) opened :=
    .snoc (.nil rfl) ⟨rfl, trivial⟩
  have hrun : SdkHost.Runs googleSdk (fun _ _ => True) ([opening] ++ [stray]) ended :=
    .snoc hopened ⟨rfl, trivial⟩
  have hsettled := (hall _ _ hrun).1 [] opening [stray] []
    (SdkHost.attemptOf googleSdk firstAttempt.env (narrow "google") .signIn) 0 rfl
    ⟨.inl rfl, rfl, rfl, rfl, rfl⟩
    (List.forall_mem_singleton.2 (by decide +kernel : ended.flows = opened.flows))
    stray (List.mem_singleton_self stray)
  have hinert := hsettled.1.inert strayLink rfl (by decide +kernel)
  exact absurd hinert.2.2.2 (by decide +kernel : ended.authState ≠ opened.authState)

end UrnetworkWindows.Browser
