/-
Every browser or wallet request is answered at most once, and never left behind by a newer flow.

A callback is in one place at a time (`Kept`), so it is called at most once; a flow that starts
first tells everything that waits (`Superseded`).  A Solana wallet's return goes on with a sign-in
only where the route says so (`NoSignIn`), and then nothing else waits, since the callbacks that
wait are of one request.

A step that answers a call of an older flow tells only the callback that the call brought
(`TellsOnly`), but for one: the login of a Google or Apple identity and the creation of a network
ask for the sign-out's epoch alone, so behind a sign-out the login of an older flow takes the place
of a newer one's sign-in (`older_login_overtakes`).
-/
import UrnetworkWindows.Browser.Steps

namespace UrnetworkWindows.Browser

open Lib
open SignOut (SignOutRun)

/-! ### What is said of a step -/

def Event.opensBrowser : Event → Bool
  | .opens _ => true
  | _ => false

/-- The call that the step answers. -/
def answeredCall (t : Transition SdkHost (Act × Env)) : Option Call :=
  match t.label.1 with
  | .answered i _ _ => t.pre.calls[i]?
  | _ => none

/-- The connect or signature return of a Solana wallet. -/
def WalletReturn (t : Transition SdkHost (Act × Env)) : Prop :=
  ∃ url, t.label.1 = .deepLink url ∧
    (providerForHost (urlHost url) = some .phantom ∨ providerForHost (urlHost url) = some .solflare)

/-- A wallet sign-in goes on: its challenge is asked for, or its signature is sent. -/
def SignsIn (t : Transition SdkHost (Act × Env)) : Prop :=
  (∃ flow, t.post.calls = t.pre.calls ++ [.walletChallenge flow]) ∨
    ∃ auth, Event.walletLogin auth ∈ events t

/-- The callback of the sign-in that waits for a sign-out. -/
def SdkHost.deferredReq (s : SdkHost) : Option ℕ := s.run.deferred.bind DeferredSignIn.req

/-- The answer brings a network's jwt. -/
def Answer.network (a : Answer) : Bool :=
  (SdkHost.lostOf a).isNone && decide (a.error = []) && (a.value.filter (· ≠ [])).isSome

/-- A login that asks for the epoch alone, and finds a network. -/
def Call.signsIn (epoch : ℕ) (a : Answer) : Call → Bool
  | .ssoLogin _ _ begun _ _ => decide (begun = epoch) && a.network
  | .networkCreate _ _ begun => decide (begun = epoch) && !a.verificationRequired && a.network
  | _ => false

/-- No login of an older flow signs in while another request's sign-in waits for a sign-out. -/
def SdkHost.NoneOvertaken (s : SdkHost) : Act → Prop
  | .answered i _ a => ∀ c ∈ s.calls[i]?, c.flow ≠ s.flows → c.signsIn s.run.epoch a = true →
      s.run.running = true → ∀ r ∈ s.deferredReq, c.req = some r
  | _ => True

instance SdkHost.decidableNoneOvertaken (s : SdkHost) (act : Act) :
    Decidable (s.NoneOvertaken act) :=
  match act with
  | .answered .. => inferInstanceAs (Decidable (∀ c ∈ _, _ → _ → _ → ∀ r ∈ _, _))
  | .signInWithSolana .. | .signInWithBittensor .. | .signInWithSso .. | .ssoTokenForAdd ..
  | .signSolanaForAdd .. | .signBittensorForAdd .. | .connectSolanaWallet ..
  | .signWithSolanaWallet .. | .signWithBittensorWallet .. | .signNetworkConsent ..
  | .createNetwork | .beginBrowserApproval | .cancelAddSignIn | .applyNetworkServer ..
  | .logout | .signOutTail | .deepLink .. => inferInstanceAs (Decidable True)

/-- The requests of a run. -/
structure Answered (es : List (Transition SdkHost (Act × Env))) (s : SdkHost) : Prop where
  /-- A callback is called at most once. -/
  once : ∀ r, s.told.count r ≤ 1
  /-- A flow that starts first tells all that waits in a slot. -/
  superseded : ∀ t ∈ es, t.post.flows ≠ t.pre.flows →
    ∃ told rest, events t = told ++ rest ∧ Supersedes t.pre.waiting told
  /-- What waits is of one flow. -/
  one : ∀ x ∈ s.slots, ∀ y ∈ s.slots, x.2 = y.2
  /-- An answer to an older flow opens no browser, and calls no callback but its own. -/
  stale : ∀ t ∈ es, ∀ c, answeredCall t = some c → c.flow ≠ t.pre.flows →
    ∀ e ∈ events t, e.opensBrowser = false ∧ ∀ r, e.req = some r → c.req = some r
  /-- A Solana wallet's return goes on with a sign-in only for a wallet sign-in that waits, and
  where nothing else does. -/
  signIn : ∀ t ∈ es, WalletReturn t → SignsIn t → t.pre.ssoAttempt = none ∧
    ∃ auth, t.pre.walletAuthDone = some auth ∧ t.pre.waiting = [auth.done]

/-! ### Answers to older flows -/

/-- Only these callbacks are called, and nothing else happens. -/
def TellsOnly (allowed : ℕ → Prop) (s s' : SdkHost) : Prop :=
  ∃ events, s'.log = s.log ++ events ∧ ∀ e ∈ events, ∃ r reply, e = .answer r reply ∧ allowed r

namespace TellsOnly

variable {allowed : ℕ → Prop} {s s' s'' : SdkHost}

lemma of_log (h : s'.log = s.log) : TellsOnly allowed s s' :=
  ⟨[], by rw [h, List.append_nil], nofun⟩

lemma trans (h : TellsOnly allowed s s') (h' : TellsOnly allowed s' s'') :
    TellsOnly allowed s s'' := by
  obtain ⟨events, hlog, hevents⟩ := h
  obtain ⟨events', hlog', hevents'⟩ := h'
  refine ⟨events ++ events', ?_, List.forall_mem_append.2 ⟨hevents, hevents'⟩⟩
  rw [hlog', hlog, List.append_assoc]

lemma answer (s : SdkHost) {r : ℕ} (hr : allowed r) (reply : Reply) :
    TellsOnly allowed s (s.answer r reply) :=
  ⟨[.answer r reply], rfl, List.forall_mem_singleton.2 ⟨r, reply, rfl, hr⟩⟩

variable {req : Option ℕ}

lemma tell (s : SdkHost) (hreq : ∀ r, req = some r → allowed r) (reply : Reply) :
    TellsOnly allowed s (s.tell req reply) := by
  cases req with
  | none => exact of_log rfl
  | some r => exact answer s (hreq r rfl) reply

lemma ends (s : SdkHost) (epoch : ℕ) (a : AuthState) (hreq : ∀ r, req = some r → allowed r)
    (reply : Reply) : TellsOnly allowed s ((s.setRegistrationAuthState epoch a).tell req reply) :=
  (of_log (s.same_setRegistrationAuthState epoch a).log).trans (tell _ hreq reply)

lemma registerNetworkClient (s : SdkHost) (byJwt : Bytes) (epoch flow : ℕ)
    (hreq : ∀ r, req = some r → allowed r)
    (hdeferred : s.run.running = true → ∀ r ∈ s.deferredReq, allowed r) :
    TellsOnly allowed s (s.registerNetworkClient byJwt req epoch flow) := by
  rw [SdkHost.registerNetworkClient]
  dsimp only
  rcases s.run.defer_cases ⟨byJwt, req, epoch, flow⟩ epoch with heq | ⟨-, hrunning, heq⟩
  · rw [heq, if_neg Bool.false_ne_true]
    split_ifs
    · exact tell s hreq _
    · exact of_log rfl
  · rw [heq, if_pos rfl]
    cases hold : s.run.deferred with
    | none => exact of_log rfl
    | some old =>
      refine .trans (of_log rfl) (tell { s with run := _ } (fun r hr => hdeferred hrunning r ?_) _)
      rw [SdkHost.deferredReq, hold]
      exact hr

lemma network_of {a : Answer} (hlost : SdkHost.lostOf a = none) (herror : ¬a.error ≠ [])
    {byJwt : Bytes} (hjwt : a.value.filter (· ≠ []) = some byJwt) : a.network = true := by
  rw [Answer.network, hlost, hjwt, not_not.1 herror]
  rfl

lemma ssoLoggedIn (s : SdkHost) (flow epoch : ℕ) (provider idToken : Bytes) (a : Answer)
    (hreq : ∀ r, req = some r → allowed r)
    (hdeferred : epoch = s.run.epoch → a.network = true → s.run.running = true →
      ∀ r ∈ s.deferredReq, allowed r) :
    TellsOnly allowed s (s.ssoLoggedIn flow req epoch provider idToken a) := by
  rw [SdkHost.ssoLoggedIn]
  split
  · exact tell s hreq _
  next hepoch =>
  split
  · exact ends s epoch _ hreq _
  next hlost =>
  split
  · exact ends s epoch _ hreq _
  next herror =>
  split
  · next hjwt =>
    refine registerNetworkClient s _ epoch flow hreq (hdeferred (not_not.1 hepoch) ?_)
    exact network_of hlost herror hjwt
  · exact .trans (of_log rfl) (ends _ epoch _ hreq _)

lemma networkCreated (s : SdkHost) {req : ℕ} (flow epoch : ℕ) (a : Answer)
    (hreq : ∀ r, some req = some r → allowed r)
    (hdeferred : epoch = s.run.epoch → a.verificationRequired = false → a.network = true →
      s.run.running = true → ∀ r ∈ s.deferredReq, allowed r) :
    TellsOnly allowed s (s.networkCreated flow req epoch a) := by
  rw [SdkHost.networkCreated]
  split
  · exact tell s hreq _
  next hepoch =>
  split
  · exact ends s epoch _ hreq _
  next hlost =>
  split
  · exact ends s epoch _ hreq _
  next herror =>
  split
  · exact ends s epoch _ hreq _
  next hverified =>
  split
  · next hjwt =>
    refine .trans (of_log rfl) (registerNetworkClient _ _ epoch flow hreq ?_)
    exact hdeferred (not_not.1 hepoch) (Bool.eq_false_iff.2 hverified)
      (network_of hlost herror hjwt)
  · exact ends s epoch _ hreq _

lemma complete (s : SdkHost) (epoch : ℕ) (r : AuthResult) (hreq : ∀ r, req = some r → allowed r) :
    TellsOnly allowed s (s.complete req epoch r) := by
  rw [SdkHost.complete]
  split
  · exact tell s hreq _
  · exact .trans (of_log rfl) (tell _ hreq _)

lemma registered (env : Env) (s : SdkHost) (epoch : ℕ) (a : Answer)
    (hreq : ∀ r, req = some r → allowed r) :
    TellsOnly allowed s (s.registered env req epoch a) := by
  rw [SdkHost.registered]
  split
  · exact complete s epoch _ hreq
  split
  · exact complete s epoch _ hreq
  split
  · exact complete s epoch _ hreq
  split
  · exact tell s hreq _
  split
  · exact complete s epoch _ hreq
  · exact complete s epoch _ hreq

end TellsOnly

lemma tellsOnly_answered (sdk : Sdk) (env : Env) (s : SdkHost) {call : Call}
    (hflow : call.flow ≠ s.flows) (a : Answer)
    (hdeferred : call.signsIn s.run.epoch a = true → s.run.running = true →
      ∀ r ∈ s.deferredReq, call.req = some r) :
    TellsOnly (call.req = some ·) s (s.answered sdk env a call) := by
  have hown : ∀ r, call.req = some r → call.req = some r := fun _ => id
  cases call with
  | walletChallenge flow | proofChallenge flow serial =>
    exact .of_log (congrArg SdkHost.log (if_pos hflow))
  | addChallenge flow req p =>
    rw [show s.answered sdk env a (.addChallenge flow req p) = _ from if_pos hflow]
    exact .answer s (hown req rfl) _
  | createChallenge flow req epoch identity =>
    rw [show s.answered sdk env a (.createChallenge flow req epoch identity) = _ from if_pos hflow]
    exact .answer s (hown req rfl) _
  | walletLogin flow epoch w => exact .of_log (congrArg SdkHost.log (if_pos (.inr hflow)))
  | ssoLogin flow req epoch provider idToken =>
    refine .ssoLoggedIn s _ epoch _ _ a hown fun hepoch hnetwork => hdeferred ?_
    rw [Call.signsIn, hnetwork, decide_eq_true hepoch]
    rfl
  | networkCreate flow req epoch =>
    refine .networkCreated s _ epoch a hown fun hepoch hverified hnetwork => hdeferred ?_
    rw [Call.signsIn, hnetwork, hverified, decide_eq_true hepoch]
    rfl
  | register flow req epoch => exact .registered env s epoch a hown

lemma tellsOnly_step {sdk : Sdk} {env : Env} {s s' : SdkHost} {i : ℕ} {again : Bool} {a : Answer}
    {c : Call} (h : hostStep sdk s (.answered i again a, env) = some s') (hc : s.calls[i]? = some c)
    (hflow : c.flow ≠ s.flows) (hnone : s.NoneOvertaken (.answered i again a)) :
    TellsOnly (c.req = some ·) s s' := by
  obtain ⟨call, hcall, rfl⟩ := Option.map_eq_some_iff.1 h
  cases hcall.symm.trans hc
  exact tellsOnly_answered sdk env (s.asked i again) hflow a (hnone c hc hflow)

/-! ### Wallet returns -/

/-- No challenge of a sign-in is asked for, and no signature of one is sent. -/
structure NoSignIn (s s' : SdkHost) : Prop where
  calls : ∃ calls, s'.calls = s.calls ++ calls ∧ ∀ flow, Call.walletChallenge flow ∉ calls
  log : ∃ events, s'.log = s.log ++ events ∧ ∀ auth, Event.walletLogin auth ∉ events

namespace NoSignIn

variable {s s' s'' : SdkHost}

lemma of_eq (hcalls : s'.calls = s.calls) (hlog : s'.log = s.log) : NoSignIn s s' :=
  ⟨⟨[], by rw [hcalls, List.append_nil], fun _ => List.not_mem_nil⟩,
    ⟨[], by rw [hlog, List.append_nil], fun _ => List.not_mem_nil⟩⟩

lemma refl (s : SdkHost) : NoSignIn s s := of_eq rfl rfl

lemma trans (h : NoSignIn s s') (h' : NoSignIn s' s'') : NoSignIn s s'' := by
  obtain ⟨⟨calls, hcalls, hnone⟩, events, hevents, hnever⟩ := h
  obtain ⟨⟨calls', hcalls', hnone'⟩, events', hevents', hnever'⟩ := h'
  refine ⟨⟨calls ++ calls', ?_, fun flow hmem => ?_⟩, events ++ events', ?_, fun auth hmem => ?_⟩
  · rw [hcalls', hcalls, List.append_assoc]
  · exact (List.mem_append.1 hmem).elim (hnone flow) (hnone' flow)
  · rw [hevents', hevents, List.append_assoc]
  · exact (List.mem_append.1 hmem).elim (hnever auth) (hnever' auth)

lemma after (h : NoSignIn s' s'') (hcalls : s'.calls = s.calls) (hlog : s'.log = s.log) :
    NoSignIn s s'' :=
  (of_eq hcalls hlog).trans h

lemma did (s : SdkHost) {event : Event} (h : ∀ auth, event ≠ .walletLogin auth) :
    NoSignIn s (s.did event) :=
  ⟨⟨[], (List.append_nil _).symm, fun _ => List.not_mem_nil⟩, [event], rfl,
    fun auth hmem => h auth (List.mem_singleton.1 hmem).symm⟩

lemma answer (s : SdkHost) (req : ℕ) (reply : Reply) : NoSignIn s (s.answer req reply) :=
  did s nofun

lemma setRegistrationAuthState (s : SdkHost) (epoch : ℕ) (a : AuthState) :
    NoSignIn s (s.setRegistrationAuthState epoch a) :=
  of_eq (s.same_setRegistrationAuthState epoch a).calls
    (s.same_setRegistrationAuthState epoch a).log

lemma submitCreateNetwork (s : SdkHost) (auth : WalletAuth) (req epoch : ℕ) :
    NoSignIn s (s.submitCreateNetwork auth req epoch) := by
  rw [SdkHost.submitCreateNetwork]
  split
  · exact answer s req _
  · have hdid : NoSignIn s (s.did (.networkCreate auth)) := did s (by rintro _ ⟨⟩)
    refine hdid.trans ⟨⟨[_], rfl, fun flow hmem => ?_⟩, ?_⟩
    · cases List.mem_singleton.1 hmem
    · exact (of_eq rfl rfl).log

lemma runSignDone (s : SdkHost) (done : SignDone) (ok : Bool) (publicKey signature error : Bytes) :
    NoSignIn s (s.runSignDone done ok publicKey signature error) := by
  cases done with
  | answer req => exact answer s req _
  | added req message =>
    rw [SdkHost.runSignDone]
    split <;> exact answer s req _
  | create req epoch identity message =>
    rw [SdkHost.runSignDone]
    split
    · exact (setRegistrationAuthState s epoch _).trans (answer _ req _)
    split
    · exact (setRegistrationAuthState s epoch _).trans (answer _ req _)
    · exact submitCreateNetwork s _ req epoch

lemma runProofDone (s : SdkHost) (w : Waiting ProofDone) (error code : Bytes) :
    NoSignIn s (s.runProofDone w (.refused error code)) := by
  obtain ⟨done, flow⟩ := w
  cases done with
  | signIn epoch =>
    simp only [SdkHost.runProofDone]
    split
    · exact refl s
    split
    · exact refl s
    · exact .after ((setRegistrationAuthState _ epoch _).trans (answer _ _ _)) rfl rfl
  | create req epoch identity =>
    simp only [SdkHost.runProofDone]
    split
    · exact answer s req _
    · exact (setRegistrationAuthState s epoch _).trans (answer _ req _)
  | added req | answer req | consent req => exact answer s req _

lemma onError (s : SdkHost) (err : Bytes) : NoSignIn s (s.onError err) := by
  rw [SdkHost.onError]
  -- one slot after another is asked who waits
  split
  · rw [SdkHost.finishBittensorProof, if_neg (not_not.2 rfl)]
    dsimp only
    split
    · exact of_eq rfl rfl
    · exact (runProofDone _ _ err []).after rfl rfl
  split
  · exact (answer _ _ _).after rfl rfl
  split
  · exact (runSignDone _ _ false [] [] err).after rfl rfl
  split
  · exact (answer _ _ _).after rfl rfl
  split
  · exact refl s
  · exact (answer _ _ _).after rfl rfl

lemma openUrl (env : Env) (s : SdkHost) (page : Browsed) : NoSignIn s (s.openUrl env page) := by
  rw [SdkHost.openUrl]
  split
  · exact did s (by rintro _ ⟨⟩)
  · exact onError s _

lemma signMessage (sdk : Sdk) (env : Env) (s : SdkHost) : NoSignIn s (s.signMessage sdk env) := by
  rw [SdkHost.signMessage]
  split
  · exact onError s _
  split
  · exact onError s _
  split
  · exact onError s _
  · exact openUrl env s _

lemma onPublicKey (sdk : Sdk) (env : Env) (s : SdkHost) (publicKey : Bytes) (p : Provider) :
    NoSignIn s (s.onPublicKey sdk env publicKey p) ∨ s.walletSignInWaiting = true := by
  rw [SdkHost.onPublicKey]
  split
  · exact .inl (refl s)
  · split
    · exact .inl (refl s)
    · exact .inl ((answer _ _ _).after rfl rfl)
  · exact .inl (signMessage sdk env s)
  · next hroute =>
    -- `RoutePublicKey` names a sign-in only where one waits
    refine .inr ?_
    revert hroute
    cases decide (p = .bittensor) <;> cases s.walletConnectDone.isSome <;>
      cases s.walletSignDone.isSome <;> cases s.walletSignInWaiting <;> decide

lemma onSignature (s : SdkHost) (publicKey signature : Bytes) (p : Provider) :
    NoSignIn s (s.onSignature publicKey signature p) ∨ s.walletSignInWaiting = true := by
  rw [SdkHost.onSignature]
  split
  · exact .inl (refl s)
  · split
    · exact .inl (refl s)
    · exact .inl ((runSignDone _ _ true publicKey signature []).after rfl rfl)
  · next hroute =>
    refine .inr ?_
    revert hroute
    cases s.walletSignDone.isSome <;> cases s.walletSignInWaiting <;> decide

lemma handleReturn (sdk : Sdk) (env : Env) (w : WalletConnect) (s : SdkHost) (p : Provider)
    (url : Bytes) :
    NoSignIn s (s.reported sdk env (w.handleReturn sdk p url).2) ∨
      s.walletSignInWaiting = true := by
  rw [WalletConnect.handleReturn]
  split
  · rcases w.handleConnect_cases sdk p (urlQuery url) with ⟨said, -, heq⟩ | ⟨-, err, heq⟩
    · rw [heq]
      exact onPublicKey sdk env s said.1 p
    · rw [heq]
      exact .inl (onError s err)
  · rcases w.handleSignMessage_cases sdk p (urlQuery url) with ⟨said, -, heq⟩ | ⟨-, err, heq⟩
    · rw [heq]
      exact onSignature s said.1 said.2 p
    · rw [heq]
      exact .inl (onError s err)

lemma handleDeepLink (sdk : Sdk) (env : Env) (s : SdkHost) {url : Bytes}
    (h : providerForHost (urlHost url) = some .phantom ∨
      providerForHost (urlHost url) = some .solflare) :
    NoSignIn s (s.handleDeepLink sdk env url) ∨ s.walletSignInWaiting = true := by
  have hhost : urlHost url ≠ kOAuthReturnHost := by
    intro hhost
    rw [hhost] at h
    exact absurd h (by decide)
  have hreport : ∀ p, s.wallet.handleDeepLink sdk url =
      ((s.wallet.handleReturn sdk p url).1, some (s.wallet.handleReturn sdk p url).2) →
      NoSignIn s (s.handleDeepLink sdk env url) ∨ s.walletSignInWaiting = true := by
    intro p heq
    rw [SdkHost.handleDeepLink, heq]
    split
    · exact .inl (refl s)
    · refine (handleReturn sdk env s.wallet
        { s with wallet := (s.wallet.handleReturn sdk p url).1 } p url).imp_left fun hnone => ?_
      exact hnone.after rfl rfl
  rcases h with h | h
  · refine hreport .phantom ?_
    rw [WalletConnect.handleDeepLink, if_neg hhost, h]
  · refine hreport .solflare ?_
    rw [WalletConnect.handleDeepLink, if_neg hhost, h]

lemma not_signsIn {t : Transition SdkHost (Act × Env)} (h : NoSignIn t.pre t.post) :
    ¬SignsIn t := by
  obtain ⟨⟨calls, hcalls, hnone⟩, happened, hlog, hnever⟩ := h
  rintro (⟨flow, hflow⟩ | ⟨auth, hauth⟩)
  · obtain rfl := List.append_cancel_left (hcalls.symm.trans hflow)
    exact hnone flow (List.mem_singleton_self _)
  · rw [events, hlog, List.drop_left] at hauth
    exact hnever auth hauth

end NoSignIn

/-! ### Runs -/

namespace Kept

variable {s : SdkHost}

lemma count_told (h : Kept s) (r : ℕ) : s.told.count r ≤ 1 := by
  have hheld := h.held r
  rw [SdkHost.held] at hheld
  simp only [List.count_append] at hheld
  omega

lemma length_waiting (h : Kept s) : s.waiting.length ≤ 1 :=
  (Nat.le_add_right _ _).trans h.load

lemma waiting_of_auth (h : Kept s) {auth : Waiting ℕ} (hauth : s.walletAuthDone = some auth) :
    s.waiting = [auth.done] := by
  have hlength := h.length_waiting
  rw [s.waiting_eq, hauth] at hlength ⊢
  simp only [List.length_append, Option.map_some, Option.toList_some, List.length_singleton]
    at hlength
  simp only [Option.map_some, Option.toList_some]
  refine (congrArg (· ++ [auth.done]) (List.eq_nil_of_length_eq_zero ?_)).trans (List.nil_append _)
  simp only [List.length_append]
  omega

end Kept

/-- The runs in which each call that brings a callback is answered once, and no login of an older
flow overtakes a sign-in that waits for a sign-out. -/
abbrev SdkHost.CondRuns (sdk : Sdk) : List (Transition SdkHost (Act × Env)) → SdkHost → Prop :=
  SdkHost.Runs sdk fun s l => s.Once l.1 ∧ s.NoneOvertaken l.1

/-- **Every browser or wallet request is answered at most once, and never left behind by a newer
flow**, where no older flow's login signs in over a newer sign-in. -/
theorem requests_answered {sdk : Sdk} {es : List (Transition SdkHost (Act × Env))} {s : SdkHost}
    (h : SdkHost.CondRuns sdk es s) : Answered es s := by
  have hkept := Kept.of_run h fun _ _ hcond => hcond.1
  constructor
  case once => exact hkept.count_told
  case one =>
    exact fun x hx y hy => (hkept.begun.slots x hx).trans (hkept.begun.slots y hy).symm
  case superseded =>
    intro t ht hflows
    obtain ⟨es₁, es₂, rfl⟩ := List.append_of_mem ht
    obtain ⟨hrun, hstep, -⟩ := h.split rfl
    cases SdkHost.stepped (Begun.of_run hrun).slots hstep with
    | stays issues once moves calm => exact absurd (moves.flows.trans issues.quiet.flows) hflows
    | @starts copied hand u v w issues once same superseded attempt moves arms =>
      obtain ⟨told, hlog, htold⟩ := superseded.log
      obtain ⟨rest, hrest⟩ := moves.log
      have hw : w.log = t.pre.log ++ told := by rw [hlog, same.log, issues.log]
      refine ⟨told, rest, ?_, ?_⟩
      · rw [events, ← hrest, hw, List.append_assoc, List.drop_left]
      · rw [same.waiting, SdkHost.waiting, issues.quiet.slots] at htold
        exact htold
  case stale =>
    intro t ht c hc hflow
    obtain ⟨es₁, es₂, rfl⟩ := List.append_of_mem ht
    obtain ⟨hrun, hstep, -, hnone⟩ := h.split rfl
    obtain ⟨s₁, ⟨act, env⟩, s₂⟩ := t
    cases act with
    | answered i again a =>
      obtain ⟨told, hlog, htold⟩ := tellsOnly_step hstep hc hflow hnone
      intro e he
      rw [events, hlog, List.drop_left] at he
      obtain ⟨r, reply, rfl, hr⟩ := htold e he
      exact ⟨rfl, fun r' hr' => Option.some.inj hr' ▸ hr⟩
    | _ => exact absurd hc (Option.some_ne_none c).symm
  case signIn =>
    intro t ht hreturn hsigns
    obtain ⟨es₁, es₂, rfl⟩ := List.append_of_mem ht
    obtain ⟨hrun, hstep, -⟩ := h.split rfl
    obtain ⟨s₁, ⟨act, env⟩, s₂⟩ := t
    obtain ⟨url, rfl, hhost⟩ := hreturn
    have hpost : s₁.handleDeepLink sdk env url = s₂ := Option.some.inj hstep
    have hlink := NoSignIn.handleDeepLink sdk env s₁ hhost
    rw [hpost] at hlink
    rcases hlink with hnone | hwaits
    · exact absurd hsigns hnone.not_signsIn
    · rw [SdkHost.walletSignInWaiting, Bool.and_eq_true] at hwaits
      obtain ⟨auth, hauth⟩ := Option.isSome_iff_exists.1 hwaits.1
      have hbefore := Kept.of_run hrun fun _ _ hcond => hcond.1
      exact ⟨Option.isNone_iff_eq_none.1 hwaits.2, auth, hauth, hbefore.waiting_of_auth hauth⟩

/-- The sign-in opened, and its answer came. -/
def signedInWith (a : Attempted) : List (Act × Env) :=
  [(.signInWithSso (narrow "google"), a.env), (.deepLink a.link, {})]

/-- A login that finds a network. -/
def loggedInBy (i : ℕ) : Act × Env := (.answered i false { value := some (narrow "jwt") }, {})

theorem requests_answered_superseded : ∃ es s, Answered es s ∧ s.told = [0] ∧ s.waiting = [1] := by
  obtain ⟨es, s, hrun, hgood⟩ := @Run.exists_of_cond _ _ (hostStep googleSdk)
    (fun s l => s.Once l.1 ∧ s.NoneOvertaken l.1) _ {}
    [(.connectSolanaWallet .phantom, {}), (.signInWithSso (narrow "google"), firstAttempt.env)]
    (fun s => decide (s.told = [0] ∧ s.waiting = [1])) (by decide +kernel)
  exact ⟨es, s, requests_answered hrun, of_decide_eq_true hgood⟩

/-- The first login of an older flow takes the place of a later flow's. -/
def overtaken (s : SdkHost) : Bool :=
  s.calls[0]?.any (fun c => decide (c.flow ≠ s.flows ∧ c.req = some 0)) &&
    (hostStep googleSdk s (loggedInBy 0)).any fun s' => decide
      (s'.log = s.log ++ [.answer 1 (failed (narrow "a newer sign-in replaced this one"))])

/-- **An older login overtakes.**  Behind a sign-out the login of a superseded flow, answered after
the newer flow's, tells the newer flow's request that it was replaced. -/
theorem older_login_overtakes :
    ∃ es s, SdkHost.Runs googleSdk (fun s l => s.Once l.1) es s ∧ ¬Answered es s := by
  obtain ⟨es, s, hrun, hgood⟩ := @Run.exists_of_cond _ _ (hostStep googleSdk)
    (fun s l => s.Once l.1) _ {}
    (((.logout, {}) : Act × Env) :: signedInWith firstAttempt ++ signedInWith secondAttempt ++
      [loggedInBy 1])
    overtaken (by decide +kernel)
  rw [overtaken, Bool.and_eq_true, Option.any_eq_true, Option.any_eq_true] at hgood
  obtain ⟨⟨c, hc, hstale⟩, s', hstep, hlog⟩ := hgood
  obtain ⟨hflow, hreq⟩ := of_decide_eq_true hstale
  refine ⟨es ++ [⟨s, loggedInBy 0, s'⟩], s', hrun.snoc ⟨hstep, nofun⟩, fun h => ?_⟩
  have htold : .answer 1 (failed (narrow "a newer sign-in replaced this one")) ∈
      events ⟨s, loggedInBy 0, s'⟩ := by
    rw [events, of_decide_eq_true hlog, List.drop_left]
    exact List.mem_singleton_self _
  have hown := (h.stale _ List.mem_concat_self c hc hflow _ htold).2 1 rfl
  exact absurd (hreq.symm.trans hown) (by decide)

end UrnetworkWindows.Browser
