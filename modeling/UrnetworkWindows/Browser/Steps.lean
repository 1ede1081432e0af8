/-
Starting a flow, and every step of the host.

A step goes on from a new request or from the callback of the call that is answered, and starts at
most one flow, which first tells everything that waits (`Superseded`, `stepped`).  So a request's
callback is in one place at a time, and what waits was put there by the flow that started last
(`Kept`).
-/
import UrnetworkWindows.Browser.Requests

namespace UrnetworkWindows.Browser

open Lib
open SignOut (SignOutRun)

/-! ### Starting a flow -/

/-- `kSupersededPrefix`. -/
def kSupersededPrefix : Bytes := narrow "superseded by "

/-- A callback is told that its request is superseded, and no more. -/
def Superseding (e : Event) : Prop :=
  ∃ req reply, e = .answer req reply ∧ kSupersededPrefix <+: reply.error ∧ reply.identity = none

/-- The callbacks of these requests are told so, and nothing else happens. -/
def Supersedes (reqs : List ℕ) (events : List Event) : Prop :=
  events.filterMap Event.req = reqs ∧ ∀ e ∈ events, Superseding e

/-- The host told everything that waited, and the slots are empty. -/
structure Superseded (s s' : SdkHost) : Prop where
  flows : s'.flows = s.flows + 1
  attempt : s'.ssoAttempt = none
  session : s'.bittensorSession = none
  slots : s'.slots = []
  calls : s'.calls = s.calls
  run : s'.run = s.run
  requests : s'.requests = s.requests
  log : ∃ events, s'.log = s.log ++ events ∧ Supersedes s.waiting events

/-- Every callback in a slot was put there by the flow that started last. -/
def SdkHost.SlotsCurrent (s : SdkHost) : Prop := ∀ x ∈ s.slots, x.2 = s.flows

namespace Supersedes

variable {reqs reqs' : List ℕ} {events events' : List Event}

lemma nil : Supersedes [] [] := ⟨rfl, nofun⟩

lemma answer {req : ℕ} {reply : Reply} (h : kSupersededPrefix <+: reply.error)
    (hidentity : reply.identity = none) : Supersedes [req] [.answer req reply] :=
  ⟨rfl, List.forall_mem_singleton.2 ⟨req, reply, rfl, h, hidentity⟩⟩

lemma append (h : Supersedes reqs events) (h' : Supersedes reqs' events') :
    Supersedes (reqs ++ reqs') (events ++ events') := by
  refine ⟨?_, List.forall_mem_append.2 ⟨h.2, h'.2⟩⟩
  rw [List.filterMap_append, h.1, h'.1]

end Supersedes

namespace SdkHost

variable {s : SdkHost} {reason : Bytes}

lemma ne_nil_of_superseded (h : kSupersededPrefix <+: reason) : reason ≠ [] := by
  rintro rfl
  exact absurd (List.prefix_nil.1 h) (by decide)

lemma cancelConnect_eq (s : SdkHost) (h : kSupersededPrefix <+: reason) :
    ∃ events, Supersedes (s.walletConnectDone.map Waiting.done).toList events ∧
      s.cancelConnect reason = { s with
        walletConnectDone := none
        log := s.log ++ events } := by
  rw [cancelConnect]
  cases hconnect : s.walletConnectDone with
  | none =>
    refine ⟨[], .nil, ?_⟩
    show s = _
    rw [List.append_nil, ← hconnect]
  | some w => exact ⟨[.answer w.done (.connected false [] reason)], .answer h rfl, rfl⟩

lemma cancelAdd_eq (s : SdkHost) (h : kSupersededPrefix <+: reason) :
    ∃ events, Supersedes (s.ssoAddDone.map Waiting.done).toList events ∧
      s.cancelAdd reason = { s with
        ssoAddDone := none
        log := s.log ++ events } := by
  rw [cancelAdd]
  cases hadd : s.ssoAddDone with
  | none =>
    refine ⟨[], .nil, ?_⟩
    show s = _
    rw [List.append_nil, ← hadd]
  | some w => exact ⟨[.answer w.done (.token [] reason)], .answer h rfl, rfl⟩

lemma cancelAuth_eq (s : SdkHost) (h : kSupersededPrefix <+: reason) :
    ∃ events, Supersedes (s.walletAuthDone.map Waiting.done).toList events ∧
      s.cancelAuth reason = { s with
        walletAuthDone := none
        log := s.log ++ events } := by
  rw [cancelAuth]
  cases hauth : s.walletAuthDone with
  | none =>
    refine ⟨[], .nil, ?_⟩
    show s = _
    rw [List.append_nil, ← hauth]
  | some w => exact ⟨[.answer w.done (failed reason)], .answer h rfl, rfl⟩

lemma setRegistrationAuthState_eq (s : SdkHost) (epoch : ℕ) (a : AuthState) :
    ∃ authState, s.setRegistrationAuthState epoch a = { s with authState } := by
  rw [setRegistrationAuthState]
  split
  · exact ⟨a, rfl⟩
  · exact ⟨s.authState, rfl⟩

lemma cancelSign_eq (s : SdkHost) (h : kSupersededPrefix <+: reason) :
    ∃ authState events, Supersedes (s.walletSignDone.map (·.done.req)).toList events ∧
      s.cancelSign reason = { s with
        walletSignDone := none
        authState
        log := s.log ++ events } := by
  rw [cancelSign]
  cases hsign : s.walletSignDone with
  | none =>
    refine ⟨s.authState, [], .nil, ?_⟩
    show s = _
    rw [List.append_nil, ← hsign]
  | some w =>
    obtain ⟨done, flow⟩ := w
    cases done with
    | answer req => exact ⟨_, [.answer req (.signed false [] [] reason)], .answer h rfl, rfl⟩
    | added req message => exact ⟨_, [.answer req (.added [] [] [] reason)], .answer h rfl, rfl⟩
    | create req epoch identity message =>
      obtain ⟨authState, heq⟩ :=
        setRegistrationAuthState_eq { s with walletSignDone := none } epoch .loggedOut
      refine ⟨authState, [.answer req (failed reason)], .answer h rfl, ?_⟩
      show ({ s with walletSignDone := none }.setRegistrationAuthState epoch .loggedOut).answer req
        (failed (if reason = [] then narrow "wallet signing failed" else reason)) = _
      rw [if_neg (ne_nil_of_superseded h), heq]
      rfl

lemma cancelProof_eq (s : SdkHost) (h : kSupersededPrefix <+: reason)
    (hflow : ∀ w, s.bittensorDone = some w → w.flow ≠ s.flows) :
    ∃ events, Supersedes (s.bittensorDone.bind (·.done.req)).toList events ∧
      s.cancelProof reason = { s with
        bittensorDone := none
        bittensorSession := none
        bittensorSerial := s.bittensorSerial + 1
        log := s.log ++ events } := by
  rw [cancelProof]
  cases hproof : s.bittensorDone with
  | none =>
    refine ⟨[], .nil, ?_⟩
    rw [List.append_nil]
  | some w =>
    have hstale := hflow w hproof
    obtain ⟨done, flow⟩ := w
    cases done with
    | signIn epoch =>
      refine ⟨[], .nil, ?_⟩
      rw [List.append_nil]
      exact if_pos (.inl hstale)
    | create req epoch identity =>
      exact ⟨[.answer req (failed reason)], .answer h rfl, if_pos hstale⟩
    | added req => exact ⟨[.answer req (.added [] [] [] reason)], .answer h rfl, rfl⟩
    | answer req => exact ⟨[.answer req (.proved false [] [] [] reason)], .answer h rfl, rfl⟩
    | consent req => exact ⟨[.answer req (.consented false [] [] [] [] reason)], .answer h rfl, rfl⟩

lemma SlotsCurrent.proof (hs : s.SlotsCurrent) {w : Waiting ProofDone}
    (hw : s.bittensorDone = some w) : w.flow = s.flows := by
  refine hs (w.done.req, w.flow) ?_
  rw [slots, hw]
  simp

lemma waiting_eq (s : SdkHost) :
    s.waiting = (s.bittensorDone.bind (·.done.req)).toList ++
      (s.walletConnectDone.map Waiting.done).toList ++ (s.walletSignDone.map (·.done.req)).toList ++
      (s.ssoAddDone.map Waiting.done).toList ++ (s.walletAuthDone.map Waiting.done).toList := by
  rw [waiting, slots]
  simp only [List.filterMap_append]
  congr 1
  · congr 1
    · congr 1
      · congr 1
        · cases s.bittensorDone with
          | none => rfl
          | some w => cases hreq : w.done.req <;> simp [hreq]
        · cases s.walletConnectDone <;> rfl
      · cases s.walletSignDone <;> rfl
    · cases s.ssoAddDone <;> rfl
  · cases s.walletAuthDone <;> rfl

theorem superseded_cancel (hs : s.SlotsCurrent) (h : kSupersededPrefix <+: reason) :
    Superseded s (s.cancelPendingWalletFlows reason) := by
  rw [cancelPendingWalletFlows]
  obtain ⟨events₁, hevents₁, heq⟩ := cancelProof_eq
    { s with
      flows := s.flows + 1
      ssoAttempt := none } h fun w hw => by
        have hflow : w.flow = s.flows := hs.proof hw
        show w.flow ≠ s.flows + 1
        omega
  rw [heq]
  obtain ⟨events₂, hevents₂, heq⟩ := cancelConnect_eq _ h
  rw [heq]
  obtain ⟨authState, events₃, hevents₃, heq⟩ := cancelSign_eq _ h
  rw [heq]
  obtain ⟨events₄, hevents₄, heq⟩ := cancelAdd_eq _ h
  rw [heq]
  obtain ⟨events₅, hevents₅, heq⟩ := cancelAuth_eq _ h
  rw [heq]
  have hevents := (((hevents₁.append hevents₂).append hevents₃).append hevents₄).append hevents₅
  refine ⟨rfl, rfl, rfl, rfl, rfl, rfl, rfl, events₁ ++ events₂ ++ events₃ ++ events₄ ++ events₅,
    ?_, ?_, hevents.2⟩
  · simp only [List.append_assoc]
  · rw [hevents.1, waiting_eq]

end SdkHost

/-! ### Steps -/

/-- A step goes on from a new request, or from the callback of the call that is answered, which is
copied where the call may be answered again. -/
structure Issues (s : SdkHost) (copied hand : List ℕ) (t : SdkHost) : Prop where
  held : ∀ r, hand.count r + t.held.count r ≤
    s.held.count r + copied.count r + if s.requests ≤ r ∧ r < t.requests then 1 else 0
  copied : copied ⊆ s.calls.filterMap Call.req
  one : hand.length ≤ 1
  quiet : Quiet s t
  requests : s.requests ≤ t.requests
  epoch : t.run.epoch = s.run.epoch
  calls : t.calls ⊆ s.calls
  log : t.log = s.log

/-- The step is a link's, or an answer that the flow that started last waits for. -/
inductive Engages (s : SdkHost) : Act → Prop
  | link (url : Bytes) : Engages s (.deepLink url)
  | answer {i : ℕ} {call : Call} (again : Bool) (a : Answer) (h : s.calls[i]? = some call)
      (hchecks : call.checks = true) (hflow : call.flow = s.flows) : Engages s (.answered i again a)

/-- A call that brings a request's callback is answered once. -/
def SdkHost.Once (s : SdkHost) : Act → Prop
  | .answered i again _ => again = true → ∀ c ∈ s.calls[i]?, c.req = none
  | _ => True

instance SdkHost.decidableOnce (s : SdkHost) (act : Act) : Decidable (s.Once act) := by
  cases act <;> unfold SdkHost.Once <;> infer_instance

/-- The step may arm an attempt. -/
def Act.arms : Act → Bool
  | .signInWithSso _ | .ssoTokenForAdd _ => true
  | _ => false

/-- What a step does with callbacks: it starts no flow, or one flow. -/
inductive Stepped (s : SdkHost) (act : Act) (s' : SdkHost) : Prop
  | stays {copied hand : List ℕ} {t : SdkHost} (issues : Issues s copied hand t)
      (once : s.Once act → copied = []) (moves : Moves hand t [] s')
      (calm : Quiet s s' ∨ Engages s act ∧ (s.Once act → s'.load ≤ s.load))
  | starts {copied hand : List ℕ} {t u v : SdkHost} (issues : Issues s copied hand t)
      (once : s.Once act → copied = []) (same : SameHolders t u) (superseded : Superseded u v)
      {attempt : Option SsoAttempt}
      (moves : Moves hand { v with ssoAttempt := attempt } [] s')
      (arms : attempt = none ∨ act.arms = true)

lemma Stepped.quiet {s s' t : SdkHost} {act : Act} {copied hand : List ℕ}
    (issues : Issues s copied hand t) (once : s.Once act → copied = [])
    (moves : Moves hand t [] s') (h : Quiet t s') : Stepped s act s' :=
  .stays issues once moves (.inl (issues.quiet.trans h))

namespace Issues

variable {s t u : SdkHost} {copied hand : List ℕ}

lemma self (s : SdkHost) : Issues s [] [] s where
  held r := by rw [List.count_nil]; omega
  copied := List.nil_subset _
  one := Nat.zero_le _
  quiet := .refl s
  requests := le_rfl
  epoch := rfl
  calls := fun _ h => h
  log := rfl

lemma request (s : SdkHost) : Issues s [] [s.requests] s.request where
  held r := by
    have hheld : s.request.held = s.held := rfl
    have hrequests : s.request.requests = s.requests + 1 := rfl
    rw [hheld, hrequests, List.count_singleton, List.count_nil]
    simp only [beq_iff_eq]
    split_ifs <;> omega
  copied := List.nil_subset _
  one := le_rfl
  quiet := by constructor <;> rfl
  requests := Nat.le_succ _
  epoch := rfl
  calls := fun _ h => h
  log := rfl

lemma erase_perm {i : ℕ} {c : Call} (h : s.calls[i]? = some c) :
    (c :: s.calls.eraseIdx i).Perm s.calls := by
  obtain ⟨hi, rfl⟩ := List.getElem?_eq_some_iff.1 h
  exact List.getElem_cons_eraseIdx_perm hi

lemma asked {i : ℕ} {c : Call} (h : s.calls[i]? = some c) (again : Bool) :
    Issues s (if again then c.req.toList else []) c.req.toList (s.asked i again) where
  held r := by
    have hcount := ((erase_perm h).filterMap Call.req).count_eq r
    have hcons : (c :: s.calls.eraseIdx i).filterMap Call.req =
        c.req.toList ++ (s.calls.eraseIdx i).filterMap Call.req := by
      cases hreq : c.req <;> simp [hreq]
    rw [hcons, List.count_append] at hcount
    have hwaiting : (s.asked i again).waiting = s.waiting := rfl
    have htold : (s.asked i again).told = s.told := rfl
    have hrun : (s.asked i again).run = s.run := rfl
    rw [SdkHost.held, SdkHost.held, hwaiting, htold, hrun, SdkHost.asked]
    cases again with
    | true =>
      simp only [List.count_append, if_true]
      omega
    | false =>
      simp only [List.count_append, List.count_nil, Bool.false_eq_true, if_false]
      omega
  copied := by
    intro r hr
    cases again with
    | true =>
      exact List.mem_filterMap.2 ⟨c, List.mem_of_getElem? h, by simpa using hr⟩
    | false => exact absurd hr List.not_mem_nil
  one := by cases c.req <;> simp
  quiet := by
    constructor
    case calls =>
      cases again with
      | true => exact .refl _
      | false => exact (List.eraseIdx_sublist _ _).filter _
    all_goals rfl
  requests := le_rfl
  epoch := rfl
  calls := by
    cases again with
    | true => exact fun _ hc => hc
    | false => exact List.eraseIdx_subset
  log := rfl

lemma load_erase {i : ℕ} {c : Call} (h : s.calls[i]? = some c) (hasks : c.asks = true)
    (hflow : c.flow = s.flows) : 1 + (s.asked i false).load = s.load := by
  have hcount := (erase_perm h).countP_eq fun c => c.asks && decide (c.flow = s.flows)
  rw [List.countP_cons, hasks, hflow] at hcount
  have hwaiting : (s.asked i false).waiting = s.waiting := rfl
  simp only [decide_true, Bool.and_true, if_true] at hcount
  rw [SdkHost.load, SdkHost.load, hwaiting, ← hcount]
  exact Nat.add_left_comm 1 _ _ |>.trans (congrArg _ (Nat.add_comm 1 _))

lemma slotsCurrent (h : Issues s copied hand t) (hs : s.SlotsCurrent) (same : SameHolders t u) :
    u.SlotsCurrent := by
  intro x hx
  rw [same.flows, h.quiet.flows]
  rw [same.slots, h.quiet.slots] at hx
  exact hs x hx

lemma start_arming {s' : SdkHost} {act : Act} (h : Issues s copied hand t)
    (honce : s.Once act → copied = []) (hs : s.SlotsCurrent) (same : SameHolders t u)
    {reason : Bytes} (hreason : kSupersededPrefix <+: reason)
    {attempt : Option SsoAttempt}
    (hmoves : Moves hand { u.cancelPendingWalletFlows reason with ssoAttempt := attempt } [] s')
    (harms : act.arms = true) : Stepped s act s' :=
  .starts h honce same (SdkHost.superseded_cancel (h.slotsCurrent hs same) hreason) hmoves
    (.inr harms)

lemma start {s' : SdkHost} {act : Act} (h : Issues s copied hand t)
    (honce : s.Once act → copied = []) (hs : s.SlotsCurrent) (same : SameHolders t u)
    {reason : Bytes} (hreason : kSupersededPrefix <+: reason)
    (hmoves : Moves hand (u.cancelPendingWalletFlows reason) [] s') : Stepped s act s' := by
  have hsuperseded := SdkHost.superseded_cancel (h.slotsCurrent hs same) hreason
  have heq :=
    congrArg (fun attempt => { u.cancelPendingWalletFlows reason with ssoAttempt := attempt })
    hsuperseded.attempt
  exact .starts h honce same hsuperseded (heq ▸ hmoves) (.inl rfl)

end Issues

/-! ### Every step -/

namespace SdkHost

variable {sdk : Sdk} {env : Env} {s : SdkHost}

lemma same_authenticating (t : SdkHost) (epoch : ℕ) (jwt : Option (Bytes × Bytes)) :
    SameHolders t { t.setRegistrationAuthState epoch .authenticating with
      pendingAuthJwt := jwt
      pendingWalletAuth := none } :=
  (t.same_setRegistrationAuthState epoch .authenticating).trans
    (by constructor <;> first | rfl | exact .inl rfl)

lemma stepped_signInWithSolana (hs : s.SlotsCurrent) (p : Provider) :
    Stepped s (.signInWithSolana p) (s.signInWithSolana env p) :=
  (Issues.request s).start (fun _ => rfl) hs (same_authenticating _ s.run.epoch _) (by decide)
    ((puts_auth _ s.requests _ _).trans (moves_connect ..))

lemma stepped_signInWithBittensor (hs : s.SlotsCurrent) (walletId : Bytes) :
    Stepped s (.signInWithBittensor walletId) (s.signInWithBittensor sdk env walletId) :=
  (Issues.request s).start (fun _ => rfl) hs (same_authenticating _ s.run.epoch _) (by decide)
    ((puts_auth _ s.requests _ _).trans
      (moves_beginBittensorProof _ _ _ walletId (.signIn s.run.epoch)))

/-- The attempt of an SSO flow. -/
def attemptOf (sdk : Sdk) (env : Env) (provider : Bytes) (purpose : SsoPurpose) : SsoAttempt :=
  ⟨provider, sdk.oauthState env.token, env.nonce, purpose⟩

lemma moves_openSsoSignIn (v : SdkHost) (req epoch : ℕ) (provider : Bytes) :
    Moves [req] { v with ssoAttempt := some (attemptOf sdk env provider .signIn) } []
      ({ v with
        walletAuthEpoch := epoch
        walletAuthDone := some ⟨req, v.flows⟩ }.openSsoAttempt sdk env provider .signIn) :=
  (puts_auth { v with ssoAttempt := some (attemptOf sdk env provider .signIn) } req epoch
    v.pendingBittensorWalletId).trans
      (moves_openSsoAttempt sdk env { v with
        walletAuthEpoch := epoch
        walletAuthDone := some ⟨req, v.flows⟩ } provider .signIn)

lemma moves_openSsoAdd (v : SdkHost) (req : ℕ) (provider : Bytes) :
    Moves [req] { v with ssoAttempt := some (attemptOf sdk env provider .add) } []
      ({ v with ssoAddDone := some ⟨req, v.flows⟩ }.openSsoAttempt sdk env provider .add) :=
  (puts_add { v with ssoAttempt := some (attemptOf sdk env provider .add) } req).trans
    (moves_openSsoAttempt sdk env { v with ssoAddDone := some ⟨req, v.flows⟩ } provider .add)

lemma stepped_signInWithSso (hs : s.SlotsCurrent) (provider : Bytes) :
    Stepped s (.signInWithSso provider) (s.signInWithSso sdk env provider) := by
  rw [signInWithSso]
  split
  · exact .quiet (Issues.request s) (fun _ => rfl) (moves_answer _ s.requests _ rfl)
      (quiet_answer _ s.requests _ rfl)
  · exact (Issues.request s).start_arming (fun _ => rfl) hs (same_authenticating _ s.run.epoch none)
      (by decide : kSupersededPrefix <+: narrow "superseded by a sign-in")
      (moves_openSsoSignIn _ s.requests s.run.epoch provider) rfl

lemma stepped_ssoTokenForAdd (hs : s.SlotsCurrent) (provider : Bytes) :
    Stepped s (.ssoTokenForAdd provider) (s.ssoTokenForAdd sdk env provider) := by
  rw [ssoTokenForAdd]
  split
  · exact .quiet (Issues.request s) (fun _ => rfl) (moves_answer _ s.requests _ rfl)
      (quiet_answer _ s.requests _ rfl)
  · exact (Issues.request s).start_arming (fun _ => rfl) hs (.refl _)
      (by decide : kSupersededPrefix <+: narrow "superseded by adding a sign-in method")
      (moves_openSsoAdd _ s.requests provider) rfl

lemma stepped_signWithSolanaWallet {act : Act} (hs : s.SlotsCurrent) {t : SdkHost}
    (done : SignDone) {copied : List ℕ} (h : Issues s copied [done.req] t)
    (honce : s.Once act → copied = []) (p : Provider) (message : Bytes) :
    Stepped s act (t.signWithSolanaWallet env p message done) :=
  h.start honce hs (.refl _) (by decide)
    ((puts_sign _ done message).trans (moves_connect ..))

lemma stepped_connectSolanaWallet (hs : s.SlotsCurrent) (p : Provider) :
    Stepped s (.connectSolanaWallet p) (s.connectSolanaWallet env p) :=
  (Issues.request s).start (fun _ => rfl) hs (.refl _) (by decide)
    ((puts_connect _ s.requests).trans (moves_connect ..))

lemma stepped_signNetworkConsent (hs : s.SlotsCurrent) (walletId : Bytes) :
    Stepped s (.signNetworkConsent walletId) (s.signNetworkConsent sdk env walletId) := by
  refine (Issues.request s).start (fun _ => rfl) hs (.refl _)
    (by decide : kSupersededPrefix <+: narrow "superseded by a payout consent signature") ?_
  have hbegin := moves_beginBittensorSession sdk env
    (s.request.cancelPendingWalletFlows (narrow "superseded by a payout consent signature"))
    walletId (.consent s.requests)
  rw [signNetworkConsent]
  split
  · next hsession =>
    rw [hsession] at hbegin
    exact hbegin
  · next hsession =>
    rw [hsession] at hbegin
    split
    · exact hbegin.trans (moves_finishBittensorProof ..)
    · exact hbegin.trans (moves_openBittensorWallet ..)

lemma stepped_createNetwork (hs : s.SlotsCurrent) :
    Stepped s .createNetwork (s.createNetwork sdk env) := by
  rw [createNetwork]
  dsimp only
  split
  · exact .quiet (Issues.request s) (fun _ => rfl) (moves_endAuthAttempt _ (some s.requests))
      (quiet_tell _ (some s.requests) _ rfl)
  have hauthenticating :=
    same_setRegistrationAuthState s.request s.pendingWalletEpoch .authenticating
  split
  · exact .quiet (Issues.request s) (fun _ => rfl)
      ((moves_setRegistrationAuthState _ _ _ _).trans (moves_ends _ _ _ (some s.requests) _ rfl))
      ((quiet_setRegistrationAuthState _ _ _).trans (quiet_ends _ _ _ (some s.requests) _ rfl))
  · next identity _ =>
    refine (Issues.request s).start (fun _ => rfl) hs hauthenticating
      (by decide : kSupersededPrefix <+: narrow "superseded by wallet network creation") ?_
    split
    · exact moves_beginBittensorProof _ _ _ _ (.create s.requests _ identity)
    · exact moves_call _ (.createChallenge _ s.requests _ identity) fun _ => rfl

lemma stepped_answered (hs : s.SlotsCurrent) {i : ℕ} {call : Call} (h : s.calls[i]? = some call)
    (again : Bool) (a : Answer) :
    Stepped s (.answered i again a) ((s.asked i again).answered sdk env a call) := by
  have hissues := Issues.asked h again
  have honce : s.Once (.answered i again a) → (if again then call.req.toList else []) = [] := by
    intro honce
    cases again with
    | true => exact congrArg Option.toList (honce rfl call h)
    | false => rfl
  by_cases hwaits : call.checks = true ∧ call.flow = s.flows
  · obtain ⟨hchecks, hflow⟩ := hwaits
    have hengages : Engages s (.answered i again a) := .answer again a h hchecks hflow
    -- an answer that brings no callback
    have hstays : ∀ {s' : SdkHost}, Moves [] (s.asked i again) [] s' → call.req.toList = [] →
        Stepped s (.answered i again a) s' := by
      intro s' hmoves hreq
      refine .stays hissues honce (hreq ▸ hmoves) (.inr ⟨hengages, fun _ => ?_⟩)
      exact (Nat.add_le_add_iff_left.1 hmoves.load).trans hissues.quiet.load
    cases call with
    | walletChallenge flow => exact hstays (moves_walletChallenged ..) rfl
    | proofChallenge flow serial => exact hstays (moves_proofChallenged ..) rfl
    | walletLogin flow epoch w => exact hstays (moves_walletLoggedIn ..) rfl
    | addChallenge flow req p =>
      show Stepped s _ (addChallenged env _ flow req p a)
      rw [addChallenged]
      split
      · exact .quiet hissues honce (moves_answer _ req _ rfl) (quiet_answer _ req _ rfl)
      split
      · exact .quiet hissues honce (moves_answer _ req _ rfl) (quiet_answer _ req _ rfl)
      · next message _ =>
        exact stepped_signWithSolanaWallet hs (.added req message) hissues honce p message
    | createChallenge flow req epoch identity =>
      have hmoves := moves_createChallenged sdk env (s.asked i again) flow req epoch identity a
      refine .stays hissues honce hmoves (.inr ⟨hengages, fun honce => ?_⟩)
      cases again with
      | true => exact absurd (honce rfl _ h) nofun
      | false =>
        rw [← Issues.load_erase h rfl hflow]
        exact (Nat.zero_add _).symm.trans_le hmoves.load
    | ssoLogin | networkCreate | register => exact absurd hchecks Bool.false_ne_true
  · have hquiet : Quiet (s.asked i again) ((s.asked i again).answered sdk env a call) :=
      quiet_answered sdk env (s.asked i again) hwaits a
    cases call with
    | walletChallenge flow => exact .quiet hissues honce (moves_walletChallenged ..) hquiet
    | addChallenge flow req p =>
      have hflow : flow ≠ s.flows := fun hflow => hwaits ⟨rfl, hflow⟩
      have heq : (s.asked i again).answered sdk env a (.addChallenge flow req p) =
        (s.asked i again).answer req
          (.added [] [] [] (narrow "superseded by another wallet flow")) := if_pos hflow
      exact .quiet hissues honce (heq ▸ moves_answer _ req _ rfl) hquiet
    | createChallenge flow req epoch identity =>
      exact .quiet hissues honce (moves_createChallenged ..) hquiet
    | proofChallenge flow serial => exact .quiet hissues honce (moves_proofChallenged ..) hquiet
    | walletLogin flow epoch w => exact .quiet hissues honce (moves_walletLoggedIn ..) hquiet
    | ssoLogin flow req epoch provider idToken =>
      exact .quiet hissues honce (moves_ssoLoggedIn ..) hquiet
    | networkCreate flow req epoch => exact .quiet hissues honce (moves_networkCreated ..) hquiet
    | register flow req epoch => exact .quiet hissues honce (moves_registered ..) hquiet

lemma stepped_beginBrowserApproval (hs : s.SlotsCurrent) :
    Stepped s .beginBrowserApproval s.beginBrowserApproval := by
  refine (Issues.self s).start (fun _ => rfl) hs (.refl _)
    (by decide : kSupersededPrefix <+: narrow "superseded by a ur.io approval") ?_
  rw [beginBrowserApproval]
  split
  · exact (same_setAuthState _ _).moves (by rfl) []
  · exact .refl _ _

lemma stepped_applyNetworkServer (hs : s.SlotsCurrent) (hostName : Bytes) :
    Stepped s (.applyNetworkServer hostName) (s.applyNetworkServer env hostName) := by
  rw [applyNetworkServer]
  split
  · exact .quiet (Issues.self s) (fun _ => rfl) (.refl _ _) (.refl s)
  refine (Issues.self s).start (fun _ => rfl) hs (.refl _)
    (by decide : kSupersededPrefix <+: narrow "superseded by a network change") ?_
  dsimp only
  split
  · exact .refl _ _
  split
  · exact SameHolders.moves (by constructor <;> first | rfl | exact .inl rfl) (by rfl) []
  · exact SameHolders.moves (by constructor <;> first | rfl | exact .inl rfl) (by rfl) []

lemma deferred_begin (r : SignOutRun DeferredSignIn) : r.begin.2.deferred = r.deferred := by
  rw [SignOutRun.begin]
  split <;> rfl

lemma stepped_logout (hs : s.SlotsCurrent) : Stepped s .logout s.logout := by
  rw [logout]
  split
  · refine (Issues.self s).start (fun _ => rfl) hs ?_
      (by decide : kSupersededPrefix <+: narrow "superseded by signing out") (.refl _ _)
    constructor <;> first | rfl | exact .inl rfl | exact deferred_begin s.run
  · exact .quiet (Issues.self s) (fun _ => rfl) (.refl _ _) (.refl s)

theorem stepped {s' : SdkHost} {l : Act × Env} (hs : s.SlotsCurrent)
    (h : hostStep sdk s l = some s') : Stepped s l.1 s' := by
  obtain ⟨act, env⟩ := l
  cases act with
  | signInWithSolana p =>
    cases h
    exact stepped_signInWithSolana hs p
  | signInWithBittensor walletId =>
    cases h
    exact stepped_signInWithBittensor hs walletId
  | signInWithSso provider =>
    cases h
    exact stepped_signInWithSso hs provider
  | ssoTokenForAdd provider =>
    cases h
    exact stepped_ssoTokenForAdd hs provider
  | signSolanaForAdd p =>
    cases h
    exact (Issues.request s).start (fun _ => rfl) hs (.refl _)
      (by decide : kSupersededPrefix <+: narrow "superseded by adding a sign-in method")
      (moves_call _ (.addChallenge _ s.requests p) fun _ => rfl)
  | signBittensorForAdd walletId =>
    cases h
    exact (Issues.request s).start (fun _ => rfl) hs (.refl _)
      (by decide : kSupersededPrefix <+: narrow "superseded by adding a sign-in method")
      (moves_beginBittensorProof _ _ _ walletId (.added s.requests))
  | connectSolanaWallet p =>
    cases h
    exact stepped_connectSolanaWallet hs p
  | signWithSolanaWallet p message =>
    cases h
    exact stepped_signWithSolanaWallet hs (.answer s.requests) (Issues.request s)
      (fun _ => rfl) p message
  | signWithBittensorWallet walletId =>
    cases h
    exact (Issues.request s).start (fun _ => rfl) hs (.refl _)
      (by decide : kSupersededPrefix <+: narrow "superseded by a wallet signature request")
      (moves_beginBittensorProof _ _ _ walletId (.answer s.requests))
  | signNetworkConsent walletId =>
    cases h
    exact stepped_signNetworkConsent hs walletId
  | createNetwork =>
    cases h
    exact stepped_createNetwork hs
  | beginBrowserApproval =>
    cases h
    exact stepped_beginBrowserApproval hs
  | cancelAddSignIn =>
    cases h
    exact (Issues.self s).start (fun _ => rfl) hs (.refl _)
      (by decide : kSupersededPrefix <+: narrow "superseded by the add sheet closing") (.refl _ _)
  | applyNetworkServer hostName =>
    cases h
    exact stepped_applyNetworkServer hs hostName
  | logout =>
    cases h
    exact stepped_logout hs
  | signOutTail =>
    obtain ⟨-, rfl⟩ := guard_eq_some.1 h
    exact .quiet (Issues.self s) (fun _ => rfl) s.moves_signOutTail s.quiet_signOutTail
  | deepLink url =>
    cases h
    have hmoves := s.moves_handleDeepLink sdk env url
    exact .stays (Issues.self s) (fun _ => rfl) hmoves
      (.inr ⟨.link url, fun _ => Nat.add_le_add_iff_left.1 hmoves.load⟩)
  | answered i again a =>
    obtain ⟨call, hcall, rfl⟩ := Option.map_eq_some_iff.1 h
    exact stepped_answered hs hcall again a

end SdkHost

/-! ### Runs -/

lemma Superseded.held {u v : SdkHost} (h : Superseded u v) (r : ℕ) :
    v.held.count r = u.held.count r := by
  obtain ⟨events, hlog, hevents, -⟩ := h.log
  have hwaiting : v.waiting = [] := by
    rw [SdkHost.waiting, h.slots]
    rfl
  have htold : v.told = u.told ++ u.waiting := by
    rw [SdkHost.told, hlog, List.filterMap_append, hevents]
    rfl
  rw [SdkHost.held, SdkHost.held, hwaiting, htold, h.calls, h.run]
  simp only [List.count_append, List.count_nil]
  omega

/-- No call of the api is of a flow that has not started. -/
def SdkHost.CallsStarted (s : SdkHost) : Prop :=
  ∀ c ∈ s.calls, c.checks = true → c.flow ≤ s.flows

lemma Superseded.load {u v : SdkHost} (h : Superseded u v) (hcalls : u.CallsStarted) :
    v.load = 0 := by
  have hwaiting : v.waiting = [] := by
    rw [SdkHost.waiting, h.slots]
    rfl
  rw [SdkHost.load, hwaiting, List.length_nil, Nat.zero_add, List.countP_eq_zero]
  intro c hc hload
  rw [Bool.and_eq_true, decide_eq_true_eq] at hload
  have hle := hcalls c (h.calls ▸ hc) (Call.checks_of_asks hload.1)
  have hflows := h.flows
  omega

namespace Stepped

variable {s s' : SdkHost} {act : Act}

lemma held (h : Stepped s act s') : ∃ copied, copied ⊆ s.calls.filterMap Call.req ∧
    (s.Once act → copied = []) ∧ ∀ r, s'.held.count r ≤
      s.held.count r + copied.count r + if s.requests ≤ r ∧ r < s'.requests then 1 else 0 := by
  cases h with
  | @stays copied hand t issues once moves calm =>
    refine ⟨copied, issues.copied, once, fun r => ?_⟩
    have hissues := issues.held r
    have hmoves := moves.held r
    rw [List.count_nil] at hmoves
    rw [moves.requests]
    omega
  | @starts copied hand t u v issues once same superseded attempt moves arms =>
    refine ⟨copied, issues.copied, once, fun r => ?_⟩
    have hissues := issues.held r
    have hmoves := moves.held r
    have hattempt : { v with ssoAttempt := attempt }.held = v.held := rfl
    have hrequests : { v with ssoAttempt := attempt }.requests = v.requests := rfl
    rw [List.count_nil, hattempt, superseded.held, same.held] at hmoves
    rw [moves.requests, hrequests, superseded.requests, same.requests]
    omega

lemma requests_le (h : Stepped s act s') : s.requests ≤ s'.requests := by
  cases h with
  | stays issues once moves calm => exact issues.requests.trans_eq moves.requests.symm
  | starts issues once same superseded moves arms =>
    exact issues.requests.trans_eq
      (moves.requests.trans (superseded.requests.trans same.requests)).symm

lemma slotsCurrent (h : Stepped s act s') (hs : s.SlotsCurrent) : s'.SlotsCurrent := by
  intro x hx
  cases h with
  | stays issues once moves calm =>
    rw [moves.flows]
    refine (moves.slots x hx).elim (fun hx => ?_) id
    rw [issues.quiet.flows]
    exact hs x (issues.quiet.slots ▸ hx)
  | @starts copied hand t u v issues once same superseded attempt moves arms =>
    rw [moves.flows]
    refine (moves.slots x hx).elim (fun hx => ?_) id
    have hslots : x ∈ v.slots := hx
    rw [superseded.slots] at hslots
    exact absurd hslots List.not_mem_nil

lemma callsStarted (h : Stepped s act s') (hs : s.CallsStarted) : s'.CallsStarted := by
  intro c hc hchecks
  cases h with
  | stays issues once moves calm =>
    rw [moves.flows]
    refine (moves.calls c hc hchecks).elim (fun hc => ?_) le_of_eq
    exact issues.quiet.flows ▸ hs c (issues.calls hc) hchecks
  | @starts copied hand t u v issues once same superseded attempt moves arms =>
    rw [moves.flows]
    show c.flow ≤ v.flows
    refine (moves.calls c hc hchecks).elim (fun hc => ?_) le_of_eq
    have hv : c ∈ u.calls := superseded.calls ▸ hc
    rw [superseded.flows, same.flows, issues.quiet.flows]
    exact Nat.le_succ_of_le (hs c (issues.calls (same.calls ▸ hv)) hchecks)

end Stepped

/-- What waits is of the flow that started last, and no callback or flow is one of the future. -/
structure Begun (s : SdkHost) : Prop where
  slots : s.SlotsCurrent
  calls : s.CallsStarted
  fresh : ∀ r, s.requests ≤ r → s.held.count r = 0

namespace Begun

variable {sdk : Sdk} {s s' : SdkHost} {l : Act × Env}

lemma init : Begun {} := ⟨nofun, nofun, fun _ _ => rfl⟩

theorem step (hs : Begun s) (h : hostStep sdk s l = some s') : Begun s' := by
  have hstepped := SdkHost.stepped hs.slots h
  refine ⟨hstepped.slotsCurrent hs.slots, hstepped.callsStarted hs.calls, fun r hr => ?_⟩
  obtain ⟨copied, hcopied, -, hheld⟩ := hstepped.held
  have hfresh := hs.fresh r (hstepped.requests_le.trans hr)
  have hnone : copied.count r = 0 := by
    refine List.count_eq_zero.2 fun hmem => List.count_eq_zero.1 hfresh ?_
    rw [SdkHost.held]
    simp only [List.mem_append]
    exact .inl (.inl (.inr (hcopied hmem)))
  have hle := hheld r
  rw [hfresh, hnone, if_neg (by omega)] at hle
  omega

lemma of_run {cond : SdkHost → Act × Env → Prop} {es : List (Transition SdkHost (Act × Env))}
    (h : SdkHost.Runs sdk cond es s) : Begun s := by
  refine h.invariant (P := fun _ s => Begun s) ?_ ?_
  · rintro s rfl
    exact Begun.init
  · exact fun es s l s' hs hstep => hs.step hstep.1

end Begun

/-- Where each call is answered once: a callback is in one place at a time, and what waits is of
one request. -/
structure Kept (s : SdkHost) : Prop where
  begun : Begun s
  held : ∀ r, s.held.count r ≤ 1
  load : s.load ≤ 1

namespace Kept

variable {sdk : Sdk} {s s' : SdkHost} {l : Act × Env}

lemma init : Kept {} := ⟨Begun.init, fun _ => Nat.zero_le _, Nat.zero_le _⟩

theorem step (hs : Kept s) (h : hostStep sdk s l = some s') (honce : s.Once l.1) :
    Kept s' := by
  have hstepped := SdkHost.stepped hs.begun.slots h
  refine ⟨hs.begun.step h, fun r => ?_, ?_⟩
  · obtain ⟨copied, -, hcopied, hheld⟩ := hstepped.held
    have hle := hheld r
    have hone := hs.held r
    have hfresh := hs.begun.fresh r
    rw [hcopied honce, List.count_nil] at hle
    split_ifs at hle with hnew
    · have hnone := hfresh hnew.1
      omega
    · omega
  · cases hstepped with
    | stays issues once moves calm =>
      exact (calm.elim Quiet.load fun hengaged => hengaged.2 honce).trans hs.load
    | @starts copied hand t u v issues once same superseded attempt moves arms =>
      have hcalls : u.CallsStarted := by
        intro c hc hchecks
        rw [same.flows, issues.quiet.flows]
        exact hs.begun.calls c (issues.calls (same.calls ▸ hc)) hchecks
      have hattempt : { v with ssoAttempt := attempt }.load = v.load := rfl
      have hload := moves.load
      rw [hattempt, superseded.load hcalls, List.length_nil, Nat.zero_add] at hload
      exact hload.trans issues.one

lemma of_run {cond : SdkHost → Act × Env → Prop} {es : List (Transition SdkHost (Act × Env))}
    (h : SdkHost.Runs sdk cond es s) (honce : ∀ s l, cond s l → s.Once l.1) : Kept s := by
  refine h.invariant (P := fun _ s => Kept s) ?_ ?_
  · rintro s rfl
    exact Kept.init
  · exact fun es s l s' hs hstep => hs.step hstep.1 (honce s l hstep.2)

end Kept

end UrnetworkWindows.Browser
