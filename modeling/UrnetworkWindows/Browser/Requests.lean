/-
The callbacks of the requests, kept one by one.

A request's callback is in a slot, with a call of the api, with the sign-in that waits for a
sign-out, or called.  No part of the host copies it: what a part is handed and what the host holds
before it bound what it hands on and holds after it (`Moves`).
-/
import UrnetworkWindows.Browser.Flows

namespace UrnetworkWindows.Browser

open Lib
open SignOut (SignOutRun)

/-! ### Who holds a callback -/

def SignDone.req : SignDone → ℕ
  | .answer req => req
  | .added req _ => req
  | .create req _ _ _ => req

/-- A sign-in's callback is in its own slot. -/
def ProofDone.req : ProofDone → Option ℕ
  | .signIn _ => none
  | .create req _ _ => some req
  | .added req => some req
  | .answer req => some req
  | .consent req => some req

def Event.req : Event → Option ℕ
  | .answer req _ => some req
  | _ => none

/-- The identity token that a callback is called with. -/
def Reply.identity : Reply → Option Bytes
  | .token authJwt _ => if authJwt = [] then none else some authJwt
  | _ => none

/-- The identity token that goes to `authLogin`, or to the callback of an add. -/
def Event.identity : Event → Option Bytes
  | .answer _ reply => reply.identity
  | .ssoLogin _ idToken => some idToken
  | _ => none

/-- The call's answer is dropped where its flow is not the last one. -/
def Call.checks : Call → Bool
  | .ssoLogin .. | .networkCreate .. | .register .. => false
  | _ => true

/-- A challenge whose answer fills a slot. -/
def Call.asks : Call → Bool
  | .addChallenge .. | .createChallenge .. => true
  | _ => false

lemma Call.checks_of_asks {c : Call} (h : c.asks = true) : c.checks = true := by
  cases c with
  | addChallenge | createChallenge => rfl
  | walletChallenge | proofChallenge | walletLogin | ssoLogin | networkCreate | register =>
    exact absurd h Bool.false_ne_true

lemma Call.length_req_of_asks {c : Call} (h : c.asks = true) : c.req.toList.length = 1 := by
  cases c with
  | addChallenge | createChallenge => rfl
  | walletChallenge | proofChallenge | walletLogin | ssoLogin | networkCreate | register =>
    exact absurd h Bool.false_ne_true

namespace SdkHost

variable (s : SdkHost)

/-- What is in the slots: the request of a callback, where it is not in another slot, and the flow
that put it there. -/
def slots : List (Option ℕ × ℕ) :=
  (s.bittensorDone.map fun w => (w.done.req, w.flow)).toList ++
    (s.walletConnectDone.map fun w => (some w.done, w.flow)).toList ++
    (s.walletSignDone.map fun w => (some w.done.req, w.flow)).toList ++
    (s.ssoAddDone.map fun w => (some w.done, w.flow)).toList ++
    (s.walletAuthDone.map fun w => (some w.done, w.flow)).toList

/-- The requests whose callbacks wait in a slot. -/
def waiting : List ℕ := s.slots.filterMap Prod.fst

/-- The requests whose callbacks have been called. -/
def told : List ℕ := s.log.filterMap Event.req

/-- The identity tokens that have been handed on. -/
def tokens : List Bytes := s.log.filterMap Event.identity

/-- The requests whose callbacks are held or have been called. -/
def held : List ℕ :=
  s.waiting ++ s.calls.filterMap Call.req ++ (s.run.deferred.bind DeferredSignIn.req).toList ++
    s.told

/-- The callbacks of the flow that started last: in a slot, or with a challenge that it asked
for. -/
def load : ℕ := s.waiting.length + s.calls.countP fun c => c.asks && decide (c.flow = s.flows)

end SdkHost

/-! ### What a part of the host does with callbacks -/

/-- A part of the host is handed the callbacks of some requests, and hands on those of others. -/
structure HandsOn (hand : List ℕ) (s : SdkHost) (hand' : List ℕ) (s' : SdkHost) : Prop where
  held : ∀ r, hand'.count r + s'.held.count r ≤ hand.count r + s.held.count r
  /-- Only a flow's start arms an attempt. -/
  attempt : s'.ssoAttempt = s.ssoAttempt ∨ s'.ssoAttempt = none
  flows : s'.flows = s.flows
  requests : s'.requests = s.requests
  epoch : s'.run.epoch = s.run.epoch
  /-- A slot is filled only for the flow that started last. -/
  slots : ∀ x ∈ s'.slots, x ∈ s.slots ∨ x.2 = s.flows
  calls : ∀ c ∈ s'.calls, c.checks = true → c ∈ s.calls ∨ c.flow = s.flows
  log : s.log <+: s'.log

/-- And the flow that started last has no more callbacks than it had, or was handed. -/
structure Loads (hand : List ℕ) (s : SdkHost) (hand' : List ℕ) (s' : SdkHost) : Prop
    extends HandsOn hand s hand' s' where
  load : hand'.length + s'.load ≤ hand.length + s.load

/-- And no identity token goes anywhere while no attempt is armed. -/
structure Moves (hand : List ℕ) (s : SdkHost) (hand' : List ℕ) (s' : SdkHost) : Prop
    extends Loads hand s hand' s' where
  tokens : s.ssoAttempt = none → s'.tokens = s.tokens

section

variable {s s' s'' : SdkHost} {hand hand' hand'' : List ℕ}

lemma HandsOn.trans (h : HandsOn hand s hand' s') (h' : HandsOn hand' s' hand'' s'') :
    HandsOn hand s hand'' s'' where
  held r := (h'.held r).trans (h.held r)
  attempt := h'.attempt.elim (fun heq => h.attempt.imp heq.trans heq.trans) .inr
  flows := h'.flows.trans h.flows
  requests := h'.requests.trans h.requests
  epoch := h'.epoch.trans h.epoch
  slots x hx := by
    rcases h'.slots x hx with hx | hx
    · exact h.slots x hx
    · exact .inr (hx.trans h.flows)
  calls c hc hchecks := by
    rcases h'.calls c hc hchecks with hc | hc
    · exact h.calls c hc hchecks
    · exact .inr (hc.trans h.flows)
  log := h.log.trans h'.log

lemma Loads.trans (h : Loads hand s hand' s') (h' : Loads hand' s' hand'' s'') :
    Loads hand s hand'' s'' :=
  ⟨h.toHandsOn.trans h'.toHandsOn, h'.load.trans h.load⟩

end

namespace Moves

variable {s s' s'' : SdkHost} {hand hand' hand'' : List ℕ}

lemma refl (hand : List ℕ) (s : SdkHost) : Moves hand s hand s :=
  ⟨⟨⟨fun _ => le_rfl, .inl rfl, rfl, rfl, rfl, fun _ h => .inl h, fun _ h _ => .inl h,
    List.prefix_rfl⟩, le_rfl⟩, fun _ => rfl⟩

lemma trans (h : Moves hand s hand' s') (h' : Moves hand' s' hand'' s'') :
    Moves hand s hand'' s'' where
  toLoads := h.toLoads.trans h'.toLoads
  tokens hnone :=
    (h'.tokens (h.attempt.elim (fun heq => heq.trans hnone) id)).trans (h.tokens hnone)

end Moves

section

variable {s s' : SdkHost} {hand hand' : List ℕ}

lemma Loads.frame (h : Loads hand s hand' s') (other : List ℕ) :
    Loads (hand ++ other) s (hand' ++ other) s' :=
  { h with
    held := fun r => by
      rw [List.count_append, List.count_append]
      have hr := h.held r
      omega
    load := by
      rw [List.length_append, List.length_append]
      have hload := h.load
      omega }

end

/-- What holds callbacks is the same. -/
structure SameHolders (s s' : SdkHost) : Prop where
  attempt : s'.ssoAttempt = s.ssoAttempt ∨ s'.ssoAttempt = none
  bittensorDone : s'.bittensorDone = s.bittensorDone
  walletConnectDone : s'.walletConnectDone = s.walletConnectDone
  walletSignDone : s'.walletSignDone = s.walletSignDone
  ssoAddDone : s'.ssoAddDone = s.ssoAddDone
  walletAuthDone : s'.walletAuthDone = s.walletAuthDone
  calls : s'.calls = s.calls
  deferred : s'.run.deferred = s.run.deferred
  log : s'.log = s.log
  flows : s'.flows = s.flows
  requests : s'.requests = s.requests

namespace SameHolders

variable {s s' : SdkHost}

lemma refl (s : SdkHost) : SameHolders s s := by
  constructor <;> first | rfl | exact .inl rfl

lemma trans {s'' : SdkHost} (h : SameHolders s s') (h' : SameHolders s' s'') :
    SameHolders s s'' where
  attempt := h'.attempt.elim (fun heq => h.attempt.imp heq.trans heq.trans) .inr
  bittensorDone := h'.bittensorDone.trans h.bittensorDone
  walletConnectDone := h'.walletConnectDone.trans h.walletConnectDone
  walletSignDone := h'.walletSignDone.trans h.walletSignDone
  ssoAddDone := h'.ssoAddDone.trans h.ssoAddDone
  walletAuthDone := h'.walletAuthDone.trans h.walletAuthDone
  calls := h'.calls.trans h.calls
  deferred := h'.deferred.trans h.deferred
  log := h'.log.trans h.log
  flows := h'.flows.trans h.flows
  requests := h'.requests.trans h.requests

lemma slots (h : SameHolders s s') : s'.slots = s.slots := by
  rw [SdkHost.slots, SdkHost.slots, h.bittensorDone, h.walletConnectDone, h.walletSignDone,
    h.ssoAddDone, h.walletAuthDone]

lemma waiting (h : SameHolders s s') : s'.waiting = s.waiting := by
  rw [SdkHost.waiting, SdkHost.waiting, h.slots]

lemma held (h : SameHolders s s') : s'.held = s.held := by
  rw [SdkHost.held, SdkHost.held, SdkHost.told, SdkHost.told, h.waiting, h.calls, h.deferred, h.log]

lemma load (h : SameHolders s s') : s'.load = s.load := by
  rw [SdkHost.load, SdkHost.load, h.waiting, h.calls, h.flows]

lemma moves (h : SameHolders s s') (hepoch : s'.run.epoch = s.run.epoch) (hand : List ℕ) :
    Moves hand s hand s' where
  tokens _ := by rw [SdkHost.tokens, SdkHost.tokens, h.log]
  held r := by rw [h.held]
  load := by rw [h.load]
  attempt := h.attempt
  flows := h.flows
  requests := h.requests
  epoch := hepoch
  slots x hx := .inl (h.slots ▸ hx)
  calls c hc _ := .inl (h.calls ▸ hc)
  log := by rw [h.log]

end SameHolders

/-- The slots, the attempt and the proof are as before, and no call that checks its flow is new. -/
structure Quiet (s s' : SdkHost) : Prop where
  bittensorDone : s'.bittensorDone = s.bittensorDone
  walletConnectDone : s'.walletConnectDone = s.walletConnectDone
  walletSignDone : s'.walletSignDone = s.walletSignDone
  ssoAddDone : s'.ssoAddDone = s.ssoAddDone
  walletAuthDone : s'.walletAuthDone = s.walletAuthDone
  ssoAttempt : s'.ssoAttempt = s.ssoAttempt
  bittensorSession : s'.bittensorSession = s.bittensorSession
  flows : s'.flows = s.flows
  tokens : s'.tokens = s.tokens
  calls : (s'.calls.filter Call.checks).Sublist (s.calls.filter Call.checks)

namespace Quiet

variable {s s' s'' : SdkHost}

lemma refl (s : SdkHost) : Quiet s s := ⟨rfl, rfl, rfl, rfl, rfl, rfl, rfl, rfl, rfl, .refl _⟩

lemma trans (h : Quiet s s') (h' : Quiet s' s'') : Quiet s s'' where
  bittensorDone := h'.bittensorDone.trans h.bittensorDone
  walletConnectDone := h'.walletConnectDone.trans h.walletConnectDone
  walletSignDone := h'.walletSignDone.trans h.walletSignDone
  ssoAddDone := h'.ssoAddDone.trans h.ssoAddDone
  walletAuthDone := h'.walletAuthDone.trans h.walletAuthDone
  ssoAttempt := h'.ssoAttempt.trans h.ssoAttempt
  bittensorSession := h'.bittensorSession.trans h.bittensorSession
  flows := h'.flows.trans h.flows
  tokens := h'.tokens.trans h.tokens
  calls := h'.calls.trans h.calls

lemma slots (h : Quiet s s') : s'.slots = s.slots := by
  rw [SdkHost.slots, SdkHost.slots, h.bittensorDone, h.walletConnectDone, h.walletSignDone,
    h.ssoAddDone, h.walletAuthDone]

lemma load (h : Quiet s s') : s'.load ≤ s.load := by
  have hcalls :=
    @List.Sublist.countP_le _ (fun c => c.asks && decide (c.flow = s.flows)) _ _ h.calls
  have hchecks : ∀ calls : List Call,
      (calls.filter Call.checks).countP (fun c => c.asks && decide (c.flow = s.flows)) =
        calls.countP fun c => c.asks && decide (c.flow = s.flows) := by
    intro calls
    rw [List.countP_filter]
    refine List.countP_congr fun c _ => ?_
    simp only [Bool.and_eq_true, decide_eq_true_eq]
    exact ⟨And.left, fun hc => ⟨hc, Call.checks_of_asks hc.1⟩⟩
  rw [hchecks, hchecks] at hcalls
  rw [SdkHost.load, SdkHost.load, SdkHost.waiting, SdkHost.waiting, h.slots, h.flows]
  omega

end Quiet

namespace SdkHost

variable (sdk : Sdk) (env : Env) (s : SdkHost) (hand : List ℕ)

/-! ### The parts -/

lemma held_did (event : Event) (r : ℕ) :
    (s.did event).held.count r = s.held.count r + event.req.toList.count r := by
  have hlog : (s.did event).told = s.told ++ event.req.toList := by
    rw [told, did, List.filterMap_append]
    cases event <;> rfl
  rw [held, hlog, ← List.append_assoc, List.count_append]
  rfl

lemma tokens_did (event : Event) : (s.did event).tokens = s.tokens ++ event.identity.toList := by
  rw [tokens, did, List.filterMap_append]
  cases htoken : event.identity <;> simp [htoken, tokens]

lemma loads_did (event : Event) : Loads event.req.toList s [] (s.did event) :=
  { (Moves.refl [] s).toLoads with
    held := fun r => by rw [held_did, List.count_nil]; omega
    load := Nat.add_le_add_right (Nat.zero_le _) _
    log := List.prefix_append _ _ }

lemma moves_did (event : Event) (h : event.identity = none) :
    Moves event.req.toList s [] (s.did event) where
  toLoads := s.loads_did event
  tokens _ := by rw [tokens_did, h, Option.toList_none, List.append_nil]

lemma moves_answer (req : ℕ) (reply : Reply) (h : reply.identity = none) :
    Moves [req] s [] (s.answer req reply) :=
  s.moves_did (.answer req reply) h

lemma moves_tell (req : Option ℕ) (reply : Reply) (h : reply.identity = none) :
    Moves req.toList s [] (s.tell req reply) := by
  cases req with
  | none => exact .refl _ _
  | some req => exact s.moves_answer req reply h

lemma moves_call (c : Call) (hflow : c.checks = true → c.flow = s.flows) :
    Moves c.req.toList s [] (s.call c) where
  tokens _ := rfl
  held r := by
    have hcalls : (s.call c).calls.filterMap Call.req =
        s.calls.filterMap Call.req ++ c.req.toList := by
      rw [call, List.filterMap_append]
      cases hreq : c.req <;> simp [hreq]
    have hcount : (s.call c).held.count r = s.held.count r + c.req.toList.count r := by
      have hwaiting : (s.call c).waiting = s.waiting := rfl
      have htold : (s.call c).told = s.told := rfl
      have hrun : (s.call c).run = s.run := rfl
      rw [held, held, hcalls, hwaiting, htold, hrun]
      simp only [List.count_append]
      omega
    rw [hcount, List.count_nil]
    omega
  load := by
    have hload : (s.call c).load =
        s.load + if (c.asks && decide (c.flow = s.flows)) = true then 1 else 0 := by
      have hwaiting : (s.call c).waiting = s.waiting := rfl
      have hcalls : (s.call c).calls = s.calls ++ [c] := rfl
      have hflows : (s.call c).flows = s.flows := rfl
      rw [load, load, hwaiting, hcalls, hflows, List.countP_append, List.countP_singleton,
        Nat.add_assoc]
    rw [hload, List.length_nil]
    split_ifs with hasks
    · rw [Bool.and_eq_true] at hasks
      rw [Call.length_req_of_asks hasks.1]
      omega
    · omega
  attempt := .inl rfl
  flows := rfl
  requests := rfl
  epoch := rfl
  slots _ hx := .inl hx
  calls c' hc' hchecks := by
    rcases List.mem_append.1 hc' with hc' | hc'
    · exact .inl hc'
    · obtain rfl := List.mem_singleton.1 hc'
      exact .inr (hflow hchecks)
  log := List.prefix_rfl

lemma same_setAuthState (a : AuthState) : SameHolders s (s.setAuthState a) := by
  constructor <;> first | rfl | exact .inl rfl

lemma same_setRegistrationAuthState (epoch : ℕ) (a : AuthState) :
    SameHolders s (s.setRegistrationAuthState epoch a) := by
  rw [setRegistrationAuthState]
  split_ifs
  · exact s.same_setAuthState a
  · constructor <;> first | rfl | exact .inl rfl

lemma run_setRegistrationAuthState (epoch : ℕ) (a : AuthState) :
    (s.setRegistrationAuthState epoch a).run = s.run := by
  rw [setRegistrationAuthState]
  split_ifs <;> rfl

lemma moves_setRegistrationAuthState (epoch : ℕ) (a : AuthState) :
    Moves hand s hand (s.setRegistrationAuthState epoch a) :=
  (s.same_setRegistrationAuthState epoch a).moves
    (congrArg SignOutRun.epoch (s.run_setRegistrationAuthState epoch a)) hand

lemma moves_endAuthAttempt (req : Option ℕ) : Moves req.toList s [] (s.endAuthAttempt req) :=
  s.moves_tell req _ rfl

lemma loads_sent (event : Event) (hevent : event.req = none) (c : Call)
    (hflow : c.checks = true → c.flow = s.flows) :
    Loads c.req.toList s [] ((s.did event).call c) := by
  have hdid := (s.loads_did event).frame c.req.toList
  rw [hevent, Option.toList_none, List.nil_append] at hdid
  exact hdid.trans (moves_call (s.did event) c hflow).toLoads

lemma moves_sent (event : Event) (hevent : event.req = none) (htoken : event.identity = none)
    (c : Call) (hflow : c.checks = true → c.flow = s.flows) :
    Moves c.req.toList s [] ((s.did event).call c) where
  toLoads := s.loads_sent event hevent c hflow
  tokens _ := by
    have htokens : ((s.did event).call c).tokens = (s.did event).tokens := rfl
    rw [htokens, tokens_did, htoken, Option.toList_none, List.append_nil]

lemma moves_authLoginWithWallet (address signature message : Bytes) (p : Provider) (epoch : ℕ) :
    Moves [] s [] (s.authLoginWithWallet address signature message p epoch) := by
  rw [authLoginWithWallet]
  by_cases hepoch : epoch = s.run.epoch
  · rw [if_neg (not_not.2 hepoch)]
    exact s.moves_sent (.walletLogin _) rfl rfl (.walletLogin ..) fun _ => rfl
  · rw [if_pos hepoch]
    exact .refl _ _

lemma loads_authLoginWithSso (provider idToken : Bytes) (req : Option ℕ) (epoch : ℕ) :
    Loads req.toList s [] (s.authLoginWithSso env provider idToken req epoch) := by
  rw [authLoginWithSso]
  split_ifs
  · exact (s.moves_endAuthAttempt req).toLoads
  · exact ((s.moves_setRegistrationAuthState _ epoch .error).trans (moves_tell _ req _ rfl)).toLoads
  · exact s.loads_sent (.ssoLogin ..) rfl (.ssoLogin ..) nofun

lemma moves_submitCreateNetwork (auth : WalletAuth) (req epoch : ℕ) :
    Moves [req] s [] (s.submitCreateNetwork auth req epoch) := by
  rw [submitCreateNetwork]
  split_ifs
  · exact s.moves_endAuthAttempt (some req)
  · exact s.moves_sent (.networkCreate auth) rfl rfl (.networkCreate ..) nofun

/-! ### Parts that leave the slots alone -/

lemma quiet_answer (req : ℕ) (reply : Reply) (h : reply.identity = none) :
    Quiet s (s.answer req reply) := by
  constructor
  case tokens =>
    have htoken : (Event.answer req reply).identity = none := h
    rw [answer, tokens_did, htoken, Option.toList_none, List.append_nil]
  all_goals rfl

lemma quiet_tell (req : Option ℕ) (reply : Reply) (h : reply.identity = none) :
    Quiet s (s.tell req reply) := by
  cases req with
  | none => exact .refl s
  | some req => exact s.quiet_answer req reply h

lemma quiet_setAuthState (a : AuthState) : Quiet s (s.setAuthState a) := by
  constructor <;> rfl

lemma quiet_setRegistrationAuthState (epoch : ℕ) (a : AuthState) :
    Quiet s (s.setRegistrationAuthState epoch a) := by
  rw [setRegistrationAuthState]
  split_ifs
  · exact s.quiet_setAuthState a
  · exact .refl s

lemma quiet_ends (epoch : ℕ) (a : AuthState) (req : Option ℕ) (reply : Reply)
    (h : reply.identity = none) :
    Quiet s ((s.setRegistrationAuthState epoch a).tell req reply) :=
  (s.quiet_setRegistrationAuthState epoch a).trans (quiet_tell _ req reply h)

lemma quiet_call {c : Call} (h : c.checks = false) : Quiet s (s.call c) where
  bittensorDone := rfl
  walletConnectDone := rfl
  walletSignDone := rfl
  ssoAddDone := rfl
  walletAuthDone := rfl
  ssoAttempt := rfl
  bittensorSession := rfl
  flows := rfl
  tokens := rfl
  calls := by
    rw [call, List.filter_append, List.filter_singleton, h]
    exact (List.append_nil _).symm ▸ .refl _

lemma quiet_registerNetworkClient (byJwt : Bytes) (req : Option ℕ) (epoch flow : ℕ) :
    Quiet s (s.registerNetworkClient byJwt req epoch flow) := by
  rw [registerNetworkClient]
  dsimp only
  have hrun : Quiet s { s with run := (s.run.defer ⟨byJwt, req, epoch, flow⟩ epoch).2.2 } := by
    constructor <;> rfl
  split
  · split
    · exact hrun
    · exact hrun.trans (quiet_tell _ _ _ rfl)
  split
  · exact s.quiet_tell req _ rfl
  · exact s.quiet_call rfl

lemma handsOn_defer (deferred : DeferredSignIn) :
    HandsOn deferred.req.toList s (s.run.deferred.bind DeferredSignIn.req).toList
      { s with run := { s.run with deferred := some deferred } } where
  held r := by
    have hwaiting :
        { s with run := { s.run with deferred := some deferred } }.waiting = s.waiting :=
      rfl
    rw [held, held, hwaiting]
    simp only [told, List.count_append, Option.bind_some]
    omega
  attempt := .inl rfl
  flows := rfl
  requests := rfl
  epoch := rfl
  slots _ hx := .inl hx
  calls _ hc _ := .inl hc
  log := List.prefix_rfl

lemma moves_registerNetworkClient (byJwt : Bytes) (req : Option ℕ) (epoch flow : ℕ) :
    Moves req.toList s [] (s.registerNetworkClient byJwt req epoch flow) := by
  have hload := (s.quiet_registerNetworkClient byJwt req epoch flow).load
  have htokens := (s.quiet_registerNetworkClient byJwt req epoch flow).tokens
  refine ⟨⟨?_, by rw [List.length_nil]; omega⟩, fun _ => htokens⟩
  rw [registerNetworkClient]
  dsimp only
  rcases s.run.defer_cases ⟨byJwt, req, epoch, flow⟩ epoch with heq | ⟨-, -, heq⟩
  · rw [heq, if_neg Bool.false_ne_true]
    split_ifs
    · exact (s.moves_tell req _ rfl).toHandsOn
    · exact (s.moves_call (.register ..) nofun).toHandsOn
  · rw [heq, if_pos rfl]
    have hdefer := s.handsOn_defer ⟨byJwt, req, epoch, flow⟩
    cases hold : s.run.deferred with
    | none =>
      rw [hold] at hdefer
      exact hdefer
    | some old =>
      rw [hold] at hdefer
      exact hdefer.trans (moves_tell _ old.req _ rfl).toHandsOn

/-! ### The slots -/

lemma moves_slots {s s' : SdkHost} {xs xs' : List (Option ℕ × ℕ)}
    (h : (xs' ++ s'.slots).Subperm (xs ++ s.slots)) (hxs : ∀ x ∈ xs, x.2 = s.flows)
    (hcalls : s'.calls = s.calls) (hrun : s'.run = s.run) (hlog : s'.log = s.log)
    (hflows : s'.flows = s.flows) (hrequests : s'.requests = s.requests)
    (hattempt : s'.ssoAttempt = s.ssoAttempt) :
    Moves (xs.filterMap Prod.fst) s (xs'.filterMap Prod.fst) s' where
  held r := by
    obtain ⟨ys, hperm, hsub⟩ := h
    have hcount := (hsub.filterMap Prod.fst).count_le r
    rw [(hperm.filterMap Prod.fst).count_eq, List.filterMap_append, List.filterMap_append,
      List.count_append, List.count_append] at hcount
    rw [held, held, told, told, hcalls, hrun, hlog, waiting, waiting]
    simp only [List.count_append]
    omega
  load := by
    obtain ⟨ys, hperm, hsub⟩ := h
    have hlength := (hsub.filterMap Prod.fst).length_le
    rw [(hperm.filterMap Prod.fst).length_eq, List.filterMap_append, List.filterMap_append,
      List.length_append, List.length_append] at hlength
    rw [load, load, hcalls, hflows, waiting, waiting]
    omega
  tokens _ := by rw [tokens, tokens, hlog]
  attempt := .inl hattempt
  flows := hflows
  requests := hrequests
  epoch := congrArg SignOutRun.epoch hrun
  slots x hx := by
    rcases List.mem_append.1 (h.subset (List.mem_append_right _ hx)) with hx | hx
    · exact .inr (hxs x hx)
    · exact .inl hx
  calls c hc _ := .inl (hcalls ▸ hc)
  log := by rw [hlog]

section Slots

variable {s}

lemma count_slots (y : Option ℕ × ℕ) : s.slots.count y =
    (s.bittensorDone.map fun w => (w.done.req, w.flow)).toList.count y +
      (s.walletConnectDone.map fun w => (some w.done, w.flow)).toList.count y +
      (s.walletSignDone.map fun w => (some w.done.req, w.flow)).toList.count y +
      (s.ssoAddDone.map fun w => (some w.done, w.flow)).toList.count y +
      (s.walletAuthDone.map fun w => (some w.done, w.flow)).toList.count y := by
  simp only [slots, List.count_append]

/-- What is in no slot. -/
def slotless (s : SdkHost) := (s.calls, s.run, s.log, s.flows, s.requests, s.ssoAttempt)

lemma moves_take {s' : SdkHost} (x : Option ℕ × ℕ)
    (hsame : slotless s' = slotless s)
    (h : ∀ y, [x].count y + s'.slots.count y ≤ s.slots.count y) :
    Moves [] s x.1.toList s' := by
  simp only [slotless, Prod.mk.injEq] at hsame
  obtain ⟨hcalls, hrun, hlog, hflows, hrequests, hattempt⟩ := hsame
  have hsub : ([x] ++ s'.slots).Subperm ([] ++ s.slots) :=
    List.subperm_ext_iff.2 fun y _ => List.count_append.trans_le (h y)
  have hslots := moves_slots hsub nofun hcalls hrun hlog hflows hrequests hattempt
  cases hreq : x.1 <;> simpa [hreq] using hslots

lemma moves_put {s' : SdkHost} (x : Option ℕ × ℕ)
    (hx : x.2 = s.flows) (hsame : slotless s' = slotless s)
    (h : ∀ y, s'.slots.count y ≤ [x].count y + s.slots.count y) :
    Moves x.1.toList s [] s' := by
  simp only [slotless, Prod.mk.injEq] at hsame
  obtain ⟨hcalls, hrun, hlog, hflows, hrequests, hattempt⟩ := hsame
  have hsub : ([] ++ s'.slots).Subperm ([x] ++ s.slots) :=
    List.subperm_ext_iff.2 fun y _ => (h y).trans_eq List.count_append.symm
  have hslots := moves_slots hsub (List.forall_mem_singleton.2 hx) hcalls hrun hlog hflows hrequests
    hattempt
  cases hreq : x.1 <;> simpa [hreq] using hslots

lemma takes_proof {w : Waiting ProofDone} (h : s.bittensorDone = some w) :
    Moves [] s w.done.req.toList
      { s with
        bittensorDone := none
        bittensorSession := none } :=
  moves_take (w.done.req, w.flow) rfl fun y => by simp [count_slots, h]; omega

lemma takes_connect {w : Waiting ℕ} (h : s.walletConnectDone = some w) :
    Moves [] s [w.done] { s with walletConnectDone := none } :=
  moves_take (some w.done, w.flow) rfl fun y => by simp [count_slots, h]; omega

lemma takes_sign {w : Waiting SignDone} (h : s.walletSignDone = some w) :
    Moves [] s [w.done.req] { s with walletSignDone := none } :=
  moves_take (some w.done.req, w.flow) rfl fun y => by simp [count_slots, h]; omega

lemma takes_add {w : Waiting ℕ} (h : s.ssoAddDone = some w) :
    Moves [] s [w.done] { s with ssoAddDone := none } :=
  moves_take (some w.done, w.flow) rfl fun y => by simp [count_slots, h]; omega

lemma takes_auth {w : Waiting ℕ} (h : s.walletAuthDone = some w) :
    Moves [] s [w.done] { s with walletAuthDone := none } :=
  moves_take (some w.done, w.flow) rfl fun y => by simp [count_slots, h]; omega

variable (s)

lemma takes_auth_toList :
    Moves [] s (s.walletAuthDone.map Waiting.done).toList { s with walletAuthDone := none } := by
  cases hauth : s.walletAuthDone with
  | some w => exact takes_auth hauth
  | none =>
    refine SameHolders.moves ?_ (by rfl) []
    constructor <;> first | rfl | exact .inl rfl | exact hauth.symm

lemma puts_proof (done : ProofDone) (serial : ℕ) (session : Bytes) :
    Moves done.req.toList s []
      { s with
        bittensorSerial := serial
        bittensorSession := some session
        bittensorDone := some ⟨done, s.flows⟩ } :=
  moves_put (done.req, s.flows) rfl rfl fun y => by simp [count_slots]; omega

lemma puts_connect (req : ℕ) :
    Moves [req] s [] { s with walletConnectDone := some ⟨req, s.flows⟩ } :=
  moves_put (some req, s.flows) rfl rfl fun y => by simp [count_slots]; omega

lemma puts_sign (done : SignDone) (message : Bytes) :
    Moves [done.req] s []
      { s with
        walletSignMessage := message
        walletSignDone := some ⟨done, s.flows⟩ } :=
  moves_put (some done.req, s.flows) rfl rfl fun y => by simp [count_slots]; omega

lemma puts_add (req : ℕ) : Moves [req] s [] { s with ssoAddDone := some ⟨req, s.flows⟩ } :=
  moves_put (some req, s.flows) rfl rfl fun y => by simp [count_slots]; omega

lemma puts_auth (req epoch : ℕ) (walletId : Bytes) :
    Moves [req] s []
      { s with
        walletAuthEpoch := epoch
        walletAuthDone := some ⟨req, s.flows⟩
        pendingBittensorWalletId := walletId } :=
  moves_put (some req, s.flows) rfl rfl fun y => by simp [count_slots]; omega

end Slots

/-! ### The callbacks of a request -/

lemma moves_runSignDone (done : SignDone) (ok : Bool) (publicKey signature error : Bytes) :
    Moves [done.req] s [] (s.runSignDone done ok publicKey signature error) := by
  cases done with
  | answer req => exact s.moves_answer req _ rfl
  | added req message =>
    rw [runSignDone]
    split_ifs <;> exact s.moves_answer req _ rfl
  | create req epoch identity message =>
    have hfailed : ∀ error, Moves [req] s []
        ((s.setRegistrationAuthState epoch .loggedOut).answer req (failed error)) := fun _ =>
      (s.moves_setRegistrationAuthState _ epoch _).trans (moves_answer _ req _ rfl)
    rw [runSignDone]
    split
    · exact hfailed _
    · split
      · exact hfailed _
      · exact s.moves_submitCreateNetwork _ req epoch

lemma moves_runProofDone (w : Waiting ProofDone) (outcome : Outcome) :
    Moves w.done.req.toList s [] (s.runProofDone w outcome) := by
  obtain ⟨done, flow⟩ := w
  cases done with
  | signIn epoch =>
    cases outcome with
    | refused error code =>
      simp only [runProofDone]
      split
      · exact .refl _ _
      · split
        · exact .refl _ _
        · next auth hauth =>
          exact ((takes_auth hauth).trans (moves_setRegistrationAuthState _ _ epoch _)).trans
            (moves_answer _ auth.done _ rfl)
    | proved proof =>
      simp only [runProofDone]
      split
      · exact .refl _ _
      · exact s.moves_authLoginWithWallet ..
  | create req epoch identity =>
    cases outcome with
    | refused error code =>
      simp only [runProofDone]
      split
      · exact s.moves_answer req _ rfl
      · exact (s.moves_setRegistrationAuthState _ epoch _).trans (moves_answer _ req _ rfl)
    | proved proof => exact s.moves_submitCreateNetwork _ req epoch
  | added req | answer req | consent req => cases outcome <;> exact s.moves_answer req _ rfl

lemma moves_finishBittensorProof (serial : ℕ) (outcome : Outcome) :
    Moves [] s [] (s.finishBittensorProof serial outcome) := by
  rw [finishBittensorProof]
  split
  · exact .refl _ _
  · dsimp only
    split
    · next hproof =>
      refine SameHolders.moves ?_ (by rfl) []
      constructor <;> first | rfl | exact hproof.symm | exact .inl rfl
    · next w hproof => exact (takes_proof hproof).trans (moves_runProofDone _ w outcome)

lemma moves_onError (err : Bytes) : Moves [] s [] (s.onError err) := by
  rw [onError]
  split
  · exact s.moves_finishBittensorProof ..
  split
  · next w hconnect => exact (takes_connect hconnect).trans (moves_answer _ w.done _ rfl)
  split
  · next w hsign => exact (takes_sign hsign).trans (moves_runSignDone _ w.done ..)
  split
  · next w hadd =>
    have hattempt : SameHolders { s with ssoAddDone := none }
        { s with
          ssoAddDone := none
          ssoAttempt := none } := by
      constructor <;> first | rfl | exact .inr rfl
    exact ((takes_add hadd).trans (hattempt.moves rfl _)).trans (moves_answer _ w.done _ rfl)
  split
  · exact .refl _ _
  · next w hauth =>
    exact ((takes_auth hauth).trans ((same_setAuthState _ .error).moves rfl _)).trans
      (moves_answer _ w.done _ rfl)

/-! ### The bridge and the proofs -/

lemma moves_openUrl (page : Browsed) : Moves [] s [] (s.openUrl env page) := by
  rw [openUrl]
  split
  · exact s.moves_did (.opens page) rfl
  · exact s.moves_onError _

lemma moves_wallet (wallet : WalletConnect) : Moves hand s hand { s with wallet } :=
  SameHolders.moves (by constructor <;> first | rfl | exact .inl rfl) (by rfl) hand

lemma moves_connect (p : Provider) (offersManualEntry : Bool) :
    Moves [] s [] (s.connect env p offersManualEntry) := by
  rw [connect]
  split
  · exact (s.moves_wallet [] _).trans (moves_onError _ _)
  · exact (s.moves_wallet [] _).trans (moves_openUrl _ _ _)

lemma moves_signMessage : Moves [] s [] (s.signMessage sdk env) := by
  rw [signMessage]
  split
  · exact s.moves_onError _
  split
  · exact s.moves_onError _
  split
  · exact s.moves_onError _
  · exact s.moves_openUrl env _

lemma moves_openBittensorBridge (url : Bytes) : Moves [] s [] (s.openBittensorBridge env url) := by
  rw [openBittensorBridge]
  exact (s.moves_wallet [] _).trans (moves_openUrl _ _ _)

lemma moves_openSsoAttempt (provider : Bytes) (purpose : SsoPurpose) :
    Moves [] { s with ssoAttempt := some ⟨provider, sdk.oauthState env.token, env.nonce, purpose⟩ }
      [] (s.openSsoAttempt sdk env provider purpose) :=
  moves_openUrl ..

lemma moves_beginBittensorSession (walletId : Bytes) (done : ProofDone) :
    Moves done.req.toList s [] (s.beginBittensorSession sdk env walletId done).1 := by
  rw [beginBittensorSession]
  split
  · exact s.moves_runProofDone ⟨done, s.flows⟩ _
  · exact s.puts_proof done _ _

lemma moves_beginBittensorProof (walletId : Bytes) (done : ProofDone) :
    Moves done.req.toList s [] (s.beginBittensorProof sdk env walletId done) := by
  have hbegin := s.moves_beginBittensorSession sdk env walletId done
  rw [beginBittensorProof]
  split
  · next hs =>
    rw [hs] at hbegin
    exact hbegin
  · next hs =>
    rw [hs] at hbegin
    split
    · exact hbegin.trans (moves_finishBittensorProof _ _ _)
    · exact hbegin.trans (moves_call _ (.proofChallenge ..) fun _ => rfl)

lemma moves_openBittensorWallet (serial : ℕ) :
    Moves [] s [] (s.openBittensorWallet sdk env serial) := by
  rw [openBittensorWallet]
  split
  · split
    · exact s.moves_finishBittensorProof ..
    · exact s.moves_openBittensorBridge ..
  · exact s.moves_finishBittensorProof ..

lemma moves_handleBittensorReturn : Moves [] s [] (s.handleBittensorReturn sdk env) := by
  rw [handleBittensorReturn]
  split
  · exact .refl _ _
  split
  · exact s.moves_finishBittensorProof ..
  split
  · exact s.moves_finishBittensorProof ..
  split
  · exact .refl _ _
  · exact s.moves_finishBittensorProof ..

/-! ### The answers of the api -/

lemma moves_walletChallenged (flow : ℕ) (a : Answer) :
    Moves [] s [] (s.walletChallenged sdk env flow a) := by
  rw [walletChallenged]
  split
  · exact .refl _ _
  split
  · exact s.moves_onError _
  · refine .trans (SameHolders.moves ?_ (by rfl) []) (moves_signMessage _ _ _)
    constructor <;> first | rfl | exact .inl rfl

lemma moves_createChallenged (flow req epoch : ℕ) (identity : WalletAuth) (a : Answer) :
    Moves [req] s [] (s.createChallenged sdk env flow req epoch identity a) := by
  rw [createChallenged]
  split
  · exact s.moves_answer req _ rfl
  split
  · exact (s.moves_setRegistrationAuthState _ epoch _).trans (moves_answer _ req _ rfl)
  · next message _ =>
    exact (s.puts_sign (.create req epoch identity message) message).trans (moves_signMessage _ _ _)

lemma moves_proofChallenged (flow serial : ℕ) (a : Answer) :
    Moves [] s [] (s.proofChallenged sdk env flow serial a) := by
  rw [proofChallenged]
  split
  · exact .refl _ _
  split
  · exact s.moves_finishBittensorProof ..
  split
  · exact s.moves_finishBittensorProof ..
  split
  · exact s.moves_finishBittensorProof ..
  split
  · exact s.moves_finishBittensorProof ..
  · exact s.moves_openBittensorWallet ..

lemma moves_ends (epoch : ℕ) (a : AuthState) (req : Option ℕ) (reply : Reply)
    (h : reply.identity = none) :
    Moves req.toList s [] ((s.setRegistrationAuthState epoch a).tell req reply) :=
  (s.moves_setRegistrationAuthState _ epoch a).trans (moves_tell _ req reply h)

lemma moves_walletLoggedIn (flow epoch : ℕ) (w : WalletAuth) (a : Answer) :
    Moves [] s [] (s.walletLoggedIn flow epoch w a) := by
  rw [walletLoggedIn]
  split
  · exact .refl _ _
  split
  · exact .refl _ _
  next auth hauth =>
  refine (takes_auth hauth).trans ?_
  split
  · exact moves_ends _ epoch _ (some auth.done) _ rfl
  split
  · exact moves_ends _ epoch _ (some auth.done) _ rfl
  split
  · exact moves_registerNetworkClient _ _ (some auth.done) epoch flow
  · refine .trans (SameHolders.moves ?_ (by rfl) _) (moves_ends _ epoch _ (some auth.done) _ rfl)
    constructor <;> first | rfl | exact .inl rfl

lemma quiet_ssoLoggedIn (flow : ℕ) (req : Option ℕ) (epoch : ℕ) (provider idToken : Bytes)
    (a : Answer) : Quiet s (s.ssoLoggedIn flow req epoch provider idToken a) := by
  rw [ssoLoggedIn]
  split
  · exact s.quiet_tell req _ rfl
  split
  · exact s.quiet_ends epoch _ req _ rfl
  split
  · exact s.quiet_ends epoch _ req _ rfl
  split
  · exact s.quiet_registerNetworkClient _ req epoch flow
  · refine .trans ?_ (quiet_ends _ epoch _ req _ rfl)
    constructor <;> rfl

lemma moves_ssoLoggedIn (flow : ℕ) (req : Option ℕ) (epoch : ℕ) (provider idToken : Bytes)
    (a : Answer) : Moves req.toList s [] (s.ssoLoggedIn flow req epoch provider idToken a) := by
  rw [ssoLoggedIn]
  split
  · exact s.moves_endAuthAttempt req
  split
  · exact s.moves_ends epoch _ req _ rfl
  split
  · exact s.moves_ends epoch _ req _ rfl
  split
  · exact s.moves_registerNetworkClient _ req epoch flow
  · refine .trans (SameHolders.moves ?_ (by rfl) _) (moves_ends _ epoch _ req _ rfl)
    constructor <;> first | rfl | exact .inl rfl

lemma quiet_networkCreated (flow req epoch : ℕ) (a : Answer) :
    Quiet s (s.networkCreated flow req epoch a) := by
  rw [networkCreated]
  split
  · exact s.quiet_tell (some req) _ rfl
  split
  · exact s.quiet_ends epoch _ (some req) _ rfl
  split
  · exact s.quiet_ends epoch _ (some req) _ rfl
  split
  · exact s.quiet_ends epoch _ (some req) _ rfl
  split
  · refine .trans ?_ (quiet_registerNetworkClient _ _ (some req) epoch flow)
    constructor <;> rfl
  · exact s.quiet_ends epoch _ (some req) _ rfl

lemma moves_networkCreated (flow req epoch : ℕ) (a : Answer) :
    Moves [req] s [] (s.networkCreated flow req epoch a) := by
  rw [networkCreated]
  split
  · exact s.moves_endAuthAttempt (some req)
  split
  · exact s.moves_ends epoch _ (some req) _ rfl
  split
  · exact s.moves_ends epoch _ (some req) _ rfl
  split
  · exact s.moves_ends epoch _ (some req) _ rfl
  split
  · refine .trans (SameHolders.moves ?_ (by rfl) _)
      (moves_registerNetworkClient _ _ (some req) epoch flow)
    constructor <;> first | rfl | exact .inl rfl
  · exact s.moves_ends epoch _ (some req) _ rfl

lemma quiet_complete (req : Option ℕ) (epoch : ℕ) (r : AuthResult) :
    Quiet s (s.complete req epoch r) := by
  rw [complete]
  split
  · exact s.quiet_tell req _ rfl
  · exact (s.quiet_setAuthState _).trans (quiet_tell _ req _ rfl)

lemma moves_complete (req : Option ℕ) (epoch : ℕ) (r : AuthResult) :
    Moves req.toList s [] (s.complete req epoch r) := by
  rw [complete]
  split
  · exact s.moves_tell req _ rfl
  · exact ((s.same_setAuthState _).moves (by rfl) _).trans (moves_tell _ req _ rfl)

lemma quiet_registered (req : Option ℕ) (epoch : ℕ) (a : Answer) :
    Quiet s (s.registered env req epoch a) := by
  rw [registered]
  split
  · exact s.quiet_complete req epoch _
  split
  · exact s.quiet_complete req epoch _
  split
  · exact s.quiet_complete req epoch _
  split
  · exact s.quiet_tell req _ rfl
  split
  · exact s.quiet_complete req epoch _
  · exact s.quiet_complete req epoch _

lemma moves_registered (req : Option ℕ) (epoch : ℕ) (a : Answer) :
    Moves req.toList s [] (s.registered env req epoch a) := by
  rw [registered]
  split
  · exact s.moves_complete req epoch _
  split
  · exact s.moves_complete req epoch _
  split
  · exact s.moves_complete req epoch _
  split
  · exact s.moves_tell req _ rfl
  split
  · exact s.moves_complete req epoch _
  · exact s.moves_complete req epoch _

lemma quiet_answered {call : Call} (h : ¬(call.checks = true ∧ call.flow = s.flows)) (a : Answer) :
    Quiet s (s.answered sdk env a call) := by
  have hstale : call.checks = true → call.flow ≠ s.flows := fun hchecks hflow => h ⟨hchecks, hflow⟩
  cases call with
  | walletChallenge flow =>
    exact (show s.answered sdk env a (.walletChallenge flow) = s from if_pos (hstale rfl)).symm ▸
      .refl s
  | addChallenge flow req p =>
    have heq : s.answered sdk env a (.addChallenge flow req p) =
      s.answer req (.added [] [] [] (narrow "superseded by another wallet flow")) :=
        if_pos (hstale rfl)
    exact heq ▸ s.quiet_answer req _ rfl
  | createChallenge flow req epoch identity =>
    have heq : s.answered sdk env a (.createChallenge flow req epoch identity) =
      s.answer req (failed (narrow "superseded by another wallet request")) := if_pos (hstale rfl)
    exact heq ▸ s.quiet_answer req _ rfl
  | proofChallenge flow serial =>
    exact (show s.answered sdk env a (.proofChallenge flow serial) = s from
      if_pos (hstale rfl)).symm ▸ .refl s
  | walletLogin flow epoch w =>
    exact (show s.answered sdk env a (.walletLogin flow epoch w) = s from
      if_pos (.inr (hstale rfl))).symm ▸ .refl s
  | ssoLogin flow req epoch provider idToken => exact quiet_ssoLoggedIn s flow req epoch _ _ a
  | networkCreate flow req epoch => exact quiet_networkCreated s flow req epoch a
  | register flow req epoch => exact quiet_registered env s req epoch a

/-! ### Links -/

lemma moves_onPublicKey (publicKey : Bytes) (p : Provider) :
    Moves [] s [] (s.onPublicKey sdk env publicKey p) := by
  rw [onPublicKey]
  split
  · exact .refl _ _
  · split
    · exact .refl _ _
    · next connect hconnect =>
        exact (takes_connect hconnect).trans (moves_answer _ connect.done _ rfl)
  · exact s.moves_signMessage sdk env
  · exact s.moves_call (.walletChallenge s.flows) fun _ => rfl

lemma moves_onSignature (publicKey signature : Bytes) (p : Provider) :
    Moves [] s [] (s.onSignature publicKey signature p) := by
  rw [onSignature]
  split
  · exact .refl _ _
  · split
    · exact .refl _ _
    · next sign hsign => exact (takes_sign hsign).trans (moves_runSignDone _ sign.done ..)
  · exact s.moves_authLoginWithWallet ..

lemma moves_onSso (provider authJwt state error : Bytes) :
    Moves [] s [] (s.onSso sdk env provider authJwt state error) := by
  rw [onSso]
  split
  · exact .refl _ _
  next attempt hsome =>
  refine ⟨?_, fun hnone => absurd (hsome.symm.trans hnone) nofun⟩
  split
  · exact (Moves.refl _ _).toLoads
  have hattempt : Moves [] s [] { s with ssoAttempt := none } :=
    SameHolders.moves (by constructor <;> first | rfl | exact .inr rfl) (by rfl) []
  dsimp only
  split
  · exact (hattempt.trans (moves_onError _ _)).toLoads
  split
  · exact (hattempt.trans (moves_onError _ _)).toLoads
  refine hattempt.toLoads.trans ?_
  split
  · split
    · exact (Moves.refl _ _).toLoads
    · next add hadd =>
      exact (takes_add (s := { s with ssoAttempt := none }) hadd).toLoads.trans
        (loads_did _ (.answer add.done _))
  · exact (takes_auth_toList { s with ssoAttempt := none }).toLoads.trans
      (loads_authLoginWithSso ..)

lemma moves_handleDeepLink (url : Bytes) : Moves [] s [] (s.handleDeepLink sdk env url) := by
  rw [handleDeepLink]
  split
  · exact .refl _ _
  dsimp only
  refine (s.moves_wallet [] (s.wallet.handleDeepLink sdk url).1).trans ?_
  split
  · exact .refl _ _
  · next report _ =>
    cases report with
    | error err => exact moves_onError _ err
    | publicKey key p => exact moves_onPublicKey sdk env _ key p
    | signature key signature p => exact moves_onSignature _ key signature p
    | sso provider authJwt state error => exact moves_onSso sdk env _ provider authJwt state error
    | bittensor url => exact moves_handleBittensorReturn sdk env _

/-! ### Flows -/

lemma handsOn_finish :
    HandsOn [] s (s.run.deferred.bind DeferredSignIn.req).toList
      { s with run := s.run.finish.2 } where
  held r := by
    have hwaiting : { s with run := s.run.finish.2 }.waiting = s.waiting := rfl
    have htold : { s with run := s.run.finish.2 }.told = s.told := rfl
    rw [held, held, hwaiting, htold]
    simp only [SignOutRun.finish, List.count_append, Option.bind_none, Option.toList_none,
      List.count_nil]
    omega
  attempt := .inl rfl
  flows := rfl
  requests := rfl
  epoch := rfl
  slots _ hx := .inl hx
  calls _ hc _ := .inl hc
  log := List.prefix_rfl

lemma quiet_signOutTail : Quiet s s.signOutTail := by
  have htail : Quiet s
      { s with
        pendingWalletAuth := none
        pendingAuthJwt := none
        authState := .loggedOut
        run := s.run.finish.2 } := by
    constructor <;> rfl
  rw [signOutTail]
  dsimp only
  split
  · exact htail
  · exact htail.trans (quiet_registerNetworkClient ..)

lemma moves_signOutTail : Moves [] s [] s.signOutTail := by
  refine ⟨⟨?_, Nat.add_le_add_left s.quiet_signOutTail.load _⟩, fun _ => s.quiet_signOutTail.tokens⟩
  have htail : HandsOn [] s (s.run.deferred.bind DeferredSignIn.req).toList
      { s with
        pendingWalletAuth := none
        pendingAuthJwt := none
        authState := .loggedOut
        run := s.run.finish.2 } := by
    refine s.handsOn_finish.trans (SameHolders.moves ?_ (by rfl) _).toHandsOn
    constructor <;> first | rfl | exact .inl rfl
  rw [signOutTail]
  dsimp only
  split
  · next hnone =>
    rw [show s.run.deferred = none from hnone] at htail
    exact htail
  · next deferred hsome =>
    rw [show s.run.deferred = some deferred from hsome] at htail
    exact htail.trans (moves_registerNetworkClient ..).toHandsOn

end SdkHost

end UrnetworkWindows.Browser
