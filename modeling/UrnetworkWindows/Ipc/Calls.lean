/-
Calls over one connection of the control pipe (`PipeClient.cpp`: `Call`, `ReaderLoop`;
`PipeServer.cpp`: `ServeConnection`; `ServiceClient.cpp`).

The pipe carries lines in order in both directions; a request is known by its place among
the lines written, and the server answers the lines in that order, each with one line and
after any delay.  Nothing in a reply tells the client which request it answers.  Events
are lines too, but go to another handler and are left out, and so is what a request or a
reply says: they are values of some types.

A call that times out leaves the reply to it behind.  Where the next call clears
`haveReply_` before that reply has come, it takes it for its own.  The main result is that
while no call does, every call returns the reply to its own request.
-/
import UrnetworkWindows.Lib.Trace

namespace UrnetworkWindows.Ipc

open Lib

/-! ### The model -/

section Model

variable (Req J : Type)

/-- The next statement of `Call`, with the place of its line once that is written. -/
inductive CallAt
  | locking
  | resetting
  | writing
  | waiting (line : ℕ)
  | returned (line : ℕ) (reply : J)
  | threw (what : String)
deriving DecidableEq, Repr

structure Call where
  request : Req
  phase : CallAt J := .locking
deriving DecidableEq, Repr

/-- The lines each side has written, how many replies the reader has stored, and the
client's fields.  `holder` is the call that holds `callMutex_`. -/
structure Channel where
  requests : List Req := []
  replies : List J := []
  received : ℕ := 0
  connected : Bool := true
  haveReply : Bool := false
  reply : Option J := none
  holder : Option ℕ := none
  calls : List (Call Req J) := []
deriving DecidableEq, Repr

/-- A call is made or takes a step, which may be that its wait or its write fails; the
server answers the next line; the reader stores the next reply; the connection breaks. -/
inductive Pick
  | call (request : Req)
  | step (i : ℕ) (fails : Bool)
  | serve (reply : J)
  | receive
  | drop
deriving DecidableEq, Repr

end Model

variable {Req J : Type}

/-- The next step of a call. -/
def callStep (fails : Bool) (s : Channel Req J) (i : ℕ) (c : Call Req J) :
    Option (CallAt J × Channel Req J) :=
  match c.phase with
  | .locking =>
    if s.holder ≠ none then none
    else if s.connected then some (.resetting, { s with holder := some i })
    else some (.threw "control channel not connected", s)
  | .resetting => some (.writing, { s with haveReply := false })
  | .writing =>
    if fails || !s.connected then
      some (.threw "control channel write failed", { s with holder := none })
    else some (.waiting s.requests.length, { s with requests := s.requests ++ [c.request] })
  | .waiting line =>
    if s.haveReply then
      s.reply.map fun reply => (.returned line reply, { s with holder := none })
    else if fails then some (.threw "control channel timeout", { s with holder := none })
    else none
  | .returned _ _ => none
  | .threw _ => none

/-- One step of the whole. -/
def step (s : Channel Req J) : Pick Req J → Option (Channel Req J)
  | .call request => some { s with calls := s.calls ++ [{ request }] }
  | .step i fails =>
    match s.calls[i]? with
    | none => none
    | some c => (callStep fails s i c).map fun r =>
        { r.2 with calls := s.calls.set i { c with phase := r.1 } }
  | .serve reply =>
    if s.replies.length < s.requests.length then some { s with replies := s.replies ++ [reply] }
    else none
  | .receive =>
    if s.connected then
      s.replies[s.received]?.map fun reply =>
        { s with received := s.received + 1, haveReply := true, reply := some reply }
    else none
  | .drop => some { s with connected := false }

/-- The call is about to clear `haveReply_`. -/
def Resets (s : Channel Req J) (i : ℕ) : Bool :=
  s.calls[i]?.any fun c => match c.phase with
    | .resetting => true
    | _ => false

/-- A call that clears the flag finds no reply still to come: every line written before
it has been answered, and the answer stored. -/
def Settled (s : Channel Req J) (a : Pick Req J) : Bool :=
  match a with
  | .step i _ => !Resets s i || decide (s.received = s.requests.length)
  | _ => true

/-- The runs of one connection whose steps meet a condition. -/
abbrev Channel.Runs (cond : Channel Req J → Pick Req J → Prop) :
    List (Transition (Channel Req J) (Pick Req J)) → Channel Req J → Prop :=
  Run (· = {}) fun _ s a s' => step s a = some s' ∧ cond s a

/-! ### What `ServiceClient` makes of a call -/

/-- What a call ends as for its caller. -/
def Call.result (c : Call Req J) : Option (Except String J) :=
  match c.phase with
  | .returned _ reply => some (.ok reply)
  | .threw what => some (.error what)
  | _ => none

section ServiceClient

/-- `proto::Reply`, by the fields these methods read. -/
structure Reply (S P : Type) where
  ok : Bool := false
  error : String := ""
  status : Option S := none
  providerStats : Option P := none
deriving DecidableEq, Repr

variable {S P : Type} (get : J → Except String (Reply S P)) (unknown : S) (failed : S → String → S)

/-- `CallStatus`: the status, and whether the service answered; `get` reads the JSON, and
`failed` puts the error into a status. -/
def callStatus (result : Except String J) : S × Bool :=
  match result.bind get with
  | .error what => (failed unknown what, false)
  | .ok r =>
    let status := r.status.getD unknown
    (if r.ok = false ∧ r.error ≠ "" then failed status r.error else status,
      r.ok && r.status.isSome)

/-- `SetSplitTunnel`, `SetKillSwitch`, `Logout`: the reply's `ok`, read by `value`. -/
def okFlag (value : J → Bool) (result : Except String J) : Bool :=
  match result with
  | .error _ => false
  | .ok reply => value reply

/-- `GetProviderStats`. -/
def getProviderStats (result : Except String J) : Option P :=
  match result.bind get with
  | .error _ => none
  | .ok r => if r.ok then r.providerStats else none

end ServiceClient

/-! ### A call's own reply -/

/-- Every call that has returned has returned the server's answer to its own line, and so
do the methods report. -/
structure Own (s : Channel Req J) : Prop where
  lines : ∀ (i j : ℕ) (c d : Call Req J) (line : ℕ) (r r' : J), s.calls[i]? = some c →
    s.calls[j]? = some d → c.phase = .returned line r → d.phase = .returned line r' → i = j
  request : ∀ (i : ℕ) (c : Call Req J) (line : ℕ) (r : J), s.calls[i]? = some c →
    c.phase = .returned line r → s.requests[line]? = some c.request
  reply : ∀ (i : ℕ) (c : Call Req J) (line : ℕ) (r : J), s.calls[i]? = some c →
    c.phase = .returned line r → s.replies[line]? = some r
  reports : ∀ (i : ℕ) (c : Call Req J) (line : ℕ) (r : J) (S P : Type)
    (get : J → Except String (Reply S P)) (unknown : S) (failed : S → String → S)
    (value : J → Bool),
    s.calls[i]? = some c → c.phase = .returned line r → ∃ own, s.replies[line]? = some own ∧
      c.result.map (callStatus get unknown failed) =
        some (callStatus get unknown failed (.ok own)) ∧
      c.result.map (okFlag value) = some (okFlag value (.ok own)) ∧
      c.result.map (getProviderStats get) = some (getProviderStats get (.ok own))

/-! ### What holds while every reset is settled -/

/-- The call holds `callMutex_`. -/
def CallAt.active : CallAt J → Bool
  | .resetting => true
  | .writing => true
  | .waiting _ => true
  | _ => false

/-- The line a call has written. -/
def CallAt.line? : CallAt J → Option ℕ
  | .waiting line => some line
  | .returned line _ => some line
  | _ => none

/-- What holds of a call at each of its statements. -/
def CallOk (s : Channel Req J) (c : Call Req J) : Prop :=
  match c.phase with
  | .writing => s.haveReply = false ∧ s.received = s.requests.length
  | .waiting line => line + 1 = s.requests.length ∧ s.requests[line]? = some c.request ∧
      (s.haveReply = false ∧ s.received = line ∨
        s.haveReply = true ∧ s.received = line + 1 ∧ s.reply = s.replies[line]?)
  | .returned line r => s.requests[line]? = some c.request ∧ s.replies[line]? = some r
  | _ => True

structure ChannelOk (s : Channel Req J) : Prop where
  received_le : s.received ≤ s.replies.length
  replies_le : s.replies.length ≤ s.requests.length
  holder : ∀ (i : ℕ) (c : Call Req J), s.calls[i]? = some c → c.phase.active = true →
    s.holder = some i
  calls : ∀ (i : ℕ) (c : Call Req J), s.calls[i]? = some c → CallOk s c
  line_lt : ∀ (i : ℕ) (c : Call Req J) (line : ℕ), s.calls[i]? = some c →
    c.phase.line? = some line → line < s.requests.length
  lines : ∀ (i j : ℕ) (c d : Call Req J) (line : ℕ), s.calls[i]? = some c →
    s.calls[j]? = some d → c.phase.line? = some line → d.phase.line? = some line → i = j

lemma CallOk.of_inactive {s s' : Channel Req J} {c : Call Req J} (h : CallOk s c)
    (hc : c.phase.active = false) (hrequests : s.requests <+: s'.requests)
    (hreplies : s.replies <+: s'.replies) : CallOk s' c := by
  unfold CallOk at h ⊢
  cases hp : c.phase with
  | locking => trivial
  | resetting => trivial
  | writing | waiting line =>
    rw [hp] at hc
    exact absurd hc (by simp [CallAt.active])
  | returned line r =>
    simp only [hp] at h ⊢
    obtain ⟨hq, hr⟩ := h
    obtain ⟨more, hmore⟩ := hrequests
    obtain ⟨more', hmore'⟩ := hreplies
    rw [← hmore, ← hmore', List.getElem?_append_left (List.getElem?_eq_some_iff.1 hq).1,
      List.getElem?_append_left (List.getElem?_eq_some_iff.1 hr).1]
    exact ⟨hq, hr⟩
  | threw what => trivial

namespace ChannelOk

variable {s s' : Channel Req J}

lemma of_call (h : ChannelOk s) {i : ℕ} {c : Call Req J} {r : CallAt J}
    (hi : s.calls[i]? = some c) (hcalls : s'.calls = s.calls.set i { c with phase := r })
    (hreceived : s'.received = s.received) (hreplies : s'.replies = s.replies)
    (hrequests : s'.requests = s.requests ∨ s'.requests = s.requests ++ [c.request])
    (hholder : s.holder = none ∨ s.holder = some i)
    (hactive : r.active = true → s'.holder = some i)
    (hline : r.line? = c.phase.line? ∨ r.line? = none ∨
      r.line? = some s.requests.length ∧ s'.requests = s.requests ++ [c.request])
    (hself : CallOk s' { c with phase := r }) : ChannelOk s' := by
  have hprefix : s.requests <+: s'.requests := by
    rcases hrequests with hq | hq <;> rw [hq]
    exact List.prefix_append _ _
  have hlen : s.requests.length ≤ s'.requests.length := hprefix.length_le
  have hcall (j : ℕ) (d : Call Req J) (hj : s'.calls[j]? = some d) :
      j = i ∧ d = { c with phase := r } ∨ i ≠ j ∧ s.calls[j]? = some d := by
    rw [hcalls] at hj
    exact getElem?_set_cases hj
  have hidle (j : ℕ) (d : Call Req J) (hij : i ≠ j) (hj : s.calls[j]? = some d) :
      d.phase.active = false := by
    by_contra hd
    have hheld := h.holder j d hj (Bool.eq_true_of_not_eq_false hd)
    rcases hholder with hnone | hsome
    · exact absurd (hnone.symm.trans hheld) (by simp)
    · exact hij (Option.some.inj (hsome.symm.trans hheld))
  -- a line that another call has is not this one's
  have hother (j : ℕ) (d : Call Req J) (line : ℕ) (hij : i ≠ j) (hj : s.calls[j]? = some d)
      (hd : d.phase.line? = some line) : r.line? ≠ some line := by
    intro hr
    rcases hline with heq | hnone | ⟨hnew, -⟩
    · exact hij (h.lines i j c d line hi hj (heq.symm.trans hr) hd)
    · exact absurd (hnone.symm.trans hr) (by simp)
    · have hlt := h.line_lt j d line hj hd
      have heq := Option.some.inj (hnew.symm.trans hr)
      omega
  constructor
  · rw [hreceived, hreplies]
    exact h.received_le
  · rw [hreplies]
    exact h.replies_le.trans hlen
  · intro j d hj hd
    rcases hcall j d hj with ⟨rfl, rfl⟩ | ⟨hij, hj⟩
    · exact hactive hd
    · rw [hidle j d hij hj] at hd
      exact Bool.noConfusion hd
  · intro j d hj
    rcases hcall j d hj with ⟨rfl, rfl⟩ | ⟨hij, hj⟩
    · exact hself
    · exact (h.calls j d hj).of_inactive (hidle j d hij hj) hprefix (by rw [hreplies])
  · intro j d line hj hd
    rcases hcall j d hj with ⟨rfl, rfl⟩ | ⟨hij, hj⟩
    · rcases hline with heq | hnone | ⟨hnew, hq⟩
      · exact (h.line_lt j c line hi (heq.symm.trans hd)).trans_le hlen
      · exact absurd (hnone.symm.trans hd) (by simp)
      · rw [hq, List.length_append, List.length_singleton,
          Option.some.inj (hnew.symm.trans hd)]
        omega
    · exact (h.line_lt j d line hj hd).trans_le hlen
  · intro j k d e line hj hk hd he
    rcases hcall j d hj with ⟨rfl, rfl⟩ | ⟨hij, hj⟩
    · rcases hcall k e hk with ⟨rfl, rfl⟩ | ⟨hik, hk⟩
      · rfl
      · exact absurd hd (hother k e line hik hk he)
    · rcases hcall k e hk with ⟨rfl, rfl⟩ | ⟨hik, hk⟩
      · exact absurd he (hother j d line hij hj hd)
      · exact h.lines j k d e line hj hk hd he

lemma of_wire (h : ChannelOk s) (hcalls : s'.calls = s.calls) (hholder : s'.holder = s.holder)
    (hrequests : s'.requests = s.requests) (hreceived : s'.received ≤ s'.replies.length)
    (hreplies : s'.replies.length ≤ s.requests.length)
    (hok : ∀ c ∈ s.calls, CallOk s c → CallOk s' c) : ChannelOk s' := by
  constructor
  · exact hreceived
  · rw [hrequests]
    exact hreplies
  · rw [hcalls, hholder]
    exact h.holder
  · intro i c hi
    rw [hcalls] at hi
    exact hok c (List.mem_of_getElem? hi) (h.calls i c hi)
  · rw [hcalls, hrequests]
    exact h.line_lt
  · rw [hcalls]
    exact h.lines

lemma init : ChannelOk ({} : Channel Req J) := by
  constructor <;> simp

lemma step_call (h : ChannelOk s) {i : ℕ} {fails : Bool}
    (hsettled : Settled s (.step i fails) = true) (hs : step s (.step i fails) = some s') :
    ChannelOk s' := by
  simp only [Ipc.step] at hs
  split at hs
  next => exact absurd hs (by simp)
  next c hi =>
    obtain ⟨⟨r, s₁⟩, hr, rfl⟩ := Option.map_eq_some_iff.1 hs
    have hok := h.calls i c hi
    have hheld := h.holder i c hi
    unfold CallOk at hok
    simp only [callStep] at hr
    split at hr
    next hp =>
      obtain ⟨hfree, hr⟩ := Option.ite_none_left_eq_some.1 hr
      have hfree : s.holder = none := not_not.1 hfree
      split at hr
      next =>
        cases hr
        exact h.of_call hi rfl rfl rfl (.inl rfl) (.inl hfree) (fun _ => rfl) (.inr (.inl rfl))
          trivial
      next =>
        cases hr
        exact h.of_call hi rfl rfl rfl (.inl rfl) (.inl hfree)
          (fun ha => absurd ha (by simp [CallAt.active])) (.inr (.inl rfl)) trivial
    next hp =>
      cases hr
      have hmine := hheld (by rw [hp]; rfl)
      refine h.of_call hi rfl rfl rfl (.inl rfl) (.inr hmine) (fun _ => hmine) (.inr (.inl rfl)) ?_
      -- the flag is cleared with nothing still to come
      have hresets : Resets s i = true := by
        unfold Resets
        rw [hi, Option.any_some, hp]
      simp only [Settled, hresets, Bool.not_true, Bool.false_or, decide_eq_true_eq] at hsettled
      exact ⟨rfl, hsettled⟩
    next hp =>
      have hmine := hheld (by rw [hp]; rfl)
      simp only [hp] at hok
      split at hr
      next =>
        cases hr
        exact h.of_call hi rfl rfl rfl (.inl rfl) (.inr hmine)
          (fun ha => absurd ha (by simp [CallAt.active])) (.inr (.inl rfl)) trivial
      next =>
        cases hr
        refine h.of_call hi rfl rfl rfl (.inr rfl) (.inr hmine) (fun _ => hmine)
          (.inr (.inr ⟨rfl, rfl⟩)) ?_
        refine ⟨?_, ?_, .inl hok⟩
        · show s.requests.length + 1 = (s.requests ++ [c.request]).length
          simp
        · show (s.requests ++ [c.request])[s.requests.length]? = some c.request
          simp
    next line hp =>
      have hmine := hheld (by rw [hp]; rfl)
      simp only [hp] at hok
      obtain ⟨-, hrequest, hreply⟩ := hok
      split at hr
      next hhave =>
        obtain ⟨reply, hrep, heq⟩ := Option.map_eq_some_iff.1 hr
        obtain ⟨rfl, rfl⟩ := Prod.mk.inj heq
        refine h.of_call hi rfl rfl rfl (.inl rfl) (.inr hmine)
          (fun ha => absurd ha (by simp [CallAt.active])) (.inl (by rw [hp]; rfl)) ⟨hrequest, ?_⟩
        rcases hreply with ⟨hnone, -⟩ | ⟨-, -, hstored⟩
        · exact absurd (hnone.symm.trans hhave) (by simp)
        · exact hstored.symm.trans hrep
      next =>
        obtain ⟨-, hr⟩ := Option.ite_none_right_eq_some.1 hr
        cases hr
        exact h.of_call hi rfl rfl rfl (.inl rfl) (.inr hmine)
          (fun ha => absurd ha (by simp [CallAt.active])) (.inr (.inl rfl)) trivial
    next => exact absurd hr (by simp)
    next => exact absurd hr (by simp)

lemma step_serve (h : ChannelOk s) {reply : J} (hs : step s (.serve reply) = some s') :
    ChannelOk s' := by
  obtain ⟨hlt, rfl⟩ := guard_eq_some.1 hs
  refine h.of_wire rfl rfl rfl ?_ ?_ ?_
  · show s.received ≤ (s.replies ++ [reply]).length
    have hle := h.received_le
    rw [List.length_append]
    omega
  · show (s.replies ++ [reply]).length ≤ s.requests.length
    rw [List.length_append, List.length_singleton]
    exact hlt
  · intro c hc hok
    unfold CallOk at hok ⊢
    cases hp : c.phase with
    | waiting line =>
      simp only [hp] at hok ⊢
      obtain ⟨hlast, hrequest, hreply⟩ := hok
      refine ⟨hlast, hrequest, ?_⟩
      rcases hreply with hreply | ⟨hhave, hreceived, hstored⟩
      · exact .inl hreply
      · have hle := h.received_le
        rw [List.getElem?_append_left (by omega)]
        exact .inr ⟨hhave, hreceived, hstored⟩
    | returned line r =>
      simp only [hp] at hok ⊢
      rw [List.getElem?_append_left (List.getElem?_eq_some_iff.1 hok.2).1]
      exact hok
    | writing =>
      simp only [hp] at hok ⊢
      exact hok
    | locking => trivial
    | resetting => trivial
    | threw what => trivial

lemma step_receive (h : ChannelOk s) (hs : step s .receive = some s') : ChannelOk s' := by
  obtain ⟨-, hs⟩ := Option.ite_none_right_eq_some.1 hs
  obtain ⟨reply, hreply, rfl⟩ := Option.map_eq_some_iff.1 hs
  have hlt := (List.getElem?_eq_some_iff.1 hreply).1
  have hle := h.replies_le
  refine h.of_wire rfl rfl rfl hlt hle ?_
  intro c hc hok
  unfold CallOk at hok ⊢
  cases hp : c.phase with
  | waiting line =>
    simp only [hp] at hok ⊢
    obtain ⟨hlast, hrequest, hstored⟩ := hok
    refine ⟨hlast, hrequest, .inr ⟨by trivial, ?_⟩⟩
    rcases hstored with ⟨-, hreceived⟩ | ⟨-, hreceived, -⟩
    · rw [← hreceived]
      exact ⟨rfl, hreply.symm⟩
    · omega
  | writing =>
    simp only [hp] at hok
    omega
  | returned line r =>
    simp only [hp] at hok ⊢
    exact hok
  | locking => trivial
  | resetting => trivial
  | threw what => trivial

theorem step (h : ChannelOk s) {a : Pick Req J} (hsettled : Settled s a = true)
    (hs : step s a = some s') : ChannelOk s' := by
  cases a with
  | call request =>
    cases hs
    have hcall (i : ℕ) (c : Call Req J) (hi : (s.calls ++ [⟨request, .locking⟩])[i]? = some c) :
        c.phase = .locking ∨ s.calls[i]? = some c := by
      rcases Nat.lt_or_ge i s.calls.length with hlt | hge
      · rw [List.getElem?_append_left hlt] at hi
        exact .inr hi
      · rw [List.getElem?_append_right hge] at hi
        obtain rfl := List.mem_singleton.1 (List.mem_of_getElem? hi)
        exact .inl rfl
    constructor
    · exact h.received_le
    · exact h.replies_le
    · intro i c hi ha
      rcases hcall i c hi with hp | hi
      · exact absurd ha (by simp [hp, CallAt.active])
      · exact h.holder i c hi ha
    · intro i c hi
      rcases hcall i c hi with hp | hi
      · unfold CallOk
        simp only [hp]
      · exact h.calls i c hi
    · intro i c line hi hl
      rcases hcall i c hi with hp | hi
      · exact absurd hl (by simp [hp, CallAt.line?])
      · exact h.line_lt i c line hi hl
    · intro i j c d line hi hj hc hd
      rcases hcall i c hi with hp | hi
      · exact absurd hc (by simp [hp, CallAt.line?])
      · rcases hcall j d hj with hp | hj
        · exact absurd hd (by simp [hp, CallAt.line?])
        · exact h.lines i j c d line hi hj hc hd
  | step i fails => exact h.step_call hsettled hs
  | serve reply => exact h.step_serve hs
  | receive => exact h.step_receive hs
  | drop =>
    cases hs
    exact h.of_wire rfl rfl rfl h.received_le h.replies_le fun _ _ hok => hok

end ChannelOk

theorem call_returns_own (es : List (Transition (Channel Req J) (Pick Req J))) (s : Channel Req J)
    (h : Channel.Runs (fun s a => Settled s a = true) es s) : Own s := by
  have hok : ChannelOk s := by
    apply h.invariant (P := fun _ s => ChannelOk s)
    · rintro s rfl
      exact ChannelOk.init
    · rintro es s a s' hok ⟨hs, hsettled⟩
      exact hok.step hsettled hs
  have hcall (i : ℕ) (c : Call Req J) (line : ℕ) (r : J) (hi : s.calls[i]? = some c)
      (hc : c.phase = .returned line r) :
      s.requests[line]? = some c.request ∧ s.replies[line]? = some r := by
    have hcall := hok.calls i c hi
    unfold CallOk at hcall
    rw [hc] at hcall
    exact hcall
  constructor
  · intro i j c d line r r' hi hj hc hd
    exact hok.lines i j c d line hi hj (by rw [hc]; rfl) (by rw [hd]; rfl)
  · exact fun i c line r hi hc => (hcall i c line r hi hc).1
  · exact fun i c line r hi hc => (hcall i c line r hi hc).2
  · intro i c line r S P get unknown failed value hi hc
    refine ⟨r, (hcall i c line r hi hc).2, ?_⟩
    have hresult : c.result = some (.ok r) := by
      unfold Call.result
      rw [hc]
    rw [hresult]
    exact ⟨rfl, rfl, rfl⟩

/-- A call times out; its reply comes, and only then the next call starts. -/
def lateLabels : List (Pick String (Reply Unit Unit)) :=
  [.call "get_state", .step 0 false, .step 0 false, .step 0 false, .step 0 true,
    .serve { ok := true, status := some () }, .receive, .call "set_kill_switch", .step 1 false,
    .step 1 false, .step 1 false, .serve { error := "no engine" }, .receive, .step 1 false]

theorem call_returns_own_late : ∃ es, ∃ s : Channel String (Reply Unit Unit),
    Channel.Runs (fun s a => Settled s a = true) es s ∧
    s.calls.map Call.result =
      [some (.error "control channel timeout"), some (.ok { error := "no engine" })] ∧ Own s := by
  obtain ⟨es, s, h, hgood⟩ := Run.exists_of_cond step (fun s a => Settled s a = true) {} lateLabels
    (fun s => decide (s.calls.map Call.result =
      [some (.error "control channel timeout"), some (.ok { error := "no engine" })]))
    (by decide +kernel)
  exact ⟨es, s, h, of_decide_eq_true hgood, call_returns_own es s h⟩

/-- A call times out, the next one writes its request, and only then the reply comes. -/
def overtakenLabels : List (Pick String (Reply Unit Unit)) :=
  [.call "get_state", .step 0 false, .step 0 false, .step 0 false, .step 0 true,
    .call "set_kill_switch", .step 1 false, .step 1 false, .step 1 false,
    .serve { ok := true, status := some () }, .receive, .step 1 false]

/-- A call times out, and the next one takes its reply: the kill switch is reported set
while the service has not even read the request. -/
theorem call_takes_late_reply : ∃ es, ∃ s : Channel String (Reply Unit Unit),
    Channel.Runs (fun _ _ => True) es s ∧ ∃ c ∈ s.calls, c.request = "set_kill_switch" ∧
      c.phase = .returned 1 { ok := true, status := some () } ∧
      c.result.map (okFlag Reply.ok) = some true ∧ s.replies[1]? = none := by
  obtain ⟨es, s, h, hgood⟩ := Run.exists_of_cond step (fun _ _ => True) {} overtakenLabels
    (fun s => decide (∃ c ∈ s.calls, c.request = "set_kill_switch" ∧
      c.phase = .returned 1 { ok := true, status := some () } ∧
      c.result.map (okFlag Reply.ok) = some true ∧ s.replies[1]? = none)) (by decide +kernel)
  exact ⟨es, s, h, of_decide_eq_true hgood⟩

end UrnetworkWindows.Ipc
