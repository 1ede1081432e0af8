/-
The ingress dns the app hands to the service (`IngressDnsSync.h`, and its parts of
`SdkHost.cpp`).

Values are queued in a slot that holds one.  The app's worker takes them out, sends them
and records the answer; a busy refusal is owed until the reader thread handles a pushed
status that ends the operation which refused it, and the reader puts what is owed back
into the slot.  Replies and pushes come over one pipe, in the order the service wrote
them, but a reply is only handed to the worker, which records it later.

So a refusal may be recorded after the push that should have released it
(`refusal_recorded_late`), and owed values may go back into the slot after the worker took
newer ones.  Where neither happens the service ends with the newest values
(`service_ends_with_newest`).
-/
import UrnetworkWindows.Ipc.Messages

namespace UrnetworkWindows.IngressDns

open Lib Controller Proto

/-! ### What is owed -/

/-- `ingressdns::ServiceAnswer`. -/
inductive ServiceAnswer
  | taken
  | busy
  | notTaken
deriving DecidableEq, Repr

/-- `extenderreset::EndsOperation`. -/
def endsOperation (state : TunnelState) : Bool :=
  state ≠ .starting && state ≠ .stopping

/-- `Owed::Answered`: what is owed after an answer to `request`. -/
def answered (request : SetIngressDns) (answer : ServiceAnswer) : Option SetIngressDns :=
  if answer = .busy then some request else none

/-- `Owed::TakeDue`: what is due, and what stays owed. -/
def takeDue (owed : Option SetIngressDns) (pushed : TunnelState) :
    Option SetIngressDns × Option SetIngressDns :=
  if endsOperation pushed then (owed, none) else (none, owed)

/-! ### What is queued -/

/-- `urnet::NetworkSpaceKey`. -/
structure NetworkSpaceKey where
  hostName : Option ByteArray
  envName : Option ByteArray

/-- `SetIngressDnsRequestFor`. -/
def setIngressDnsRequestFor (key : Option NetworkSpaceKey) (ingressCountryCode : ByteArray)
    (controlDohUrls : List ByteArray) : Option SetIngressDns := do
  let key ← key
  let hostName ← key.hostName
  let envName ← key.envName
  if hostName = .empty ∨ envName = .empty then none
  else some { hostName, envName, ingressCountryCode, controlDohUrls }

/-! ### The app, the pipe and the service -/

/-- What the service writes to the pipe. -/
inductive Message
  | push (state : TunnelState)
  | reply
deriving DecidableEq, Repr

/-- How far the worker's send has come: taken out of the slot, decided by the service,
answered on the pipe, and handed to the worker. -/
inductive Send
  | idle
  | asked (request : SetIngressDns)
  | decided (request : SetIngressDns) (answer : ServiceAnswer)
  | replied (request : SetIngressDns) (answer : ServiceAnswer)
  | handed (request : SetIngressDns) (answer : ServiceAnswer)

/-- `slot` is `ingressDnsSend_`, `due` what the reader has taken and not yet put back.
`ended` counts the operations whose last status is still to be written.  `held` is what
the service took last, `queued` what was queued last. -/
structure State where
  slot : Option SetIngressDns := none
  sending : Send := .idle
  owed : Option SetIngressDns := none
  due : Option SetIngressDns := none
  locked : Bool := false
  ended : ℕ := 0
  pipe : List Message := []
  held : Option SetIngressDns := none
  queued : Option SetIngressDns := none

/-- The app queues what its space holds; the worker takes the slot and records an answer;
the service decides a request and answers it; an operation begins, ends, and pushes its
last status; the service pushes any status; the reader handles the next message, and puts
back what was due. -/
inductive Act
  | queue (key : Option NetworkSpaceKey) (ingressCountryCode : ByteArray)
      (controlDohUrls : List ByteArray)
  | take
  | record
  | decide
  | reply
  | beginOperation
  | endOperation
  | pushEnd (state : TunnelState)
  | push (state : TunnelState)
  | handle
  | resend

/-- `QueueIngressDnsLocked`: newer values replace any not yet sent. -/
def queueIngressDns (s : State) : Option SetIngressDns → State
  | none => s
  | some request => { s with slot := some request, queued := some request }

/-- `QueueIngressDnsResend`. -/
def queueIngressDnsResend (s : State) (request : SetIngressDns) : State :=
  { s with slot := s.slot.or (some request), due := none }

/-- `TunnelController::SetIngressDns`, as far as the lock decides it. -/
def setIngressDns (s : State) (request : SetIngressDns) : State :=
  if s.locked then { s with sending := .decided request .busy }
  else { s with sending := .decided request .taken, held := some request }

/-- The reader thread handles one message. -/
def handleMessage (s : State) : Message → State
  | .push state =>
    { s with due := (takeDue s.owed state).1, owed := (takeDue s.owed state).2 }
  | .reply =>
    match s.sending with
    | .replied request answer => { s with sending := .handed request answer }
    | _ => s

/-- One step, if it can be taken. -/
def step (s : State) : Act → Option State
  | .queue key country urls => some (queueIngressDns s (setIngressDnsRequestFor key country urls))
  | .take =>
    match s.sending, s.slot with
    | .idle, some request => some { s with slot := none, sending := .asked request }
    | _, _ => none
  | .record =>
    match s.sending with
    | .handed request answer =>
      some { s with sending := .idle, owed := answered request answer }
    | _ => none
  | .decide =>
    match s.sending with
    | .asked request => some (setIngressDns s request)
    | _ => none
  | .reply =>
    match s.sending with
    | .decided request answer =>
      some { s with sending := .replied request answer, pipe := s.pipe ++ [.reply] }
    | _ => none
  | .beginOperation => if s.locked then none else some { s with locked := true }
  | .endOperation =>
    if s.locked then some { s with locked := false, ended := s.ended + 1 } else none
  | .pushEnd state =>
    if 0 < s.ended ∧ endsOperation state then
      some { s with ended := s.ended - 1, pipe := s.pipe ++ [.push state] }
    else none
  | .push state => some { s with pipe := s.pipe ++ [.push state] }
  | .handle =>
    match s.due, s.pipe with
    | none, m :: pipe => some (handleMessage { s with pipe } m)
    | _, _ => none
  | .resend => s.due.map (queueIngressDnsResend s)

/-- The runs of the app and the service. -/
abbrev Runs : List (Transition State Act) → State → Prop :=
  Run (· = {}) fun _ s a s' => step s a = some s'

/-- No operation holds the service's lock, every push is handled, and nothing is queued or
in flight. -/
structure Quiet (s : State) : Prop where
  free : s.locked = false
  ended : s.ended = 0
  pipe : s.pipe = []
  due : s.due = none
  slot : s.slot = none
  idle : s.sending = .idle

/-! ### The two orders that lose values -/

/-- A status that ends an operation is still to be handled, now or once the operation that
holds the lock has ended. -/
def ReleasePending (s : State) : Prop :=
  s.locked = true ∨ 0 < s.ended ∨ ∃ state, .push state ∈ s.pipe ∧ endsOperation state = true

/-- A busy answer is recorded while a status that ends an operation is still to be handled,
and what was due is put back only where newer values wait in the slot or there are none. -/
def InOrder (s : State) : Act → Prop
  | .record => ∀ request, s.sending = .handed request .busy → ReleasePending s
  | .resend => s.slot = none → s.due = s.queued
  | _ => True

/-- The runs in which neither order occurs. -/
abbrev OrderedRuns : List (Transition State Act) → State → Prop :=
  Run (· = {}) fun _ s a s' => step s a = some s' ∧ InOrder s a

/-- The values a send carries. -/
def Send.request : Send → Option SetIngressDns
  | .idle => none
  | .asked request | .decided request _ | .replied request _ | .handed request _ => some request

/-- The answer a send has got. -/
def Send.answer : Send → Option ServiceAnswer
  | .idle | .asked _ => none
  | .decided _ answer | .replied _ answer | .handed _ answer => some answer

/-- Where the newest values are: in the slot, with the worker, held by the service, on their
way back into the slot, or owed with a release to come. -/
structure Kept (s : State) : Prop where
  slot : ∀ request, s.slot = some request → s.queued = some request
  taken : s.sending.answer = some .taken → s.held = s.sending.request
  answers : s.sending.answer ≠ some .notTaken
  flight : s.slot = none → s.sending ≠ .idle → s.sending.request = s.queued
  rest : s.slot = none → s.sending = .idle → s.held = s.queued ∨
    (s.due ≠ none ∧ s.due = s.queued) ∨ s.owed ≠ none ∧ s.owed = s.queued ∧ ReleasePending s

namespace Kept

variable {s s' : State} {a : Act}

lemma init : Kept {} where
  slot := nofun
  taken := nofun
  answers := nofun
  flight _ h := absurd rfl h
  rest _ _ := .inl rfl

lemma mono (h : Kept s) (hslot : s'.slot = s.slot) (hsending : s'.sending = s.sending)
    (howed : s'.owed = s.owed) (hdue : s'.due = s.due) (hheld : s'.held = s.held)
    (hqueued : s'.queued = s.queued) (hpending : ReleasePending s → ReleasePending s') :
    Kept s' := by
  constructor
  · rw [hslot, hqueued]
    exact h.slot
  · rw [hsending, hheld]
    exact h.taken
  · rw [hsending]
    exact h.answers
  · rw [hslot, hsending, hqueued]
    exact h.flight
  · rw [hslot, hsending, hheld, hqueued, hdue, howed]
    intro hnone hidle
    rcases h.rest hnone hidle with hheld | hdue | ⟨hsome, howed, hrel⟩
    · exact .inl hheld
    · exact .inr (.inl hdue)
    · exact .inr (.inr ⟨hsome, howed, hpending hrel⟩)

lemma queue (h : Kept s) (request : Option SetIngressDns) : Kept (queueIngressDns s request) := by
  cases request with
  | none => exact h
  | some request =>
    constructor
    · intro r hr
      exact hr
    · exact h.taken
    · exact h.answers
    · exact nofun
    · exact nofun

lemma take (h : Kept s) {request : SetIngressDns} (hslot : s.slot = some request) :
    Kept { s with slot := none, sending := .asked request } where
  slot := nofun
  taken := nofun
  answers := nofun
  flight _ _ := (h.slot request hslot).symm
  rest _ hidle := absurd hidle nofun

lemma record (h : Kept s) {request : SetIngressDns} {answer : ServiceAnswer}
    (hsending : s.sending = .handed request answer)
    (hcond : answer = .busy → ReleasePending s) :
    Kept { s with sending := .idle, owed := answered request answer } := by
  have hanswer : s.sending.answer = some answer := by rw [hsending]; rfl
  have hrequest : s.sending.request = some request := by rw [hsending]; rfl
  constructor
  · exact h.slot
  · exact nofun
  · exact nofun
  · intro _ hidle
    exact absurd rfl hidle
  · intro hnone _
    have hnewest : some request = s.queued := by
      rw [← hrequest]
      exact h.flight hnone (by simp [hsending])
    cases answer with
    | taken =>
      -- the service holds what it took
      have hheld : s.held = some request := by rw [h.taken hanswer, hrequest]
      exact .inl (hheld.trans hnewest)
    | busy => exact .inr (.inr ⟨nofun, hnewest, hcond rfl⟩)
    | notTaken => exact absurd hanswer h.answers

lemma decide (h : Kept s) {request : SetIngressDns} (hsending : s.sending = .asked request) :
    Kept (setIngressDns s request) := by
  have hflight : s.slot = none → some request = s.queued := by
    intro hnone
    have hnewest := h.flight hnone (by simp [hsending])
    rwa [hsending] at hnewest
  unfold setIngressDns
  split
  · exact ⟨h.slot, nofun, nofun, fun hnone _ => hflight hnone, nofun⟩
  · exact ⟨h.slot, fun _ => rfl, nofun, fun hnone _ => hflight hnone, nofun⟩

lemma reply (h : Kept s) {request : SetIngressDns} {answer : ServiceAnswer}
    (hsending : s.sending = .decided request answer) :
    Kept { s with sending := .replied request answer, pipe := s.pipe ++ [.reply] } := by
  have htaken := h.taken
  have hanswers := h.answers
  have hflight := h.flight
  rw [hsending] at htaken hanswers hflight
  exact ⟨h.slot, htaken, hanswers, fun hnone _ => hflight hnone nofun, nofun⟩

lemma handle (h : Kept s) {m : Message} {pipe : List Message} (hdue : s.due = none)
    (hpipe : s.pipe = m :: pipe) : Kept (handleMessage { s with pipe } m) := by
  -- a message that ends no operation takes no release away
  have hkeeps : (∀ state, m = .push state → endsOperation state = false) → ReleasePending s →
      ReleasePending { s with pipe } := by
    rintro hm (hlocked | hended | ⟨state, hmem, hends⟩)
    · exact .inl hlocked
    · exact .inr (.inl hended)
    · rw [hpipe] at hmem
      rcases List.mem_cons.1 hmem with rfl | hmem
      · exact absurd hends (by simp [hm state rfl])
      · exact .inr (.inr ⟨state, hmem, hends⟩)
  cases m with
  | push state =>
    cases hends : endsOperation state with
    | false =>
      have hsame : handleMessage { s with pipe } (.push state) = { s with pipe } := by
        simp [handleMessage, takeDue, hends, ← hdue]
      rw [hsame]
      refine h.mono rfl rfl rfl rfl rfl rfl (hkeeps ?_)
      rintro _ ⟨⟩
      exact hends
    | true =>
      have hends' : handleMessage { s with pipe } (.push state) =
          { s with pipe, due := s.owed, owed := none } := by
        simp [handleMessage, takeDue, hends]
      rw [hends']
      refine ⟨h.slot, h.taken, h.answers, h.flight, ?_⟩
      intro hnone hidle
      rcases h.rest hnone hidle with hheld | ⟨hsome, -⟩ | ⟨hsome, howed, -⟩
      · exact .inl hheld
      · exact absurd hdue hsome
      · exact .inr (.inl ⟨hsome, howed⟩)
  | reply =>
    have hpending : ReleasePending s → ReleasePending { s with pipe } := hkeeps nofun
    show Kept (match s.sending with
      | .replied request answer => { s with pipe, sending := .handed request answer }
      | _ => { s with pipe })
    split
    · next request answer hsending =>
      have htaken := h.taken
      have hanswers := h.answers
      have hflight := h.flight
      rw [hsending] at htaken hanswers hflight
      exact ⟨h.slot, htaken, hanswers, fun hnone _ => hflight hnone nofun, nofun⟩
    · exact h.mono rfl rfl rfl rfl rfl rfl hpending

lemma resend (h : Kept s) {request : SetIngressDns} (hdue : s.due = some request)
    (hcond : s.slot = none → s.due = s.queued) : Kept (queueIngressDnsResend s request) := by
  have hslot : (s.slot.or (some request)) = s.queued := by
    cases hs : s.slot with
    | none => exact hdue.symm.trans (hcond hs)
    | some r => exact (h.slot r hs).symm
  have hsome : s.slot.or (some request) ≠ none := by simp
  refine ⟨fun r hr => ?_, h.taken, h.answers, fun hnone => absurd hnone hsome,
    fun hnone => absurd hnone hsome⟩
  exact hslot.symm.trans hr

lemma step (h : Kept s) (hcond : InOrder s a) (hs : IngressDns.step s a = some s') : Kept s' := by
  cases a with
  | queue key country urls =>
    cases hs
    exact h.queue _
  | take =>
    simp only [IngressDns.step] at hs
    split at hs
    · next request _ hslot =>
      cases hs
      exact h.take hslot
    · cases hs
  | record =>
    simp only [IngressDns.step] at hs
    split at hs
    · next request answer hsending =>
      cases hs
      refine h.record hsending ?_
      rintro rfl
      exact hcond request hsending
    · cases hs
  | decide =>
    simp only [IngressDns.step] at hs
    split at hs
    · next request hsending =>
      cases hs
      exact h.decide hsending
    · cases hs
  | reply =>
    simp only [IngressDns.step] at hs
    split at hs
    · next request answer hsending =>
      cases hs
      exact h.reply hsending
    · cases hs
  | beginOperation =>
    obtain ⟨-, rfl⟩ := stop_eq_some.1 hs
    exact h.mono rfl rfl rfl rfl rfl rfl fun _ => .inl rfl
  | endOperation =>
    obtain ⟨-, rfl⟩ := guard_eq_some.1 hs
    exact h.mono rfl rfl rfl rfl rfl rfl fun _ => .inr (.inl (Nat.succ_pos _))
  | pushEnd state =>
    obtain ⟨⟨-, hends⟩, rfl⟩ := guard_eq_some.1 hs
    refine h.mono rfl rfl rfl rfl rfl rfl fun _ => .inr (.inr ⟨state, ?_, hends⟩)
    exact List.mem_concat_self
  | push state =>
    cases hs
    refine h.mono rfl rfl rfl rfl rfl rfl ?_
    rintro (hlocked | hended | ⟨st, hmem, hends⟩)
    · exact .inl hlocked
    · exact .inr (.inl hended)
    · exact .inr (.inr ⟨st, List.mem_append_left _ hmem, hends⟩)
  | handle =>
    simp only [IngressDns.step] at hs
    split at hs
    · next m pipe hdue hpipe =>
      cases hs
      exact h.handle hdue hpipe
    · cases hs
  | resend =>
    obtain ⟨request, hdue, rfl⟩ := Option.map_eq_some_iff.1 hs
    exact h.resend hdue hcond

lemma of_run {es : List (Transition State Act)} (h : OrderedRuns es s) : Kept s := by
  induction h with
  | nil h => exact h ▸ init
  | snoc _ hs ih => exact ih.step hs.2 hs.1

end Kept

/-- **Where both orders are avoided, the service ends with the newest values.** -/
theorem service_ends_with_newest {es : List (Transition State Act)} {s : State}
    (h : OrderedRuns es s) (hquiet : Quiet s) : s.held = s.queued := by
  have hkept := Kept.of_run h
  rcases hkept.rest hquiet.slot hquiet.idle with hheld | ⟨hsome, -⟩ | ⟨-, -, hpending⟩
  · exact hheld
  · exact absurd hquiet.due hsome
  · rcases hpending with hlocked | hended | ⟨_, hmem, -⟩
    · exact absurd hlocked (by simp [hquiet.free])
    · exact absurd hended (by simp [hquiet.ended])
    · exact absurd hmem (by simp [hquiet.pipe])

/-! ### Runs -/

/-- A space's key. -/
def spaceKey : NetworkSpaceKey := ⟨some (utf8 "ur.network"), some (utf8 "main")⟩

/-- A region saved in that space, and no servers. -/
def saved (region : ByteArray) : SetIngressDns :=
  ⟨utf8 "ur.network", utf8 "main", region, []⟩

lemma setIngressDnsRequestFor_spaceKey (region : ByteArray) :
    setIngressDnsRequestFor (some spaceKey) region [] = some (saved region) := by
  have hhost : utf8 "ur.network" ≠ .empty := by decide
  have henv : utf8 "main" ≠ .empty := by decide
  simp [setIngressDnsRequestFor, spaceKey, saved, hhost, henv]

/-- The user saves a region. -/
def chooses (region : ByteArray) : Act := .queue (some spaceKey) region []

lemma step_chooses (s : State) (region : ByteArray) : step s (chooses region) =
    some { s with slot := some (saved region), queued := some (saved region) } := by
  rw [chooses, step, setIngressDnsRequestFor_spaceKey, queueIngressDns]

/-- A refusal that is recorded in order: the values go again, and are taken. -/
theorem service_ends_with_newest_resent : ∃ es s, OrderedRuns es s ∧ Quiet s ∧
    s.held = some (saved (utf8 "cn")) ∧ s.held = s.queued := by
  have h₀ : OrderedRuns [] {} := .nil rfl
  have h₁ := h₀.and_then (step_chooses _ (utf8 "cn")) trivial
  have h₂ := h₁.and_then (a := Act.take) rfl trivial
  have h₃ := h₂.and_then (a := Act.beginOperation) rfl trivial
  have h₄ := h₃.and_then (a := Act.decide) rfl trivial
  have h₅ := h₄.and_then (a := Act.reply) rfl trivial
  have h₆ := h₅.and_then (a := Act.handle) rfl trivial
  -- the operation still holds the lock when the refusal is recorded
  have h₇ := h₆.and_then (a := Act.record) rfl (fun _ _ => .inl rfl)
  have h₈ := h₇.and_then (a := Act.endOperation) rfl trivial
  have h₉ := h₈.and_then (a := Act.pushEnd .up) rfl trivial
  have h₁₀ := h₉.and_then (a := Act.handle) rfl trivial
  have h₁₁ := h₁₀.and_then (a := Act.resend) rfl (fun _ => rfl)
  have h₁₂ := h₁₁.and_then (a := Act.take) rfl trivial
  have h₁₃ := h₁₂.and_then (a := Act.decide) rfl trivial
  have h₁₄ := h₁₃.and_then (a := Act.reply) rfl trivial
  have h₁₅ := h₁₄.and_then (a := Act.handle) rfl trivial
  have h₁₆ := h₁₅.and_then (a := Act.record) rfl nofun
  refine ⟨_, _, h₁₆, ⟨rfl, rfl, rfl, rfl, rfl, rfl⟩, rfl, ?_⟩
  exact service_ends_with_newest h₁₆ ⟨rfl, rfl, rfl, rfl, rfl, rfl⟩

/-- The worker is told of the refusal, and the reader handles the push that ends the
operation before the worker has recorded it: the values stay owed, with nothing to come. -/
theorem refusal_recorded_late : ∃ es s, Runs es s ∧ Quiet s ∧ s.held ≠ s.queued := by
  have h₀ : Runs [] {} := .nil rfl
  have h₁ := h₀.snoc (step_chooses _ (utf8 "cn"))
  have h₂ := h₁.snoc (a := .take) rfl
  have h₃ := h₂.snoc (a := .beginOperation) rfl
  have h₄ := h₃.snoc (a := .decide) rfl
  have h₅ := h₄.snoc (a := .reply) rfl
  have h₆ := h₅.snoc (a := .handle) rfl
  have h₇ := h₆.snoc (a := .endOperation) rfl
  have h₈ := h₇.snoc (a := .pushEnd .up) rfl
  have h₉ := h₈.snoc (a := .handle) rfl
  have h₁₀ := h₉.snoc (a := .record) rfl
  exact ⟨_, _, h₁₀, ⟨rfl, rfl, rfl, rfl, rfl, rfl⟩, nofun⟩

end UrnetworkWindows.IngressDns
