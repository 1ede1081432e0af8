/-
What the app believes of the service is the service's last word (`SdkHost.cpp` with
`ServiceClient.cpp` and `PipeClient.cpp`).

The service writes replies and statuses into the pipe, and the reader thread takes them in that
order.  It adopts a pushed status at once, and leaves a reply to the call that holds
`callMutex_`, which adopts it in steps of its own once it has let the mutex go.  Several calls
adopt whatever `CallStatus` returns, and for a call that was not answered that is a status of
its own making (`invented_word`).  Where these calls are answered, and nothing comes between a
reply's delivery and the end of its adoption, the app's facts are the last status's
(`facts_last_word`).

A status is delivered where the reader hands it over, the ones in replies that nobody reads
included.  A dial closes the connection before and joins its reader: the drop's handler runs
before the next connection is up, or not at all, where the dial's `Close` has set `stopping_`
before the reader looks at it.
-/
import UrnetworkWindows.Lib.Exclusive
import UrnetworkWindows.Service.Facts

namespace UrnetworkWindows.ServiceFacts

open Lib Controller Proto

/-- The calls, by what becomes of their answers: the statuses of the hello, the start and the
stops of a pass, a quit and the tray, a sign-out's stop, the reads of a pass and of the
provider's reconcile, the provider's start and stop, and the calls that read `ok` alone. -/
inductive Call
  | hello
  | startTunnel
  | stopTunnel
  | signOutStop
  | gestureState
  | providerState
  | startProvider
  | stopProvider
  | setting
deriving DecidableEq, Repr

/-- What `PipeClient::Call` returns or throws. -/
abbrev Answer := Except ByteArray Reply

/-- `ServiceClient::CallStatus`, with its `answered`. -/
def callStatus : Answer → TunnelStatus × Bool
  | .ok r =>
    let status := r.status.getD {}
    if r.ok = false ∧ r.error ≠ .empty then
      ({ status with state := .error, error := r.error }, false)
    else (status, r.ok && r.status.isSome)
  | .error what => ({ state := .error, error := what }, false)

/-- The status that a call adopts. -/
def taken (connected : Bool) (answer : Answer) : Call → Option TunnelStatus
  | .hello => some (callStatus answer).1
  | .startTunnel => some (callStatus answer).1
  | .stopTunnel => some (callStatus answer).1
  | .signOutStop => if (callStatus answer).2 then some (callStatus answer).1 else none
  | .gestureState =>
    if connected && (callStatus answer).2 then some (callStatus answer).1 else none
  | .providerState => if (callStatus answer).2 then some (callStatus answer).1 else none
  | .startProvider => answer.toOption.bind Reply.status
  | .stopProvider => answer.toOption.bind Reply.status
  | .setting => none

/-- A caller's thread: it is about to take `callMutex_`, has cleared `haveReply_`, has asked,
has its answer and let the mutex go, adopts a status, or is through. -/
inductive Caller
  | wanting (call : Call)
  | cleared (call : Call)
  | asked (call : Call)
  | got (call : Call) (answer : Answer)
  | adopting (src : Facts) (left : List Field)
  | done

/-- The reader's thread: it is not there, reads, adopts a push, has cleared `connected_`, or
runs the drop's handler. -/
inductive Reader
  | gone
  | reading
  | adopting (src : Facts) (left : List Field)
  | dropping
  | handling (left : List Field)

/-- What the service writes. -/
inductive Message
  | reply (reply : Reply)
  | push (status : TunnelStatus)

def Message.status : Message → Option TunnelStatus
  | .reply r => r.status
  | .push st => some st

/-- `pipe` is what the service has written and the reader has not read, `requests` what it has
still to answer, `reply` the reply that waits for its call, and `latest` the last status
delivered over the connection. -/
structure State where
  connected : Bool := false
  reader : Reader := .gone
  pipe : List Message := []
  requests : ℕ := 0
  reply : Option Reply := none
  callMutex : Option ℕ := none
  callers : List Caller := []
  facts : Facts := {}
  latest : Option TunnelStatus := none

/-- A dial; what the service writes; the reader's next message, its next store, the drop, the
handler of the drop and a dial that forestalls it; a call that begins, takes the mutex, writes
its request, takes its reply or gives up, goes on with its answer and stores; and the stores of
a sign-out or a quit. -/
inductive Act
  | connect
  | serve (message : Message)
  | deliver
  | store
  | drop
  | handle
  | forestall
  | call (call : Call)
  | enter (i : ℕ)
  | write (i : ℕ) (ok : Bool)
  | take (i : ℕ)
  | timeOut (i : ℕ)
  | settle (i : ℕ)
  | storeBy (i : ℕ)
  | retire

namespace State

variable (s : State)

/-- What the service said last. -/
def word : Facts := s.latest.elim dropped Facts.of

/-- A caller's thread goes on. -/
def put (i : ℕ) (caller : Caller) : State := { s with callers := s.callers.set i caller }

/-- A message is read. -/
def received : Message → State
  | .push st =>
    { s with
      reader := .adopting (.of st) adoptServiceFacts
      latest := some st }
  | .reply r =>
    { s with
      reply := some r
      latest := if r.status.isSome then r.status else s.latest }

end State

/-- An adoption, or what is left of it. -/
def Caller.rest (src : Facts) : List Field → Caller
  | [] => .done
  | left => .adopting src left

def Reader.rest (src : Facts) : List Field → Reader
  | [] => .reading
  | left => .adopting src left

def Reader.restOfDrop : List Field → Reader
  | [] => .gone
  | left => .handling left

/-- One step of the reader, of the service and of the dials. -/
def readerStep (s : State) : Act → Option State
  | .connect =>
    match s.reader with
    | .gone =>
      if s.connected then none
      else some { s with connected := true, reader := .reading, pipe := [], requests := 0 }
    | _ => none
  | .serve (.push st) =>
    if s.connected ∧ Sendable st then some { s with pipe := s.pipe ++ [.push st] } else none
  | .serve (.reply r) =>
    if s.connected ∧ 0 < s.requests ∧ ∀ st ∈ r.status, Sendable st then
      some { s with pipe := s.pipe ++ [.reply r], requests := s.requests - 1 }
    else none
  | .deliver =>
    match s.reader, s.pipe with
    | .reading, m :: pipe => some ({ s with pipe }.received m)
    | _, _ => none
  | .store =>
    match s.reader with
    | .adopting src (f :: left) =>
      some { s with facts := s.facts.store src f, reader := .rest src left }
    | .handling (f :: left) =>
      some { s with facts := s.facts.store dropped f, reader := .restOfDrop left }
    | _ => none
  | .drop =>
    match s.reader with
    | .reading =>
      some { s with connected := false, reader := .dropping, pipe := [], latest := none }
    | _ => none
  | .handle =>
    match s.reader with
    | .dropping => some { s with reader := .handling onServiceDisconnected }
    | _ => none
  | .forestall =>
    match s.reader with
    | .dropping => some { s with reader := .gone }
    | _ => none
  | _ => none

/-- One step of a caller. -/
def callerStep (s : State) (i : ℕ) (caller : Caller) : Act → Option State
  | .enter _ =>
    match caller with
    | .wanting call =>
      if s.callMutex.isSome then none
      else if s.connected then
        some { s.put i (.cleared call) with callMutex := some i, reply := none }
      else some (s.put i (.got call (.error (utf8 "control channel not connected"))))
    | _ => none
  | .write _ ok =>
    match caller with
    | .cleared call =>
      if ok = false then
        some { s.put i (.got call (.error (utf8 "control channel write failed"))) with
          callMutex := none }
      else if s.connected then some { s.put i (.asked call) with requests := s.requests + 1 }
      else none
    | _ => none
  | .take _ =>
    match caller, s.reply with
    | .asked call, some r =>
      some { s.put i (.got call (.ok r)) with callMutex := none, reply := none }
    | _, _ => none
  | .timeOut _ =>
    match caller, s.reply with
    | .asked call, none =>
      some { s.put i (.got call (.error (utf8 "control channel timeout"))) with callMutex := none }
    | _, _ => none
  | .settle _ =>
    match caller with
    | .got call answer =>
      match taken s.connected answer call with
      | some st => some (s.put i (.adopting (.of st) adoptServiceFacts))
      | none => some (s.put i .done)
    | _ => none
  | .storeBy _ =>
    match caller with
    | .adopting src (f :: left) =>
      some { s.put i (.rest src left) with facts := s.facts.store src f }
    | _ => none
  | _ => none

/-- One step, if it can be taken. -/
def step (s : State) : Act → Option State
  | .call call => some { s with callers := s.callers ++ [.wanting call] }
  | .retire => some { s with callers := s.callers ++ [.adopting dropped retireProvider] }
  | .enter i => s.callers[i]?.bind fun caller => callerStep s i caller (.enter i)
  | .write i ok => s.callers[i]?.bind fun caller => callerStep s i caller (.write i ok)
  | .take i => s.callers[i]?.bind fun caller => callerStep s i caller (.take i)
  | .timeOut i => s.callers[i]?.bind fun caller => callerStep s i caller (.timeOut i)
  | .settle i => s.callers[i]?.bind fun caller => callerStep s i caller (.settle i)
  | .storeBy i => s.callers[i]?.bind fun caller => callerStep s i caller (.storeBy i)
  | a => readerStep s a

/-! ### The last word -/

/-- What a status says of every field is what `word` has there. -/
def Says (st : TunnelStatus) (word : Facts) : Prop :=
  ∀ f ∈ adoptServiceFacts, (Facts.of st).Shows word f

instance (st : TunnelStatus) (word : Facts) : Decidable (Says st word) :=
  inferInstanceAs (Decidable (∀ f ∈ _, _))

/-- The fields that the app shows of the service. -/
structure Facts.Believes (facts word : Facts) : Prop where
  state : facts.lastServiceState = word.lastServiceState
  routes : facts.lastServiceRoutesInstalled = word.lastServiceRoutesInstalled
  dns : facts.lastServiceDnsApplied = word.lastServiceDnsApplied
  wfp : facts.lastServiceWfpState = word.lastServiceWfpState
  provider : facts.serviceProviderRunning = word.serviceProviderRunning
  egress : facts.egress = word.egress

/-- No adoption or drop handler is in progress. -/
def Reader.Still : Reader → Prop
  | .gone => True
  | .reading => True
  | _ => False

def Caller.Still : Caller → Prop
  | .adopting _ _ => False
  | _ => True

/-- No call or adoption is in progress. -/
def Caller.Idle : Caller → Prop
  | .wanting _ => True
  | .done => True
  | _ => False

/-- The service did not answer with a status. -/
def Answer.Unanswered (answer : Answer) : Prop := answer.toOption.bind Reply.status = none

/-- What the app believes is the service's last word. -/
structure LastWord (es : List (Transition State Act)) (s : State) : Prop where
  believes : s.reader.Still → (∀ c ∈ s.callers, c.Idle) → s.connected = true →
    s.facts.Believes s.word
  /-- The values of the drop stay, during calls too. -/
  afterDrop : s.reader.Still → (∀ c ∈ s.callers, c.Still) → s.latest = none →
    s.facts.Believes dropped
  sent : ∀ st, s.latest = some st →
    ∃ e ∈ es, ∃ m : Message, e.label = .serve m ∧ m.status = some st
  unanswered : ∀ e ∈ es, ∀ (i : ℕ) (call : Call) (answer : Answer), e.label = .settle i →
    e.pre.callers[i]? = some (.got call answer) → answer.Unanswered →
    e.post.facts = e.pre.facts ∧ e.post.callers[i]? = some .done

/-- The calls that adopt whatever `CallStatus` returns. -/
def Call.trusts : Call → Bool
  | .hello => true
  | .startTunnel => true
  | .stopTunnel => true
  | _ => false

/-- What a call takes a reply with a status for an answer by. -/
def Call.GoesBy (r : Reply) (st : TunnelStatus) : Call → Prop
  | .hello => r.ok = true ∨ r.error = .empty ∨ st.state = .error
  | .startTunnel => r.ok = true ∨ r.error = .empty ∨ st.state = .error
  | .stopTunnel => r.ok = true ∨ r.error = .empty ∨ st.state = .error
  | .signOutStop => r.ok = true
  | .gestureState => r.ok = true
  | .providerState => r.ok = true
  | .startProvider => True
  | .stopProvider => True
  | .setting => False

instance (r : Reply) (st : TunnelStatus) (call : Call) : Decidable (call.GoesBy r st) := by
  cases call <;> unfold Call.GoesBy <;> infer_instance

/-- The service answered the call with a status. -/
def Answer.Answers (call : Call) : Answer → Prop
  | .ok r => ∃ st ∈ r.status, call.GoesBy r st
  | .error _ => False

instance (call : Call) (answer : Answer) : Decidable (answer.Answers call) := by
  cases answer <;> unfold Answer.Answers <;> infer_instance

/-- A reply to the call says nothing but `word`. -/
def Call.Agrees (call : Call) (r : Reply) (word : Facts) : Prop :=
  ∀ st ∈ r.status, call.GoesBy r st → Says st word

instance (call : Call) (r : Reply) (word : Facts) : Decidable (call.Agrees r word) :=
  inferInstanceAs (Decidable (∀ st ∈ _, _ → _))

/-- A reply that is there for the call, or that it has, says `word`, and so does what is left of
an adoption. -/
def Caller.Agrees (reply : Option Reply) (word : Facts) : Caller → Prop
  | .cleared call => ∀ r ∈ reply, call.Agrees r word
  | .asked call => ∀ r ∈ reply, call.Agrees r word
  | .got call answer => ∀ r ∈ answer.toOption, call.Agrees r word
  | .adopting src left => ∀ f ∈ left, src.Shows word f
  | _ => True

instance (reply : Option Reply) (word : Facts) (c : Caller) : Decidable (c.Agrees reply word) := by
  cases c <;> unfold Caller.Agrees <;> infer_instance

/-- Nothing between a reply's delivery and the end of its adoption says anything but `word`. -/
def State.Agrees (s : State) (word : Facts) : Prop := ∀ c ∈ s.callers, c.Agrees s.reply word

instance (s : State) (word : Facts) : Decidable (s.Agrees word) :=
  inferInstanceAs (Decidable (∀ c ∈ _, _))

/-- The call waits for its reply. -/
def Caller.waits : Caller → Bool
  | .asked _ => true
  | _ => false

/-- The call waits for this reply, and is answered by it. -/
def Caller.Hears (r : Reply) (st : TunnelStatus) : Caller → Prop
  | .asked call => call.GoesBy r st
  | _ => False

instance (r : Reply) (st : TunnelStatus) (c : Caller) : Decidable (c.Hears r st) := by
  cases c <;> unfold Caller.Hears <;> infer_instance

/-- A reply says nothing new, and takes no other's place, or it answers the call that waits,
and no older one is still adopted that says something else. -/
def State.InOrder (s : State) (r : Reply) : Prop :=
  (∀ st ∈ r.status, Says st s.word) ∧ (s.reply.isNone ∨ ∀ c ∈ s.callers, c.waits = false) ∨
    ∃ st ∈ r.status, (∀ c ∈ s.callers, c.Agrees none (.of st)) ∧
      ∃ c ∈ s.callers, c.Hears r st

instance (s : State) (r : Reply) : Decidable (s.InOrder r) := by
  unfold State.InOrder
  infer_instance

/-- The calls that adopt whatever `CallStatus` returns are answered, and nothing comes between a
reply's delivery and the end of its adoption. -/
def State.Adopting (s : State) : Act → Prop
  | .deliver =>
    match s.pipe with
    | .push st :: _ => s.Agrees (.of st)
    | .reply r :: _ => s.InOrder r
    | [] => True
  | .drop => s.Agrees dropped
  | .forestall => ∀ f ∈ adoptServiceFacts, s.facts.Shows dropped f
  | .settle i =>
    match s.callers[i]? with
    | some (.got call answer) => call.trusts = true → answer.Answers call
    | _ => True
  | .retire => ∀ f ∈ retireProvider, dropped.Shows s.word f
  | _ => True

instance (s : State) (a : Act) : Decidable (s.Adopting a) := by
  unfold State.Adopting
  split
  · split <;> infer_instance
  · infer_instance
  · infer_instance
  · split <;> infer_instance
  · infer_instance
  · infer_instance

/-- Every run. -/
abbrev Runs : List (Transition State Act) → State → Prop :=
  Run (fun s => s = {}) fun _ s a s' => step s a = some s'

/-- The runs in which every step meets the condition. -/
abbrev CondRuns : List (Transition State Act) → State → Prop :=
  Run (fun s => s = {}) fun _ s a s' => step s a = some s' ∧ s.Adopting a

/-! ### The statuses that are adopted -/

variable {st st' : TunnelStatus} {w w' : Facts} {f : Field}

lemma Says.shows (h : Says st w) (f : Field) : (Facts.of st).Shows w f :=
  h f (mem_adoptServiceFacts f)

lemma Says.of_shows (h : ∀ f, (Facts.of st).Shows w f) : Says st w := fun f _ => h f

lemma Says.trans (h : Says st w) (hw : ∀ f, w.Shows w' f) : Says st w' :=
  .of_shows fun f => (h.shows f).trans (hw f)

/-- An answer names interfaces by their indexes. -/
def Answer.Sendable (answer : Answer) : Prop :=
  ∀ st, answer.toOption.bind Reply.status = some st → ServiceFacts.Sendable st

lemma callStatus_sendable {answer : Answer} (h : answer.Sendable) :
    Sendable (callStatus answer).1 := by
  cases answer with
  | error what => exact (by decide : Sendable {})
  | ok r =>
    have hgot : Sendable (r.status.getD {}) := by
      cases hstatus : r.status with
      | none => exact (by decide : Sendable {})
      | some st => exact h st hstatus
    unfold callStatus
    dsimp only
    split_ifs
    · exact hgot
    · exact hgot

lemma taken_cases {connected : Bool} {answer : Answer} {call : Call}
    (h : taken connected answer call = some st) :
    st = (callStatus answer).1 ∨ answer.toOption.bind Reply.status = some st := by
  cases call with
  | hello | startTunnel | stopTunnel => exact .inl (Option.some.inj h).symm
  | signOutStop | gestureState | providerState =>
    obtain ⟨-, h⟩ := Option.ite_none_right_eq_some.1 h
    exact .inl (Option.some.inj h).symm
  | startProvider | stopProvider => exact .inr h
  | setting => cases h

lemma taken_sendable {connected : Bool} {answer : Answer} {call : Call}
    (ha : answer.Sendable) (h : taken connected answer call = some st) : Sendable st := by
  rcases taken_cases h with rfl | h
  · exact callStatus_sendable ha
  · exact ha st h

lemma of_callStatus {r : Reply} (hst : r.status = some st)
    (h : r.ok = true ∨ r.error = .empty ∨ st.state = .error) :
    Facts.of (callStatus (.ok r)).1 = Facts.of st := by
  unfold callStatus
  dsimp only
  rw [hst, Option.getD_some]
  split_ifs with hfailed
  · -- a failure's state is Error, and here the status says so itself
    obtain ⟨hok, herror⟩ := hfailed
    have hstate : st.state = .error := by
      rcases h with h | h | h
      · exact absurd (hok.symm.trans h) nofun
      · exact absurd h herror
      · exact h
    unfold Facts.of
    rw [hstate]
  · rfl

lemma callStatus_of_answered {answer : Answer} (h : (callStatus answer).2 = true) :
    ∃ (r : Reply) (st : TunnelStatus), answer = .ok r ∧ r.status = some st ∧ r.ok = true ∧
      (callStatus answer).1 = st := by
  cases answer with
  | error what => exact absurd h nofun
  | ok r =>
    unfold callStatus at h ⊢
    dsimp only at h ⊢
    split_ifs at h ⊢
    obtain ⟨hok, hstatus⟩ := Bool.and_eq_true_iff.1 h
    obtain ⟨st, hst⟩ := Option.isSome_iff_exists.1 hstatus
    exact ⟨r, st, rfl, hst, hok, by rw [hst]; rfl⟩

lemma goesBy_of_taken {connected : Bool} {answer : Answer} {call : Call}
    (h : taken connected answer call = some st)
    (htrusts : call.trusts = true → answer.Answers call) :
    ∃ (r : Reply) (st' : TunnelStatus), answer = .ok r ∧ r.status = some st' ∧
      call.GoesBy r st' ∧ Facts.of st = Facts.of st' := by
  cases call with
  | hello | startTunnel | stopTunnel =>
    obtain rfl := Option.some.inj h
    cases answer with
    | error what => exact (htrusts rfl).elim
    | ok r =>
      obtain ⟨st', hst, hgoes⟩ := htrusts rfl
      exact ⟨r, st', rfl, hst, hgoes, of_callStatus hst hgoes⟩
  | signOutStop | gestureState | providerState =>
    obtain ⟨hanswered, h⟩ := Option.ite_none_right_eq_some.1 h
    obtain rfl := Option.some.inj h
    have hgot : (callStatus answer).2 = true := by
      first
      | exact hanswered
      | exact (Bool.and_eq_true_iff.1 hanswered).2
    obtain ⟨r, st', hr, hst, hok, heq⟩ := callStatus_of_answered hgot
    exact ⟨r, st', hr, hst, hok, congrArg Facts.of heq⟩
  | startProvider | stopProvider =>
    obtain ⟨r, hr, hst⟩ := Option.bind_eq_some_iff.1 h
    cases answer with
    | error what => cases hr
    | ok r' =>
      cases hr
      exact ⟨r, st, rfl, hst, trivial, rfl⟩
  | setting => cases h

lemma taken_of_goesBy {r : Reply} {call : Call} (hst : r.status = some st)
    (hgoes : call.GoesBy r st) :
    ∃ st' ∈ taken true (.ok r) call, Facts.of st' = Facts.of st := by
  have hanswered : r.ok = true → (callStatus (.ok r)).2 = true := by
    intro hok
    simp [callStatus, hok, hst]
  cases call with
  | hello | startTunnel | stopTunnel => exact ⟨_, rfl, of_callStatus hst hgoes⟩
  | signOutStop | gestureState | providerState =>
    refine ⟨(callStatus (.ok r)).1, ?_, of_callStatus hst (.inl hgoes)⟩
    unfold taken
    simp [hanswered hgoes]
  | startProvider | stopProvider => exact ⟨st, hst, rfl⟩
  | setting => exact hgoes.elim

lemma Says.of_eq (h : Says st w) (heq : Facts.of st' = Facts.of st) : Says st' w := by
  unfold Says
  rw [heq]
  exact h

lemma says_of (st : TunnelStatus) : Says st (.of st) := by
  intro f _
  cases f <;> first | rfl | trivial

/-! ### What holds along a run -/

/-- The call holds `callMutex_`. -/
def Caller.holds : Caller → Bool
  | .cleared _ => true
  | .asked _ => true
  | _ => false

/-- What an adoption in progress is of can be bound, and an answer was sent. -/
def Caller.Fine : Caller → Prop
  | .adopting src _ => src.Bindable
  | .got _ answer => answer.Sendable
  | _ => True

def Reader.Fine (word : Facts) : Reader → Prop
  | .adopting src left => src.Bindable ∧ ∀ f ∈ left, src.Shows word f
  | .handling left => ∀ f ∈ left, dropped.Shows word f
  | _ => True

/-- The reader's connection is up. -/
def Reader.up : Reader → Bool
  | .reading => true
  | .adopting _ _ => true
  | _ => false

/-- A field is still to be stored. -/
def Caller.Covers (connected : Bool) (reply : Option Reply) (latest : Option TunnelStatus)
    (f : Field) : Caller → Prop
  | .asked call => ∃ word ∈ latest, ∃ r ∈ reply, ∃ st ∈ taken connected (.ok r) call,
      Says st (.of word)
  | .got call answer => ∃ word ∈ latest, ∃ st ∈ taken connected answer call, Says st (.of word)
  | .adopting _ left => f ∈ left
  | _ => False

def Reader.Covers (f : Field) : Reader → Prop
  | .adopting _ left => f ∈ left
  | .dropping => True
  | .handling left => f ∈ left
  | _ => False

/-- What each field shows is the last word, or is still to be stored. -/
structure Kept (s : State) : Prop where
  bound : s.facts.Bound
  pipe : ∀ m ∈ s.pipe, ∀ st, m.status = some st → Sendable st
  reply : ∀ r, s.reply = some r → ∀ st, r.status = some st → Sendable st
  callers : ∀ (i : ℕ) (x : Caller), s.callers[i]? = some x → x.Fine
  agrees : s.Agrees s.word
  reader : s.reader.Fine s.word
  up : s.connected = s.reader.up
  down : s.connected = false → s.latest = none
  lock : Exclusive s.callMutex fun i => ∃ x : Caller, s.callers[i]? = some x ∧ x.holds = true
  shown : ∀ f, s.facts.Shows s.word f ∨
    (∃ x ∈ s.callers, x.Covers s.connected s.reply s.latest f) ∨ s.reader.Covers f

variable {s s' : State} {i : ℕ} {x y : Caller}

/-- A reply that says nothing new leaves the word as it was. -/
lemma State.word_repeated {r : Reply} (pipe : List Message)
    (hsame : ∀ st ∈ r.status, Says st s.word) (f : Field) :
    s.word.Shows ({ s with pipe }.received (.reply r)).word f := by
  unfold State.received
  dsimp only
  cases hstatus : r.status with
  | none => cases f <;> first | rfl | trivial
  | some st => exact ((hsame st hstatus).shows f).symm

lemma State.word_told {r : Reply} {pipe : List Message} (hst : r.status = some st) :
    ({ s with pipe }.received (.reply r)).word = Facts.of st := by
  unfold State.received
  dsimp only
  rw [hst]
  rfl

lemma Caller.Agrees.unread {reply : Option Reply} (h : x.Agrees reply w) : x.Agrees none w := by
  cases x with
  | cleared call | asked call => simp [Caller.Agrees]
  | _ => exact h

lemma Caller.Agrees.failed {reply : Option Reply} {call : Call} {what : ByteArray} :
    (Caller.got call (.error what)).Agrees reply w := by
  rintro r ⟨⟩

/-- What a call is told and what it adopts is the last word still, where the new one shows no
less. -/
lemma Caller.Agrees.trans {reply : Option Reply} (h : x.Agrees reply w)
    (hw : ∀ f, w.Shows w' f) : x.Agrees reply w' := by
  cases x with
  | cleared call | asked call | got call answer =>
    exact fun r hr st hst hgoes => (h r hr st hst hgoes).trans hw
  | adopting src left => exact fun f hf => (h f hf).trans (hw f)
  | _ => trivial

/-- A reply that is delivered agrees with the word it brings. -/
lemma Caller.Agrees.told {r : Reply} (h : x.Agrees none w) (hall : ∀ st ∈ r.status, Says st w) :
    x.Agrees (some r) w := by
  cases x with
  | cleared call | asked call =>
    intro r' hr'
    cases hr'
    exact fun st hst _ => hall st hst
  | _ => exact h

namespace State.Agrees

lemma put (h : s.Agrees w) {reply : Option Reply} (hreply : reply = s.reply ∨ reply = none)
    (hy : y.Agrees reply w) : ∀ c ∈ s.callers.set i y, c.Agrees reply w := by
  intro c hc
  rcases List.mem_or_eq_of_mem_set hc with hc | rfl
  · rcases hreply with rfl | rfl
    · exact h c hc
    · exact (h c hc).unread
  · exact hy

lemma join (h : s.Agrees w) (hy : y.Agrees s.reply w) :
    ∀ c ∈ s.callers ++ [y], c.Agrees s.reply w := by
  intro c hc
  rcases List.mem_append.1 hc with hc | hc
  · exact h c hc
  · rw [List.mem_singleton.1 hc]
    exact hy

end State.Agrees

namespace Kept

lemma init : Kept {} where
  bound := Facts.bound_init
  pipe := by simp
  reply := by simp
  callers := by simp
  agrees := by simp [State.Agrees]
  reader := trivial
  up := rfl
  down _ := rfl
  lock j hj := by simp at hj
  shown f := .inl (by cases f <;> trivial)

lemma put (h : Kept s) (hi : s.callers[i]? = some x) {facts : Facts} {reply : Option Reply}
    {callMutex : Option ℕ} {requests : ℕ} (hfine : y.Fine) (hagrees : y.Agrees reply s.word)
    (hbound : facts.Bound) (hreply : reply = s.reply ∨ reply = none)
    (hlock : Exclusive callMutex fun j : ℕ => ∃ z : Caller, (s.callers.set i y)[j]? = some z ∧
      z.holds = true)
    (hfacts : ∀ f, s.facts.Shows s.word f → facts.Shows s.word f)
    (hcover : ∀ f, x.Covers s.connected s.reply s.latest f →
      facts.Shows s.word f ∨ y.Covers s.connected reply s.latest f)
    (hothers : reply = s.reply ∨ ∀ (j : ℕ) (z : Caller), j ≠ i → s.callers[j]? = some z →
      z.waits = false) :
    Kept { s.put i y with facts, reply, callMutex, requests } where
  bound := hbound
  pipe := h.pipe
  reply r hr := by
    rcases hreply with rfl | rfl
    · exact h.reply r hr
    · cases hr
  callers j z hj := by
    rcases getElem?_set_cases hj with ⟨-, rfl⟩ | ⟨-, hj⟩
    · exact hfine
    · exact h.callers j z hj
  agrees := h.agrees.put hreply hagrees
  reader := h.reader
  up := h.up
  down := h.down
  lock := hlock
  shown f := by
    rcases h.shown f with hshows | ⟨z, hz, hcovers⟩ | hreader
    · exact .inl (hfacts f hshows)
    · obtain ⟨j, hj⟩ := List.mem_iff_getElem?.1 hz
      by_cases hji : j = i
      · subst hji
        cases hi.symm.trans hj
        refine (hcover f hcovers).imp_right fun hy => .inl ⟨y, ?_, hy⟩
        exact List.mem_of_getElem? (List.getElem?_set_self (List.getElem?_eq_some_iff.1 hi).1)
      · refine .inr (.inl ⟨z, ?_, ?_⟩)
        · exact List.mem_of_getElem? ((List.getElem?_set_ne (Ne.symm hji)).trans hj)
        · -- only a call that waits looks at the reply
          rcases hothers with rfl | hothers
          · exact hcovers
          · cases z with
            | asked call => exact absurd (hothers j _ hji hj) nofun
            | _ => exact hcovers
    · exact .inr (.inr hreader)

lemma join (h : Kept s) (hfine : y.Fine) (hagrees : y.Agrees s.reply s.word)
    (hholds : y.holds = false) : Kept { s with callers := s.callers ++ [y] } where
  bound := h.bound
  pipe := h.pipe
  reply := h.reply
  callers j z hj := by
    rcases getElem?_snoc_cases hj with hj | ⟨-, rfl⟩
    · exact h.callers j z hj
    · exact hfine
  agrees := h.agrees.join hagrees
  reader := h.reader
  up := h.up
  down := h.down
  lock := by
    refine h.lock.stay ?_
    rintro j ⟨z, hj, hz⟩
    rcases getElem?_snoc_cases hj with hj | ⟨-, rfl⟩
    · exact ⟨z, hj, hz⟩
    · exact absurd (hholds.symm.trans hz) nofun
  shown f := by
    rcases h.shown f with hshows | ⟨z, hz, hcovers⟩ | hreader
    · exact .inl hshows
    · exact .inr (.inl ⟨z, List.mem_append_left _ hz, hcovers⟩)
    · exact .inr (.inr hreader)

lemma lock_stay (h : Kept s) (hi : s.callers[i]? = some x)
    (hy : y.holds = true → x.holds = true) :
    Exclusive s.callMutex fun j : ℕ => ∃ z : Caller, (s.callers.set i y)[j]? = some z ∧
      z.holds = true := by
  refine h.lock.stay ?_
  rintro j ⟨z, hj, hz⟩
  rcases getElem?_set_cases hj with ⟨rfl, rfl⟩ | ⟨-, hj⟩
  · exact ⟨x, hi, hy hz⟩
  · exact ⟨z, hj, hz⟩

lemma lock_take (h : Kept s) (hfree : s.callMutex = none) :
    Exclusive (some i) fun j : ℕ => ∃ z : Caller, (s.callers.set i y)[j]? = some z ∧
      z.holds = true := by
  have hlock := h.lock
  rw [hfree] at hlock
  refine hlock.take ?_
  rintro j hji ⟨z, hj, hz⟩
  rcases getElem?_set_cases hj with ⟨rfl, -⟩ | ⟨-, hj⟩
  · exact absurd rfl hji
  · exact ⟨z, hj, hz⟩

lemma lock_release (h : Kept s) (hi : s.callers[i]? = some x) (hx : x.holds = true)
    (hy : y.holds = false) :
    Exclusive none fun j : ℕ => ∃ z : Caller, (s.callers.set i y)[j]? = some z ∧
      z.holds = true := by
  have hlock := h.lock
  rw [hlock i ⟨x, hi, hx⟩] at hlock
  refine hlock.release ?_ ?_
  · rintro ⟨z, hj, hz⟩
    rcases getElem?_set_cases hj with ⟨-, rfl⟩ | ⟨hne, -⟩
    · exact absurd (hy.symm.trans hz) nofun
    · exact hne rfl
  · rintro j hji ⟨z, hj, hz⟩
    rcases getElem?_set_cases hj with ⟨rfl, -⟩ | ⟨-, hj⟩
    · exact absurd rfl hji
    · exact ⟨z, hj, hz⟩

lemma agrees_at (h : Kept s) (hi : s.callers[i]? = some x) : x.Agrees s.reply s.word :=
  h.agrees x (List.mem_of_getElem? hi)

lemma not_waits (h : Kept s) (hfree : s.callMutex = none ∨ s.callMutex = some i) {j : ℕ}
    (hji : j ≠ i) {z : Caller} (hj : s.callers[j]? = some z) : z.waits = false := by
  cases z with
  | asked call =>
    have hholder := h.lock j ⟨_, hj, rfl⟩
    rcases hfree with hfree | hfree
    · exact absurd (hfree.symm.trans hholder) nofun
    · exact absurd (Option.some.inj (hfree.symm.trans hholder)).symm hji
  | _ => rfl

variable {call : Call}

lemma enter (h : Kept s) (hi : s.callers[i]? = some (.wanting call)) (hfree : s.callMutex = none) :
    Kept { s.put i (.cleared call) with callMutex := some i, reply := none } := by
  refine h.put hi trivial (by simp [Caller.Agrees]) h.bound (.inr rfl) (h.lock_take hfree)
    (fun _ => id) ?_ (.inr ?_)
  · exact fun f hf => hf.elim
  · exact fun j z hji hj => h.not_waits (.inl hfree) hji hj

lemma fails (h : Kept s) (hi : s.callers[i]? = some x) {what : ByteArray} {callMutex : Option ℕ}
    (hx : ∀ f, ¬ x.Covers s.connected s.reply s.latest f)
    (hlock : Exclusive callMutex fun j : ℕ => ∃ z : Caller, (s.callers.set i (.got call (.error
    what)))[j]? = some z ∧ z.holds = true) :
    Kept { s.put i (.got call (.error what)) with callMutex } := by
  refine h.put hi ?_ (fun r hr => nomatch hr) h.bound (.inl rfl) hlock (fun _ => id) ?_ (.inl rfl)
  · exact fun st hst => absurd hst (by simp [Except.toOption])
  · exact fun f hf => absurd hf (hx f)

lemma asks (h : Kept s) (hi : s.callers[i]? = some (.cleared call)) :
    Kept { s.put i (.asked call) with requests := s.requests + 1 } := by
  have htold : (Caller.cleared call).Agrees s.reply s.word := h.agrees_at hi
  refine h.put hi trivial htold h.bound (.inl rfl) (h.lock_stay hi fun _ => rfl) (fun _ => id) ?_
    (.inl rfl)
  exact fun f hf => hf.elim

lemma take (h : Kept s) {r : Reply} (hi : s.callers[i]? = some (.asked call))
    (hr : s.reply = some r) :
    Kept { s.put i (.got call (.ok r)) with callMutex := none, reply := none } := by
  refine h.put hi (h.reply r hr) ?_ h.bound (.inr rfl) (h.lock_release hi rfl rfl) (fun _ => id)
    ?_ (.inr ?_)
  · rintro r' ⟨⟩
    exact h.agrees_at hi r hr
  · rintro f ⟨word, hword, r', hr', hst⟩
    cases hr.symm.trans hr'
    exact .inr ⟨word, hword, hst⟩
  · exact fun j z hji hj => h.not_waits (.inr (h.lock i ⟨_, hi, rfl⟩)) hji hj

lemma adopts (h : Kept s) {answer : Answer} {st : TunnelStatus}
    (hi : s.callers[i]? = some (.got call answer)) (hst : taken s.connected answer call = some st)
    (hsame : Says st s.word) : Kept (s.put i (.adopting (.of st) adoptServiceFacts)) := by
  refine h.put hi ?_ (fun f _ => hsame.shows f) h.bound (.inl rfl) (h.lock_stay hi nofun)
    (fun _ => id) ?_ (.inl rfl)
  · exact Facts.of_bindable (taken_sendable (h.callers i _ hi) hst)
  · exact fun f _ => .inr (mem_adoptServiceFacts f)

lemma leaves (h : Kept s) {answer : Answer} (hi : s.callers[i]? = some (.got call answer))
    (hst : taken s.connected answer call = none) : Kept (s.put i .done) := by
  refine h.put hi trivial trivial h.bound (.inl rfl) (h.lock_stay hi nofun) (fun _ => id) ?_
    (.inl rfl)
  rintro f ⟨word, hword, st, hst', -⟩
  exact absurd (hst.symm.trans hst') nofun

lemma stores (h : Kept s) {src : Facts} {f : Field} {left : List Field}
    (hi : s.callers[i]? = some (.adopting src (f :: left))) :
    Kept { s.put i (.rest src left) with facts := s.facts.store src f } := by
  have hbindable : src.Bindable := h.callers i _ hi
  have hsrc : ∀ g ∈ f :: left, src.Shows s.word g := h.agrees_at hi
  have hshows : (s.facts.store src f).Shows s.word f :=
    (Facts.store_shows h.bound hbindable).trans (hsrc f (List.mem_cons_self ..))
  refine h.put hi ?_ ?_ (h.bound.store hbindable) (.inl rfl) (h.lock_stay hi ?_) ?_ ?_ (.inl rfl)
  · cases left with
    | nil => trivial
    | cons g left => exact hbindable
  · cases left with
    | nil => trivial
    | cons g left => exact fun g' hg' => hsrc g' (List.mem_cons_of_mem _ hg')
  · cases left with
    | nil | cons g left => exact nofun
  · intro g hg
    by_cases hgf : g = f
    · rw [hgf]
      exact hshows
    · exact Facts.store_shows_of_ne hgf hg
  · intro g hg
    rcases List.mem_cons.1 hg with rfl | hg
    · exact .inl hshows
    · cases left with
      | nil => cases hg
      | cons g' left => exact .inr hg

/-- What a call adopts says the last word. -/
lemma says_of_settle (h : Kept s) {answer : Answer} {st : TunnelStatus}
    (hi : s.callers[i]? = some (.got call answer)) (hcond : s.Adopting (.settle i))
    (hst : taken s.connected answer call = some st) : Says st s.word := by
  unfold State.Adopting at hcond
  dsimp only at hcond
  rw [hi] at hcond
  obtain ⟨r, st', rfl, hst', hgoes, heq⟩ := goesBy_of_taken hst hcond
  exact (h.agrees_at hi r rfl st' hst' hgoes).of_eq heq

lemma callerStep (h : Kept s) (hi : s.callers[i]? = some x) {a : Act}
    (hs : ServiceFacts.callerStep s i x a = some s')
    (hsettle : ∀ call answer, x = .got call answer → ∀ st ∈ taken s.connected answer call,
      Says st s.word) : Kept s' := by
  unfold ServiceFacts.callerStep at hs
  split at hs
  -- it takes the mutex
  case h_1 =>
    split at hs
    case h_1 call =>
      split_ifs at hs with hheld hup
      · cases hs
        exact h.enter hi (by simpa using hheld)
      · cases hs
        exact h.fails hi (fun _ => id) (h.lock_stay hi nofun)
    case h_2 => cases hs
  -- it writes its request
  case h_2 =>
    split at hs
    case h_1 call =>
      split_ifs at hs with hok hup
      · cases hs
        exact h.fails hi (fun _ => id) (h.lock_release hi rfl rfl)
      · cases hs
        exact h.asks hi
    case h_2 => cases hs
  -- it takes its reply
  case h_3 =>
    split at hs
    case h_1 call r hr =>
      cases hs
      exact h.take hi hr
    case h_2 => cases hs
  -- it gives up
  case h_4 =>
    split at hs
    case h_1 call hr =>
      cases hs
      refine h.fails hi ?_ (h.lock_release hi rfl rfl)
      rintro f ⟨word, hword, r, hr', hst⟩
      exact absurd (hr.symm.trans hr') nofun
    case h_2 => cases hs
  -- it goes on with its answer
  case h_5 =>
    split at hs
    case h_1 call answer =>
      split at hs
      case h_1 st hst =>
        cases hs
        exact h.adopts hi hst (hsettle call answer rfl st hst)
      case h_2 hst =>
        cases hs
        exact h.leaves hi hst
    case h_2 => cases hs
  -- it stores a field
  case h_6 =>
    split at hs
    case h_1 src f left =>
      cases hs
      exact h.stores hi
    case h_2 => cases hs
  case h_7 => cases hs

lemma connect (h : Kept s) (hreader : s.reader = .gone) :
    Kept { s with connected := true, reader := .reading, pipe := [], requests := 0 } :=
  { h with
    pipe := by simp
    reader := trivial
    up := rfl
    down := nofun
    shown := by
      intro f
      have hdown : s.connected = false := by
        rw [h.up, hreader]
        rfl
      rcases h.shown f with hshows | ⟨x, hx, hcovers⟩ | hcovers
      · exact .inl hshows
      · refine .inr (.inl ⟨x, hx, ?_⟩)
        cases x with
        | asked call | got call answer =>
          obtain ⟨word, hword, -⟩ := hcovers
          exact absurd ((h.down hdown).symm.trans hword) nofun
        | _ => exact hcovers
      · rw [hreader] at hcovers
        exact hcovers.elim }

lemma serve (h : Kept s) {m : Message} (hm : ∀ st, m.status = some st → Sendable st)
    (requests : ℕ) : Kept { s with pipe := s.pipe ++ [m], requests } :=
  { h with
    pipe := by
      intro m' hm'
      rcases List.mem_append.1 hm' with hm' | hm'
      · exact h.pipe m' hm'
      · obtain rfl := List.mem_singleton.1 hm'
        exact hm }

lemma connected_of_reading (h : Kept s) (hreader : s.reader = .reading) : s.connected = true := by
  rw [h.up, hreader]
  rfl

lemma push (h : Kept s) (hreader : s.reader = .reading) {st : TunnelStatus} {pipe : List Message}
    (hpipe : s.pipe = .push st :: pipe) (hagrees : s.Agrees (.of st)) :
    Kept ({ s with pipe }.received (.push st)) :=
  have hup := h.connected_of_reading hreader
  { h with
    pipe := fun m hm => h.pipe m (hpipe ▸ List.mem_cons_of_mem _ hm)
    agrees := hagrees
    reader := by
      refine ⟨Facts.of_bindable (h.pipe (.push st) ?_ st rfl), ?_⟩
      · rw [hpipe]
        exact List.mem_cons_self ..
      · intro f _
        cases f <;> trivial
    up := hup
    down := fun hdown => absurd (hup.symm.trans hdown) nofun
    shown := fun f => .inr (.inr (mem_adoptServiceFacts f)) }

lemma readerStores (h : Kept s) {src : Facts} {f : Field} {reader : Reader}
    (hbindable : src.Bindable) (hsrc : src.Shows s.word f) (hfine : reader.Fine s.word)
    (hup : reader.up = s.reader.up)
    (hcover : ∀ g, g ≠ f → s.reader.Covers g → reader.Covers g) :
    Kept { s with facts := s.facts.store src f, reader } :=
  { h with
    bound := h.bound.store hbindable
    reader := hfine
    up := h.up.trans hup.symm
    shown := by
      intro g
      by_cases hgf : g = f
      · rw [hgf]
        exact .inl ((Facts.store_shows h.bound hbindable).trans hsrc)
      · rcases h.shown g with hshows | hcovers | hcovers
        · exact .inl (Facts.store_shows_of_ne hgf hshows)
        · exact .inr (.inl hcovers)
        · exact .inr (.inr (hcover g hgf hcovers)) }

lemma drop (h : Kept s) (hagrees : s.Agrees dropped) :
    Kept { s with connected := false, reader := .dropping, pipe := [], latest := none } :=
  { h with
    pipe := by simp
    agrees := hagrees
    reader := trivial
    up := rfl
    down := fun _ => rfl
    shown := fun _ => .inr (.inr trivial) }

lemma word_of_dropping (h : Kept s) (hreader : s.reader = .dropping) : s.word = dropped := by
  have hdown : s.connected = false := by
    rw [h.up, hreader]
    rfl
  rw [State.word, h.down hdown]
  rfl

lemma handle (h : Kept s) (hreader : s.reader = .dropping) (hword : s.word = dropped) :
    Kept { s with reader := .handling onServiceDisconnected } :=
  { h with
    reader := by
      intro f _
      show dropped.Shows s.word f
      rw [hword]
      cases f <;> trivial
    up := by rw [h.up, hreader]; rfl
    shown := by
      intro f
      by_cases hf : f ∈ onServiceDisconnected
      · exact .inr (.inr hf)
      · exact .inl (mem_onServiceDisconnected hf ..) }

lemma forestall (h : Kept s) (hreader : s.reader = .dropping)
    (hshows : ∀ f, s.facts.Shows s.word f) : Kept { s with reader := .gone } :=
  { h with
    reader := trivial
    up := by rw [h.up, hreader]; rfl
    shown := fun f => .inl (hshows f) }

/-- A reply is delivered. -/
lemma replied (h : Kept s) (hreader : s.reader = .reading) {r : Reply} {pipe : List Message}
    (hpipe : s.pipe = .reply r :: pipe)
    (hagrees : ({ s with pipe }.received (.reply r)).Agrees
      ({ s with pipe }.received (.reply r)).word)
    (hshown : ∀ f, s.facts.Shows ({ s with pipe }.received (.reply r)).word f ∨
      ∃ x ∈ s.callers,
        x.Covers s.connected (some r) ({ s with pipe }.received (.reply r)).latest f) :
    Kept ({ s with pipe }.received (.reply r)) :=
  have hup := h.connected_of_reading hreader
  { h with
    pipe := fun m hm => h.pipe m (hpipe ▸ List.mem_cons_of_mem _ hm)
    reply := by
      intro r' hr'
      cases hr'
      exact h.pipe (.reply r) (hpipe ▸ List.mem_cons_self ..)
    agrees := hagrees
    reader := by
      show Reader.Fine _ s.reader
      rw [hreader]
      trivial
    down := fun hdown => absurd (hup.symm.trans hdown) nofun
    shown := fun f => (hshown f).imp_right .inl }

lemma repeated (h : Kept s) (hreader : s.reader = .reading) {r : Reply} {pipe : List Message}
    (hpipe : s.pipe = .reply r :: pipe) (hsame : ∀ st ∈ r.status, Says st s.word)
    (hfree : s.reply.isNone ∨ ∀ c ∈ s.callers, c.waits = false) :
    Kept ({ s with pipe }.received (.reply r)) := by
  have hword := State.word_repeated pipe hsame
  refine h.replied hreader hpipe (fun c hc => ?_) fun f => ?_
  · refine ((h.agrees c hc).unread.trans hword).told fun st hst => ?_
    exact (hsame st hst).trans hword
  rcases h.shown f with hshows | ⟨x, hx, hcovers⟩ | hcovers
  · exact .inl (hshows.trans (hword f))
  · refine .inr ⟨x, hx, ?_⟩
    cases x with
    | asked call =>
      obtain ⟨word, hlatest, r', hr', -⟩ := hcovers
      rcases hfree with hnone | hwaits
      · rw [Option.isNone_iff_eq_none] at hnone
        exact absurd (hnone.symm.trans hr') nofun
      · exact absurd (hwaits _ hx) nofun
    | got call answer =>
      obtain ⟨word, hlatest, st, hst, hsame'⟩ := hcovers
      have hlast : s.word = Facts.of word := by
        unfold State.word
        rw [Option.mem_def.1 hlatest]
        rfl
      unfold State.received
      dsimp only [Caller.Covers]
      cases hstatus : r.status with
      | none => exact ⟨word, hlatest, st, hst, hsame'⟩
      | some st' =>
        refine ⟨st', rfl, st, hst, hsame'.trans fun g => ?_⟩
        rw [← hlast]
        exact ((hsame st' hstatus).shows g).symm
    | adopting src left => exact hcovers
    | _ => exact hcovers.elim
  · rw [hreader] at hcovers
    exact hcovers.elim

lemma answered (h : Kept s) (hreader : s.reader = .reading) {r : Reply} {pipe : List Message}
    (hpipe : s.pipe = .reply r :: pipe) {st : TunnelStatus} (hst : r.status = some st)
    (hagrees : ∀ c ∈ s.callers, c.Agrees none (.of st)) (hx : x ∈ s.callers)
    (hhears : x.Hears r st) : Kept ({ s with pipe }.received (.reply r)) := by
  have hlatest : ({ s with pipe }.received (.reply r)).latest = some st := by
    unfold State.received
    dsimp only
    rw [hst]
    rfl
  refine h.replied hreader hpipe ?_ fun f => .inr ⟨x, hx, ?_⟩
  · rw [State.word_told hst]
    intro c hc
    refine (hagrees c hc).told fun st' hst' => ?_
    obtain rfl := Option.some.inj (hst.symm.trans hst')
    exact says_of st
  · rw [hlatest]
    cases x with
    | asked call =>
      obtain ⟨st', htaken, heq⟩ := taken_of_goesBy hst hhears
      rw [← h.connected_of_reading hreader] at htaken
      exact ⟨st, rfl, r, rfl, st', htaken, (says_of st).of_eq heq⟩
    | _ => exact hhears.elim

lemma readerStep (h : Kept s) {a : Act} (hs : ServiceFacts.readerStep s a = some s')
    (hcond : s.Adopting a) : Kept s' := by
  unfold ServiceFacts.readerStep at hs
  split at hs
  case h_1 =>
    split at hs
    case h_1 hreader =>
      split_ifs at hs
      cases hs
      exact h.connect hreader
    case h_2 => cases hs
  case h_2 st =>
    split_ifs at hs with hsend
    cases hs
    refine h.serve ?_ s.requests
    intro st' hst'
    cases hst'
    exact hsend.2
  case h_3 r =>
    split_ifs at hs with hsend
    cases hs
    exact h.serve (m := .reply r) hsend.2.2 (s.requests - 1)
  case h_4 =>
    split at hs
    case h_1 m pipe hreader hpipe =>
      cases hs
      unfold State.Adopting at hcond
      dsimp only at hcond
      rw [hpipe] at hcond
      cases m with
      | push st => exact h.push hreader hpipe hcond
      | reply r =>
        rcases hcond with ⟨hsame, hfree⟩ | ⟨st, hst, hagrees, x, hx, hhears⟩
        · exact h.repeated hreader hpipe hsame hfree
        · exact h.answered hreader hpipe hst hagrees hx hhears
    case h_2 => cases hs
  case h_5 =>
    have hfine := h.reader
    split at hs
    case h_1 src f left hreader =>
      cases hs
      rw [hreader] at hfine
      refine h.readerStores hfine.1 (hfine.2 f (List.mem_cons_self ..)) ?_ ?_ ?_
      · cases left with
        | nil => trivial
        | cons g left => exact ⟨hfine.1, fun g' hg' => hfine.2 g' (List.mem_cons_of_mem _ hg')⟩
      · rw [hreader]
        cases left <;> rfl
      · intro g hgf hg
        rw [hreader] at hg
        have hleft := List.mem_of_ne_of_mem hgf hg
        cases left with
        | nil => cases hleft
        | cons g' left => exact hleft
    case h_2 f left hreader =>
      cases hs
      rw [hreader] at hfine
      refine h.readerStores dropped_bindable (hfine f (List.mem_cons_self ..)) ?_ ?_ ?_
      · cases left with
        | nil => trivial
        | cons g left => exact fun g' hg' => hfine g' (List.mem_cons_of_mem _ hg')
      · rw [hreader]
        cases left <;> rfl
      · intro g hgf hg
        rw [hreader] at hg
        have hleft := List.mem_of_ne_of_mem hgf hg
        cases left with
        | nil => cases hleft
        | cons g' left => exact hleft
    case h_3 => cases hs
  case h_6 =>
    split at hs
    case h_1 =>
      cases hs
      exact h.drop hcond
    case h_2 => cases hs
  case h_7 =>
    split at hs
    case h_1 hreader =>
      cases hs
      exact h.handle hreader (h.word_of_dropping hreader)
    case h_2 => cases hs
  case h_8 =>
    split at hs
    case h_1 hreader =>
      cases hs
      refine h.forestall hreader ?_
      rw [h.word_of_dropping hreader]
      exact fun f => hcond f (mem_adoptServiceFacts f)
    case h_2 => cases hs
  case h_9 => cases hs

lemma step (h : Kept s) {a : Act} (hs : ServiceFacts.step s a = some s') (hcond : s.Adopting a) :
    Kept s' := by
  unfold ServiceFacts.step at hs
  split at hs
  case h_1 call =>
    cases hs
    exact h.join trivial trivial rfl
  case h_2 =>
    cases hs
    exact h.join dropped_bindable hcond rfl
  case h_3 i | h_4 i ok | h_5 i | h_6 i | h_8 i =>
    obtain ⟨x, hi, hs⟩ := Option.bind_eq_some_iff.1 hs
    refine h.callerStep hi hs ?_
    rintro call answer rfl
    cases hs
  case h_7 i =>
    obtain ⟨x, hi, hs⟩ := Option.bind_eq_some_iff.1 hs
    refine h.callerStep hi hs ?_
    rintro call answer rfl st hst
    exact h.says_of_settle hi hcond hst
  case h_9 => exact h.readerStep hs hcond

end Kept

lemma kept_of_run {es : List (Transition State Act)} (h : CondRuns es s) : Kept s := by
  induction h with
  | nil hs =>
    rw [hs]
    exact .init
  | snoc _ hs ih => exact ih.step hs.1 hs.2

/-! ### Every run -/

lemma pipe_of_callerStep {a : Act} (hs : callerStep s i x a = some s') :
    s'.pipe = s.pipe ∧ s'.latest = s.latest := by
  unfold callerStep at hs
  split at hs
  case h_1 | h_2 =>
    split at hs
    case h_1 =>
      split_ifs at hs
      all_goals
        cases hs
        exact ⟨rfl, rfl⟩
    case h_2 => cases hs
  case h_3 | h_4 | h_6 =>
    split at hs
    case h_1 =>
      cases hs
      exact ⟨rfl, rfl⟩
    case h_2 => cases hs
  case h_5 =>
    split at hs
    case h_1 =>
      split at hs
      all_goals
        cases hs
        exact ⟨rfl, rfl⟩
    case h_2 => cases hs
  case h_7 => cases hs

lemma pipe_of_step {a : Act} (hs : step s a = some s') :
    (∀ m ∈ s'.pipe, m ∈ s.pipe ∨ a = .serve m) ∧
      ∀ st, s'.latest = some st → s.latest = some st ∨ ∃ m ∈ s.pipe, m.status = some st := by
  have hkept : s'.pipe = s.pipe ∧ s'.latest = s.latest →
      (∀ m ∈ s'.pipe, m ∈ s.pipe ∨ a = .serve m) ∧
        ∀ st, s'.latest = some st → s.latest = some st ∨ ∃ m ∈ s.pipe, m.status = some st := by
    rintro ⟨hpipe, hlatest⟩
    rw [hpipe, hlatest]
    exact ⟨fun _ => .inl, fun _ => .inl⟩
  unfold step at hs
  split at hs
  case h_1 | h_2 =>
    cases hs
    exact hkept ⟨rfl, rfl⟩
  case h_3 | h_4 | h_5 | h_6 | h_7 | h_8 =>
    obtain ⟨x, -, hs⟩ := Option.bind_eq_some_iff.1 hs
    exact hkept (pipe_of_callerStep hs)
  case h_9 =>
    unfold readerStep at hs
    split at hs
    case h_1 =>
      split at hs
      case h_1 =>
        split_ifs at hs
        cases hs
        exact ⟨by simp, fun _ => .inl⟩
      case h_2 => cases hs
    case h_2 | h_3 =>
      split_ifs at hs
      cases hs
      refine ⟨fun m hm => ?_, fun _ => .inl⟩
      refine (List.mem_append.1 hm).imp_right fun hm => ?_
      rw [List.mem_singleton.1 hm]
    case h_4 =>
      split at hs
      case h_1 m pipe hreader hpipe =>
        cases hs
        rw [hpipe]
        cases m with
        | push st =>
          refine ⟨fun m hm => .inl (List.mem_cons_of_mem _ hm), fun st' hst' => .inr ?_⟩
          exact ⟨_, List.mem_cons_self .., hst'⟩
        | reply r =>
          refine ⟨fun m hm => .inl (List.mem_cons_of_mem _ hm), fun st' hst' => ?_⟩
          unfold State.received at hst'
          dsimp only at hst'
          split_ifs at hst'
          · exact .inr ⟨_, List.mem_cons_self .., hst'⟩
          · exact .inl hst'
      case h_2 => cases hs
    case h_5 =>
      split at hs
      case h_3 => cases hs
      all_goals
        cases hs
        exact hkept ⟨rfl, rfl⟩
    case h_6 =>
      split at hs
      case h_1 =>
        cases hs
        exact ⟨by simp, by simp⟩
      case h_2 => cases hs
    case h_7 | h_8 =>
      split at hs
      case h_1 =>
        cases hs
        exact hkept ⟨rfl, rfl⟩
      case h_2 => cases hs
    case h_9 => cases hs

lemma sent_of_run {es : List (Transition State Act)} (h : CondRuns es s) :
    (∀ m ∈ s.pipe, ∃ e ∈ es, e.label = .serve m) ∧
      ∀ st, s.latest = some st →
        ∃ e ∈ es, ∃ m : Message, e.label = .serve m ∧ m.status = some st := by
  induction h with
  | nil hs =>
    rw [hs]
    exact ⟨by simp, by simp⟩
  | snoc _ hs ih =>
    obtain ⟨hpipe, hlatest⟩ := pipe_of_step hs.1
    constructor
    · intro m hm
      rcases hpipe m hm with hm | ha
      · obtain ⟨e, he, hlabel⟩ := ih.1 m hm
        exact ⟨e, List.mem_append_left _ he, hlabel⟩
      · exact ⟨_, List.mem_concat_self, ha⟩
    · intro st hst
      rcases hlatest st hst with hst | ⟨m, hm, hst⟩
      · obtain ⟨e, he, hserve⟩ := ih.2 st hst
        exact ⟨e, List.mem_append_left _ he, hserve⟩
      · obtain ⟨e, he, hlabel⟩ := ih.1 m hm
        exact ⟨e, List.mem_append_left _ he, m, hlabel, hst⟩

lemma unanswered_of_step (hs : step s (.settle i) = some s') (hcond : s.Adopting (.settle i))
    {call : Call} {answer : Answer} (hi : s.callers[i]? = some (.got call answer))
    (hanswer : answer.Unanswered) : s'.facts = s.facts ∧ s'.callers[i]? = some .done := by
  have htaken : taken s.connected answer call = none := by
    rw [Option.eq_none_iff_forall_ne_some]
    intro st hst
    unfold State.Adopting at hcond
    dsimp only at hcond
    rw [hi] at hcond
    obtain ⟨r, st', rfl, hst', -⟩ := goesBy_of_taken hst hcond
    exact absurd (hanswer.symm.trans hst') nofun
  have hs' : some (s.put i .done) = some s' := by
    rw [← hs]
    unfold step
    dsimp only
    rw [hi, Option.bind_some]
    unfold callerStep
    dsimp only
    rw [htaken]
  cases hs'
  exact ⟨rfl, List.getElem?_set_self (List.getElem?_eq_some_iff.1 hi).1⟩

namespace Kept

lemma shows (h : Kept s) (hreader : s.reader.Still)
    (hcallers : ∀ x ∈ s.callers, ∀ f, ¬ x.Covers s.connected s.reply s.latest f) (f : Field) :
    s.facts.Shows s.word f := by
  rcases h.shown f with hshows | ⟨x, hx, hcovers⟩ | hcovers
  · exact hshows
  · exact absurd hcovers (hcallers x hx f)
  · cases hat : s.reader with
    | gone | reading =>
      rw [hat] at hcovers
      exact hcovers.elim
    | adopting src left | dropping | handling left =>
      rw [hat] at hreader
      exact hreader.elim

lemma believes (h : ∀ f, s.facts.Shows w f) : s.facts.Believes w where
  state := h .state
  routes := h .routes
  dns := h .dns
  wfp := h .wfp
  provider := h .providerRunning
  egress := h .egress

end Kept

/-- **The app believes the service's last word**, where its calls adopt nothing else. -/
theorem facts_last_word {es : List (Transition State Act)} (h : CondRuns es s) :
    LastWord es s where
  believes hreader hidle _ := by
    refine Kept.believes ((kept_of_run h).shows hreader ?_)
    intro x hx f hcovers
    have hx' := hidle x hx
    cases x with
    | wanting call | done => exact hcovers
    | _ => exact hx'
  afterDrop hreader hstill hlatest := by
    have hword : s.word = dropped := by
      rw [State.word, hlatest]
      rfl
    rw [← hword]
    refine Kept.believes ((kept_of_run h).shows hreader ?_)
    intro x hx f hcovers
    have hx' := hstill x hx
    cases x with
    | asked call | got call answer =>
      obtain ⟨word, hlast, -⟩ := hcovers
      exact absurd (hlatest.symm.trans hlast) nofun
    | adopting src left => exact hx'
    | _ => exact hcovers
  sent := (sent_of_run h).2
  unanswered e he i call answer hlabel hi hanswer := by
    obtain ⟨pre, post, rfl⟩ := List.mem_iff_append.1 he
    obtain ⟨-, hs, hcond⟩ := h.split rfl
    rw [hlabel] at hs hcond
    exact unanswered_of_step hs hcond hi hanswer

/-- A session that is up, as the hello's reply says. -/
def sessionUp : TunnelStatus where
  state := .up
  routesInstalled := true
  dnsApplied := true
  egressIndex4 := 17
  egressIndex6 := 23

/-- The hello's reply. -/
def hello : Message := .reply { ok := true, status := some sessionUp }

/-- The steps of a hello that is answered and adopted. -/
def greeted : List Act :=
  [.connect, .call .hello, .enter 0, .write 0 true, .serve hello, .deliver, .take 0, .settle 0,
    .storeBy 0, .storeBy 0, .storeBy 0, .storeBy 0, .storeBy 0, .storeBy 0, .storeBy 0,
    .storeBy 0, .storeBy 0, .storeBy 0]

/-- The steps of a push and of a drop. -/
def droppedAfterPush : List Act :=
  [.serve (.push {}), .deliver, .store, .store, .store, .store, .store, .store, .store, .store,
    .store, .store, .drop, .handle, .store, .store, .store, .store, .store, .store, .store,
    .store]

/-- The steps of a stop that is not answered. -/
def unansweredStop : List Act :=
  [.call .stopTunnel, .enter 1, .write 1 true, .timeOut 1, .settle 1, .storeBy 1, .storeBy 1,
    .storeBy 1, .storeBy 1, .storeBy 1, .storeBy 1, .storeBy 1, .storeBy 1, .storeBy 1,
    .storeBy 1]

/-- The hello, a push, a drop and the next connection. -/
theorem facts_last_word_drop : ∃ es s, LastWord es s ∧
    es.map Transition.label = greeted ++ (droppedAfterPush ++ [Act.connect]) := by
  have hfollow : ∃ s, follow (fun (s : State) a => if s.Adopting a then step s a else none) {}
      (greeted ++ (droppedAfterPush ++ [Act.connect])) = some s :=
    ⟨_, rfl⟩
  obtain ⟨s, hs⟩ := hfollow
  obtain ⟨es, hrun, hlabels⟩ := (Run.nil rfl : CondRuns [] {}).follow
    (fun _ s a s' h => (Option.ite_none_right_eq_some.1 h).symm) hs
  exact ⟨es, s, facts_last_word hrun, hlabels⟩

/-- **An invented word.**  A stop that the service does not answer shows the routes given back
that are still installed. -/
theorem invented_word : ∃ es s, Runs es s ∧ ¬ LastWord es s := by
  have hfollow : ∃ s, follow step {} (greeted ++ unansweredStop) = some s ∧
      s.callers = [.done, .done] ∧ s.reader = .reading ∧ s.connected = true ∧
      s.facts.lastServiceRoutesInstalled = false ∧ s.word.lastServiceRoutesInstalled = true :=
    ⟨_, rfl, rfl, rfl, rfl, rfl, rfl⟩
  obtain ⟨s, hs, hcallers, hreader, hup, hfacts, hword⟩ := hfollow
  obtain ⟨es, hrun, -⟩ := (Run.nil rfl : Runs [] {}).follow (fun _ _ _ _ h => h) hs
  refine ⟨es, s, hrun, fun h => ?_⟩
  have hidle : ∀ c ∈ s.callers, c.Idle := by
    rw [hcallers]
    intro c hc
    simp only [List.mem_cons, List.not_mem_nil, or_false, or_self] at hc
    rw [hc]
    trivial
  have hbelieves := h.believes (by rw [hreader]; trivial) hidle hup
  exact absurd (hfacts.symm.trans (hbelieves.routes.trans hword)) nofun

end UrnetworkWindows.ServiceFacts
