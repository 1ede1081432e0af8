/-
A start connect that waits for its balance (`StartConnectWait.h`, `SdkHost::AdmitStartConnect`).

Everything runs on the UI thread.  A settle runs the gesture again from inside itself, and the
gesture may ask the gate, disconnect or wait again there, so a settle is two steps with any steps
in between.  `NoneWaits` is where the wait is safe: a gesture that the gate answers at once does
not replace one that waits.
-/
import UrnetworkWindows.Balance.Recovery

namespace UrnetworkWindows.Balance.StartWait

open Lib

/-! ### The gate -/

/-- `kFreshBalanceMs`. -/
def kFreshBalanceMs : ℤ := 60000

/-- `WithinFreshness`. -/
def withinFreshness (atMs nowMs : ℤ) : Bool := atMs ≤ nowMs && nowMs - atMs ≤ kFreshBalanceMs

/-- `AccountBalanceExhausted`. -/
def accountBalanceExhausted (b : AccountBalance) : Bool :=
  b.known && !b.pro && b.availableBytes ≤ 0 && b.openTransferBytes ≤ 0

/-- `OutOfBalance`. -/
def outOfBalance (insufficientBalance supporter confirming : Bool) : Bool :=
  insufficientBalance && !supporter && !confirming

/-- `StartConnectFacts`. -/
structure StartConnectFacts where
  latched : Bool := false
  supporter : Bool := false
  confirming : Bool := false
  balance : AccountBalance := {}
  fetchSettled : Bool := false
  fetchSettledAtMs : ℤ := 0
  nowMs : ℤ := 0
deriving DecidableEq, Repr

/-- `StartConnectStep`. -/
inductive StartConnectStep
  | connect
  | upgrade
  | fetchBalance
deriving DecidableEq, Repr

/-- `DecideStartConnect`. -/
def decideStartConnect (f : StartConnectFacts) : StartConnectStep :=
  if outOfBalance f.latched f.supporter f.confirming then .upgrade
  else if f.supporter || f.confirming then .connect
  else if f.balance.known && withinFreshness f.balance.fetchedAtMs f.nowMs then
    if accountBalanceExhausted f.balance then .upgrade else .connect
  else if f.fetchSettled && withinFreshness f.fetchSettledAtMs f.nowMs then .connect
  else .fetchBalance

/-- What `AdmitStartConnect` finds: no gate, the recovery's retry running, or the facts. -/
inductive Gate
  | unset
  | retrying
  | asked (facts : StartConnectFacts)
deriving DecidableEq, Repr

/-- The answer to the gesture. -/
def Gate.answer : Gate → StartConnectStep
  | .unset | .retrying => .connect
  | .asked facts => decideStartConnect facts

/-! ### The wait -/

/-- `StartWaitChange`. -/
inductive StartWaitChange
  | waiting
  | admitted
  | ended
deriving DecidableEq, Repr

/-- `StartConnectWait`. -/
structure StartConnectWait where
  generation : ℕ := 0
  waiting : Bool := false
  settling : Bool := false
deriving DecidableEq, Repr

namespace StartConnectWait

/-- `Begin`; the token is the generation after it. -/
def begin (w : StartConnectWait) : StartConnectWait where
  generation := w.generation + 1
  waiting := true
  settling := false

/-- `Settle`. -/
def settle (w : StartConnectWait) (token : ℕ) : Bool × StartConnectWait :=
  if !w.waiting || token ≠ w.generation then (false, w)
  else (true, { w with waiting := false, settling := true })

/-- `Cancel`. -/
def cancel (w : StartConnectWait) : Bool × StartConnectWait :=
  (w.waiting, { w with waiting := false, generation := w.generation + 1 })

/-- `TakeOutcome`, with the change if there is one to tell. -/
def takeOutcome (w : StartConnectWait) (admitted : Bool) :
    Option StartWaitChange × StartConnectWait :=
  if !w.settling then (none, w)
  else (some (if admitted then .admitted else .ended), { w with settling := false })

/-- `TakeUnanswered`. -/
def takeUnanswered (w : StartConnectWait) : Option StartWaitChange × StartConnectWait :=
  w.takeOutcome false

end StartConnectWait

/-- The host: the wait, the tokens the store was handed a settle for, what the views were told,
how many settles are running, and whether a sign-out is. -/
structure Host where
  startWait : StartConnectWait := {}
  handed : List ℕ := []
  notices : List StartWaitChange := []
  settles : ℕ := 0
  signingOut : Bool := false
deriving DecidableEq, Repr

namespace Host

/-- The views are told of a change, if there is one. -/
def tell (h : Host) (change : Option StartWaitChange × StartConnectWait) : Host :=
  { h with startWait := change.2, notices := h.notices ++ change.1.toList }

/-- `TellStartWaitOutcome`. -/
def tellStartWaitOutcome (h : Host) (admitted : Bool) : Host :=
  h.tell (h.startWait.takeOutcome admitted)

/-- `WaitForBalance`, up to the settle it hands to the store. -/
def waitForBalance (h : Host) : Host :=
  { h.tell (some .waiting, h.startWait.begin) with
    handed := h.handed ++ [h.startWait.begin.generation] }

/-- `AdmitStartConnect`: whether the connect may start now, and the host after it. -/
def admitStartConnect (h : Host) (gate : Gate) : Bool × Host :=
  match gate.answer with
  | .connect => (true, h.tellStartWaitOutcome true)
  | .upgrade => (false, h.tellStartWaitOutcome false)
  | .fetchBalance => (false, h.waitForBalance)

/-- `CancelStartWait`. -/
def cancelStartWait (h : Host) : Host :=
  h.tell (if h.startWait.cancel.1 then some .ended else none, h.startWait.cancel.2)

/-- The settle of a fetch, up to the gesture it runs again. -/
def settle (h : Host) (token : ℕ) : Host :=
  if (h.startWait.settle token).1 then
    { h with startWait := (h.startWait.settle token).2, settles := h.settles + 1 }
  else h

/-- `Logout`; one that finds a sign-out running joins it. -/
def logout (h : Host) : Host :=
  if h.signingOut then h else { h.cancelStartWait with signingOut := true }

end Host

/-- A step on the UI thread.  `settled` is the end of a settle, after the gesture it ran. -/
inductive Op
  | connect (gate : Gate)
  | settle (token : ℕ)
  | settled
  | disconnect
  | logout
  | signedOut
deriving DecidableEq, Repr

/-- The host after a step, if it can be taken. -/
def Host.next (h : Host) : Op → Option Host
  | .connect gate => some (h.admitStartConnect gate).2
  | .settle token => if token ∈ h.handed then some (h.settle token) else none
  | .settled =>
    if 0 < h.settles then
      some { h.tell h.startWait.takeUnanswered with settles := h.settles - 1 }
    else none
  | .disconnect => some h.cancelStartWait
  | .logout => some h.logout
  | .signedOut => if h.signingOut then some { h with signingOut := false } else none

/-! ### Runs -/

/-- A step, with the host before and after it. -/
abbrev Step := Transition Host Op

/-- While nobody is logged in the store has no balance to fetch: `FetchThen` settles before it
returns. -/
def AtOnce (h : Host) (op : Op) : Prop :=
  h.signingOut = true → h.startWait.waiting = true → op = .settle h.startWait.generation

/-- The runs of a new host. -/
abbrev Runs : List Step → Host → Prop :=
  Run (· = {}) fun _ h op h' => h.next op = some h' ∧ AtOnce h op

/-- A connect gesture, a disconnect or a sign-out; the recovery's retry is not a new gesture. -/
def Op.gesture : Op → Bool
  | .connect .retrying => false
  | .connect _ | .disconnect | .logout => true
  | _ => false

/-- The settle of the token runs its gesture again. -/
def runsAgain (token : ℕ) (t : Step) : Bool :=
  t.label = .settle token && (t.pre.startWait.settle token).1

/-- The connect gesture that began the wait of the token. -/
def Begins (token : ℕ) (t : Step) : Prop :=
  ∃ gate, t.label = .connect gate ∧ gate.answer = .fetchBalance ∧
    t.post.startWait.generation = token

/-- A connect gesture that the gate answers at once is made while no start waits. -/
def NoneWaits (h : Host) (op : Op) : Prop :=
  ∀ gate, op = .connect gate → gate ≠ .retrying → gate.answer ≠ .fetchBalance →
    h.startWait.waiting = false

/-! ### What a step can do -/

variable {w : StartConnectWait} {h h' : Host} {op : Op} {gate : Gate} {token : ℕ}
  {es : List Step} {t : Step}

lemma StartConnectWait.settle_iff :
    (w.settle token).1 = true ↔ w.waiting = true ∧ token = w.generation := by
  rw [StartConnectWait.settle]
  split_ifs with hstale
  · refine ⟨fun hno => absurd hno (by simp), fun ⟨hwaiting, htoken⟩ => ?_⟩
    simp [hwaiting, htoken] at hstale
  · refine ⟨fun _ => ?_, fun _ => rfl⟩
    simpa using hstale

lemma StartConnectWait.settle_of_true (hsettle : (w.settle token).1 = true) :
    (w.settle token).2 = { w with waiting := false, settling := true } := by
  rw [StartConnectWait.settle] at hsettle ⊢
  split_ifs at hsettle ⊢
  rfl

lemma StartConnectWait.takeOutcome_of_settling (hsettling : w.settling = true) (admitted : Bool) :
    w.takeOutcome admitted =
      (some (if admitted then .admitted else .ended), { w with settling := false }) := by
  rw [StartConnectWait.takeOutcome, if_neg (by simp [hsettling])]

lemma StartConnectWait.takeOutcome_of_not_settling (hsettling : w.settling = false)
    (admitted : Bool) : w.takeOutcome admitted = (none, w) := by
  rw [StartConnectWait.takeOutcome, if_pos (by simp [hsettling])]

/-- The wait, the notices and the settles after a step. -/
inductive Moved (h : Host) : Op → StartConnectWait → List StartWaitChange → ℕ → Prop
  | kept {op : Op} (hgesture : op.gesture = true → NoneWaits h op → AtOnce h op →
      h.startWait.waiting = false) : Moved h op h.startWait h.notices h.settles
  | began {gate : Gate} (hanswer : gate.answer = .fetchBalance) :
      Moved h (.connect gate) h.startWait.begin (h.notices ++ [.waiting]) h.settles
  | told {op : Op} {change : StartWaitChange} {settles : ℕ}
      (hsettling : h.startWait.settling = true)
      (hchange : change ≠ .waiting) :
      Moved h op { h.startWait with settling := false } (h.notices ++ [change]) settles
  | settled (hsettling : h.startWait.settling = false) :
      Moved h .settled h.startWait h.notices (h.settles - 1)
  | again {token : ℕ} (hwaiting : h.startWait.waiting = true)
      (htoken : token = h.startWait.generation) :
      Moved h (.settle token) { h.startWait with waiting := false, settling := true } h.notices
        (h.settles + 1)
  | ended {op : Op} (hwaiting : h.startWait.waiting = true) :
      Moved h op h.startWait.cancel.2 (h.notices ++ [.ended]) h.settles
  | cancelled {op : Op} (hwaiting : h.startWait.waiting = false) :
      Moved h op h.startWait.cancel.2 h.notices h.settles

lemma moved_tell (hgate : gate.answer ≠ .fetchBalance) (admitted : Bool) :
    Moved h (.connect gate) (h.tellStartWaitOutcome admitted).startWait
      (h.tellStartWaitOutcome admitted).notices h.settles := by
  rw [Host.tellStartWaitOutcome]
  cases hsettling : h.startWait.settling with
  | true =>
    rw [StartConnectWait.takeOutcome_of_settling hsettling]
    refine .told hsettling ?_
    split_ifs <;> simp
  | false =>
    rw [StartConnectWait.takeOutcome_of_not_settling hsettling, Host.tell, Option.toList_none,
      List.append_nil]
    refine .kept fun hgesture hnone _ => hnone gate rfl ?_ hgate
    rintro rfl
    exact absurd hgesture (by simp [Op.gesture])

lemma moved_cancel (op : Op) :
    Moved h op h.cancelStartWait.startWait h.cancelStartWait.notices h.settles := by
  rw [Host.cancelStartWait]
  cases hwaiting : h.startWait.waiting with
  | true =>
    have hcancel : h.startWait.cancel.1 = true := hwaiting
    rw [if_pos hcancel]
    exact .ended hwaiting
  | false =>
    have hcancel : ¬ h.startWait.cancel.1 = true := by simp [StartConnectWait.cancel, hwaiting]
    rw [if_neg hcancel, Host.tell, Option.toList_none, List.append_nil]
    exact .cancelled hwaiting

lemma moved_of_next (hnext : h.next op = some h') :
    Moved h op h'.startWait h'.notices h'.settles := by
  cases op with
  | connect gate =>
    cases hnext
    rw [Host.admitStartConnect]
    split
    next hanswer => exact moved_tell (by simp [hanswer]) true
    next hanswer => exact moved_tell (by simp [hanswer]) false
    next hanswer => exact .began hanswer
  | settle token =>
    simp only [Host.next, guard_eq_some] at hnext
    obtain ⟨-, rfl⟩ := hnext
    rw [Host.settle]
    split_ifs with hsettle
    · rw [StartConnectWait.settle_of_true hsettle]
      rw [StartConnectWait.settle_iff] at hsettle
      exact .again hsettle.1 hsettle.2
    · exact .kept fun hgesture => absurd hgesture (by simp [Op.gesture])
  | settled =>
    simp only [Host.next, guard_eq_some] at hnext
    obtain ⟨-, rfl⟩ := hnext
    rw [StartConnectWait.takeUnanswered]
    cases hsettling : h.startWait.settling with
    | true =>
      rw [StartConnectWait.takeOutcome_of_settling hsettling]
      exact .told hsettling (by simp)
    | false =>
      rw [StartConnectWait.takeOutcome_of_not_settling hsettling, Host.tell, Option.toList_none,
        List.append_nil]
      exact .settled hsettling
  | disconnect =>
    cases hnext
    exact moved_cancel .disconnect
  | logout =>
    cases hnext
    rw [Host.logout]
    split_ifs with hsigning
    · refine .kept fun _ _ honce => ?_
      rw [Bool.eq_false_iff]
      exact fun hwaiting => absurd (honce hsigning hwaiting) (by simp)
    · exact moved_cancel .logout
  | signedOut =>
    simp only [Host.next, guard_eq_some] at hnext
    obtain ⟨-, rfl⟩ := hnext
    exact .kept fun hgesture => absurd hgesture (by simp [Op.gesture])

/-! ### The notices -/

/-- The views were last told of a wait while one waits or is settling, and every other notice
follows one of a wait. -/
structure Told (h : Host) : Prop where
  exclusive : h.startWait.waiting = true → h.startWait.settling = false
  running : h.startWait.settling = true → 0 < h.settles
  last : h.notices.getLast? = some .waiting ↔
    h.startWait.waiting = true ∨ h.startWait.settling = true
  chain : ∀ pre change rest, h.notices = pre ++ change :: rest → change ≠ .waiting →
    pre.getLast? = some .waiting

lemma chain_snoc {notices : List StartWaitChange} {change : StartWaitChange}
    (hchain : ∀ pre c rest, notices = pre ++ c :: rest → c ≠ .waiting →
      pre.getLast? = some .waiting) (hlast : change ≠ .waiting → notices.getLast? = some .waiting) :
    ∀ pre c rest, notices ++ [change] = pre ++ c :: rest → c ≠ .waiting →
      pre.getLast? = some .waiting := by
  intro pre c rest he hc
  rcases eq_or_mem_of_snoc he with ⟨-, rfl, rfl⟩ | ⟨rest', -, he'⟩
  · exact hlast hc
  · exact hchain pre c rest' he' hc

lemma Told.next (ht : Told h) (hnext : h.next op = some h') : Told h' := by
  have hmoved := moved_of_next hnext
  -- only the wait, the notices and the settles are asked about
  suffices hall : ∀ startWait notices settles, Moved h op startWait notices settles →
      Told { h with startWait, notices, settles } by
    have hh := hall _ _ _ hmoved
    exact ⟨hh.exclusive, hh.running, hh.last, hh.chain⟩
  intro startWait notices settles hmoved
  cases hmoved with
  | kept => exact ⟨ht.exclusive, ht.running, ht.last, ht.chain⟩
  | began hanswer =>
    refine ⟨fun _ => rfl, fun hno => absurd hno (by simp [StartConnectWait.begin]), ?_,
      chain_snoc ht.chain fun hne => absurd rfl hne⟩
    simp [StartConnectWait.begin]
  | told hsettling hchange =>
    have hwaiting : h.startWait.waiting = false := by
      rw [Bool.eq_false_iff]
      exact fun hyes => absurd (ht.exclusive hyes) (by simp [hsettling])
    refine ⟨fun _ => rfl, fun hno => absurd hno (by simp), ?_,
      chain_snoc ht.chain fun _ => ht.last.2 (.inr hsettling)⟩
    simp [hwaiting, hchange]
  | settled hsettling =>
    exact ⟨ht.exclusive, fun hyes => absurd (hsettling.symm.trans hyes) (by simp), ht.last,
      ht.chain⟩
  | again hwaiting htoken =>
    refine ⟨fun hno => absurd hno (by simp), fun _ => Nat.succ_pos _, ?_, ht.chain⟩
    simp [ht.last, hwaiting]
  | ended hwaiting =>
    have hsettling := ht.exclusive hwaiting
    refine ⟨fun hno => absurd hno (by simp [StartConnectWait.cancel]), ht.running, ?_,
      chain_snoc ht.chain fun _ => ht.last.2 (.inl hwaiting)⟩
    simp [StartConnectWait.cancel, hsettling]
  | cancelled hwaiting =>
    refine ⟨fun hno => absurd hno (by simp [StartConnectWait.cancel]), ht.running, ?_, ht.chain⟩
    simp [StartConnectWait.cancel, ht.last, hwaiting]

/-! ### The tokens -/

/-- A token whose gesture has run again is not the waiting one. -/
structure Spent (es : List Step) (h : Host) : Prop where
  once : ∀ token, es.countP (runsAgain token) ≤ 1
  spent : ∀ token, 0 < es.countP (runsAgain token) → token ≤ h.startWait.generation ∧
    (token = h.startWait.generation → h.startWait.waiting = false)

lemma generation_of_next (hnext : h.next op = some h') :
    h.startWait.generation ≤ h'.startWait.generation ∧
      (h'.startWait.generation = h.startWait.generation → h.startWait.waiting = false →
        h'.startWait.waiting = false) := by
  have hmoved := moved_of_next hnext
  generalize h'.startWait = w', h'.notices = notices', h'.settles = settles' at hmoved
  cases hmoved with
  | kept | told | settled => exact ⟨le_rfl, fun _ hno => hno⟩
  | began hanswer => exact ⟨Nat.le_succ _, fun heq => absurd heq (Nat.succ_ne_self _)⟩
  | again hwaiting htoken => exact ⟨le_rfl, fun _ _ => rfl⟩
  | ended hwaiting | cancelled hwaiting => exact ⟨Nat.le_succ _, fun _ _ => rfl⟩

lemma Spent.next (hs : Spent es h) (hnext : h.next op = some h') :
    Spent (es ++ [⟨h, op, h'⟩]) h' := by
  obtain ⟨hle, hkept⟩ := generation_of_next hnext
  have hnew : ∀ token, (es ++ [(⟨h, op, h'⟩ : Step)]).countP (runsAgain token) =
      es.countP (runsAgain token) + if runsAgain token ⟨h, op, h'⟩ then 1 else 0 := by
    intro token
    rw [List.countP_append, List.countP_singleton]
  -- a gesture that runs again is of the waiting token, which no settle has run before
  have hfirst : ∀ token, runsAgain token ⟨h, op, h'⟩ = true →
      es.countP (runsAgain token) = 0 ∧ token = h.startWait.generation ∧
        h'.startWait.generation = token ∧ h'.startWait.waiting = false := by
    intro token hagain
    simp only [runsAgain, Bool.and_eq_true, decide_eq_true_eq] at hagain
    obtain ⟨rfl, hsettle⟩ := hagain
    simp only [Host.next, guard_eq_some] at hnext
    obtain ⟨-, rfl⟩ := hnext
    rw [Host.settle, if_pos hsettle, StartConnectWait.settle_of_true hsettle]
    obtain ⟨hwaiting, htoken⟩ := StartConnectWait.settle_iff.1 hsettle
    refine ⟨?_, htoken, htoken.symm, rfl⟩
    refine Nat.eq_zero_of_not_pos fun hpos => ?_
    exact absurd ((hs.spent token hpos).2 htoken) (by simp [hwaiting])
  constructor
  · intro token
    rw [hnew]
    split_ifs with hagain
    · rw [(hfirst token hagain).1]
    · exact hs.once token
  · intro token hpos
    rw [hnew] at hpos
    split_ifs at hpos with hagain
    · obtain ⟨-, -, hgeneration, hwaiting⟩ := hfirst token hagain
      exact ⟨hgeneration.ge, fun _ => hwaiting⟩
    · obtain ⟨hbound, hdone⟩ := hs.spent token hpos
      refine ⟨hbound.trans hle, fun heq => ?_⟩
      have hsame : h'.startWait.generation = h.startWait.generation :=
        le_antisymm (heq ▸ hbound) hle
      exact hkept hsame (hdone (heq.trans hsame))

/-! ### The newest gesture -/

/-- The start that waits is of the last gesture. -/
def Newest (es : List Step) (h : Host) : Prop :=
  h.startWait.waiting = true → ∃ pre b mid, es = pre ++ b :: mid ∧
    Begins h.startWait.generation b ∧ ∀ v ∈ mid, v.label.gesture = false

lemma Newest.next (hn : Newest es h) (ht : Told h) (hnext : h.next op = some h')
    (honce : AtOnce h op) (hnone : NoneWaits h op) : Newest (es ++ [⟨h, op, h'⟩]) h' := by
  have hmoved := moved_of_next hnext
  have hstays : op.gesture = false → h'.startWait = h.startWait →
      Newest (es ++ [⟨h, op, h'⟩]) h' := by
    intro hgesture hsame hwaiting
    rw [hsame] at hwaiting ⊢
    obtain ⟨pre, b, mid, rfl, hb, hmid⟩ := hn hwaiting
    refine ⟨pre, b, mid ++ [⟨h, op, h'⟩], by simp, hb, ?_⟩
    exact List.forall_mem_append.2 ⟨hmid, List.forall_mem_singleton.2 hgesture⟩
  have hends : h'.startWait.waiting = false → Newest (es ++ [⟨h, op, h'⟩]) h' := fun hno hyes =>
    absurd (hno.symm.trans hyes) (by simp)
  generalize hw : h'.startWait = w', h'.notices = notices', h'.settles = settles' at hmoved
  cases hmoved with
  | kept hgesture =>
    cases hop : op.gesture with
    | true => exact hends (by rw [hw, hgesture hop hnone honce])
    | false => exact hstays hop hw
  | @began gate hanswer =>
    intro _
    exact ⟨es, _, [], rfl, ⟨gate, rfl, hanswer, rfl⟩, by simp⟩
  | told hsettling hchange =>
    refine hends ?_
    rw [hw, Bool.eq_false_iff]
    exact fun hyes => absurd (ht.exclusive hyes) (by simp [hsettling])
  | settled hsettling => exact hstays rfl hw
  | again hwaiting htoken => exact hends (by rw [hw])
  | ended hwaiting | cancelled hwaiting =>
    refine hends ?_
    rw [hw]
    rfl

/-! ### Runs -/

lemma told_of_runs (hrun : Runs es h) : Told h := by
  refine hrun.invariant (P := fun _ h => Told h) ?_ fun _ _ _ _ ht hstep => ht.next hstep.1
  rintro h rfl
  exact ⟨by simp, by simp, by simp, by simp⟩

lemma spent_of_runs (hrun : Runs es h) : Spent es h := by
  refine hrun.invariant (P := Spent) ?_ fun _ _ _ _ hs hstep => hs.next hstep.1
  rintro h rfl
  exact ⟨by simp, by simp⟩

/-- In a run in which no gesture was answered at once while a start waited, the start that waits is
of the last gesture. -/
lemma newest_of_runs (hrun : Runs es h) (hnone : ∀ t ∈ es, NoneWaits t.pre t.label) :
    Newest es h := by
  induction hrun with
  | nil hinit =>
    obtain rfl : _ = ({} : Host) := hinit
    exact fun hyes => absurd hyes (by simp)
  | @snoc es h op h' hrun hstep ih =>
    have hlast : NoneWaits h op := hnone ⟨h, op, h'⟩ (by simp)
    have hpre : Newest es h := ih fun t ht => hnone t (List.mem_append_left _ ht)
    exact hpre.next (told_of_runs hrun) hstep.1 hstep.2 hlast

/-- A start that waited for its balance is the last thing the user asked for. -/
structure LastAsked (es : List Step) (h : Host) : Prop where
  newest : (∀ t ∈ es, NoneWaits t.pre t.label) → ∀ pre t post token, es = pre ++ t :: post →
    runsAgain token t = true → ∃ pre' b mid, pre = pre' ++ b :: mid ∧ Begins token b ∧
      ∀ v ∈ mid, v.label.gesture = false
  once : ∀ token, es.countP (runsAgain token) ≤ 1
  told : ∀ pre change rest, h.notices = pre ++ change :: rest → change ≠ .waiting →
    pre.getLast? = some .waiting
  rest : h.startWait.waiting = false → h.settles = 0 → h.notices.getLast? ≠ some .waiting

/-- A settle runs a gesture again only if it is the user's last, in a run in which no connect
gesture was answered at once while a start waited; and in every run each wait runs its gesture
again at most once, and the views are told of its end. -/
theorem start_is_last_asked (hrun : Runs es h) : LastAsked es h where
  newest := by
    rintro hnone pre t post token rfl hagain
    obtain ⟨hpre, -⟩ := hrun.split rfl
    have hnewest := newest_of_runs hpre fun v hv => hnone v (List.mem_append_left _ hv)
    rw [runsAgain, Bool.and_eq_true] at hagain
    obtain ⟨hwaiting, rfl⟩ := StartConnectWait.settle_iff.1 hagain.2
    exact hnewest hwaiting
  once := (spent_of_runs hrun).once
  told := (told_of_runs hrun).chain
  rest := by
    intro hwaiting hsettles hlast
    have htold := told_of_runs hrun
    rcases htold.last.1 hlast with hyes | hyes
    · exact absurd (hwaiting.symm.trans hyes) (by simp)
    · exact absurd (htold.running hyes) (by simp [hsettles])

/-- A connect whose balance is stale. -/
def stale : Gate := .asked {}

/-- A connect of a supporter. -/
def supported : Gate := .asked { supporter := true }

/-- A tap waits, a second one replaces it, and the fetch settles. -/
theorem start_is_last_asked_sample :
    ∃ es h, LastAsked es h ∧ h.notices = [.waiting, .waiting, .admitted] := by
  have h₀ : Runs [] {} := .nil rfl
  have h₁ := h₀.snoc (a := .connect stale) ⟨rfl, nofun⟩
  have h₂ := h₁.snoc (a := .connect stale) ⟨rfl, nofun⟩
  have h₃ := h₂.snoc (a := .settle 2) ⟨rfl, nofun⟩
  have h₄ := h₃.snoc (a := .connect supported) ⟨rfl, nofun⟩
  have h₅ := h₄.snoc (a := .settled) ⟨rfl, nofun⟩
  exact ⟨_, _, start_is_last_asked h₅, rfl⟩

/-- A tap waits, a second one is admitted at once, and the settle of the first runs it again. -/
theorem start_is_last_asked_fails :
    ¬ ∀ (es : List Step) (h : Host), Runs es h → ∀ pre t post token, es = pre ++ t :: post →
      runsAgain token t = true → ∃ pre' b mid, pre = pre' ++ b :: mid ∧ Begins token b ∧
        ∀ v ∈ mid, v.label.gesture = false := by
  intro hall
  have h₀ : Runs [] {} := .nil rfl
  have h₁ := h₀.snoc (a := .connect stale) ⟨rfl, nofun⟩
  have h₂ := h₁.snoc (a := .connect supported) ⟨rfl, nofun⟩
  have h₃ := h₂.snoc (a := .settle 1) ⟨rfl, nofun⟩
  obtain ⟨pre', b, mid, he, ⟨gate, hlabel, hanswer, -⟩, hmid⟩ := hall _ _ h₃ _ _ [] 1 rfl rfl
  -- the gesture that waits is the first, and the second comes after it
  rcases pre' with _ | ⟨e₁, _ | ⟨e₂, pre'⟩⟩
  · obtain ⟨-, rfl⟩ := List.cons.inj he
    exact absurd (hmid _ (List.mem_singleton_self _)) (by decide)
  · obtain ⟨-, he⟩ := List.cons.inj he
    obtain ⟨rfl, -⟩ := List.cons.inj he
    obtain rfl : supported = gate := Op.connect.inj hlabel
    exact absurd hanswer (by decide)
  · exact absurd (congrArg List.length he) (by simp)

end UrnetworkWindows.Balance.StartWait
