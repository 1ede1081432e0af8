/-
The attempt behind a sign-in approved in the browser (`UrIoApproval.h`: `Slot`).

Any program can fire links at the gate, in any order.  The slot holds one attempt at a
time, and a link is an answer only to that one: the state drawn for it, on the flow it
began with, before its deadline on either clock.  An attempt ends by its denial, when its
answer is consumed, when it is cleared, past a deadline, with another flow, or when the
next one begins; the history carries which of these has happened since it began
(`Attempt`), and the invariant (`SlotOk`) says that the slot holds just the attempt that
none of them has ended.

A reading of the steady clock counts nanoseconds and one of the wall clock units of 100
nanoseconds, as the library's do.  The readings are any integers; a difference past 64 bits
is left out.
-/
import UrnetworkWindows.Lib.Trace
import UrnetworkWindows.SignIn.AuthLink

namespace UrnetworkWindows.SignIn.Approval

open Lib AuthLink

/-! ### The drawn state -/

def kStateBytes : ℕ := 32

/-- The bytes of the random source. -/
abbrev Draw := Vector UInt8 kStateBytes

def kAlphabet : List UInt8 :=
  narrow "ABCDEFGHIJKLMNOPQRSTUVWXYZabcdefghijklmnopqrstuvwxyz0123456789-_"

/-- The character for six bits of a chunk. -/
def base64Char (chunk shift : UInt32) : UInt8 := kAlphabet.getD (chunk >>> shift &&& 63).toNat 0

/-- `Base64Url`: chunks of three bytes, without padding. -/
def base64Url : List UInt8 → List UInt8
  | [] => []
  | [a] =>
    let chunk := a.toUInt32 <<< 16
    [base64Char chunk 18, base64Char chunk 12]
  | [a, b] =>
    let chunk := a.toUInt32 <<< 16 ||| b.toUInt32 <<< 8
    [base64Char chunk 18, base64Char chunk 12, base64Char chunk 6]
  | a :: b :: c :: data =>
    let chunk := a.toUInt32 <<< 16 ||| b.toUInt32 <<< 8 ||| c.toUInt32
    base64Char chunk 18 :: base64Char chunk 12 :: base64Char chunk 6 :: base64Char chunk 0 ::
      base64Url data

def stateOf (raw : Draw) : List UInt8 := base64Url raw.toList

lemma isBase64UrlChar_base64Char (chunk shift : UInt32) :
    isBase64UrlChar (base64Char chunk shift) := by
  have hindex : (chunk >>> shift &&& 63).toNat < kAlphabet.length := by
    rw [UInt32.toNat_and, show kAlphabet.length = 2 ^ 6 from rfl]
    exact Nat.and_lt_two_pow _ (by decide)
  have halpha : kAlphabet.all isBase64UrlChar := rfl
  rw [base64Char, List.getD_eq_getElem?_getD, List.getElem?_eq_getElem hindex,
    Option.getD_some]
  exact List.all_eq_true.1 halpha _ (List.getElem_mem hindex)

lemma length_base64Url (data : List UInt8) :
    (base64Url data).length = (4 * data.length + 2) / 3 := by
  fun_induction base64Url data with
  | case1 => rfl
  | case2 => simp
  | case3 => simp
  | case4 a b c data chunk ih =>
    simp only [List.length_cons, ih]
    omega

lemma all_base64Url (data : List UInt8) : (base64Url data).all isBase64UrlChar := by
  fun_induction base64Url data with
  | case1 => rfl
  | case2 | case3 => simp [isBase64UrlChar_base64Char]
  | case4 a b c data chunk ih => simp only [List.all_cons, isBase64UrlChar_base64Char, ih]; rfl

lemma isState_stateOf (raw : Draw) : IsState (stateOf raw) where
  length_eq := by
    rw [stateOf, length_base64Url, Vector.length_toList]
    rfl
  chars := all_base64Url _

/-! ### Comparing without an early exit -/

/-- `SameSecret`. -/
def sameSecret (a b : List UInt8) : Bool :=
  if a.length ≠ b.length then false
  else (a.zip b).foldl (fun difference p => difference ||| (p.1 ^^^ p.2)) 0 == 0

lemma foldl_difference (ps : List (UInt8 × UInt8)) (d : UInt8) :
    ps.foldl (fun difference p => difference ||| (p.1 ^^^ p.2)) d = 0 ↔
      d = 0 ∧ ∀ p ∈ ps, p.1 = p.2 := by
  induction ps generalizing d with
  | nil => simp
  | cons p ps ih =>
    rw [List.foldl_cons, ih, UInt8.or_eq_zero_iff, UInt8.xor_eq_zero_iff, List.forall_mem_cons,
      and_assoc]

lemma sameSecret_iff {a b : List UInt8} : sameSecret a b = true ↔ a = b := by
  rw [sameSecret]
  split
  · next hlen =>
    refine ⟨fun h => absurd h (by simp), ?_⟩
    rintro rfl
    exact absurd rfl hlen
  · next hlen =>
    rw [beq_iff_eq, foldl_difference]
    have hlen : a.length = b.length := not_not.1 hlen
    constructor
    · rintro ⟨-, h⟩
      refine List.ext_getElem hlen fun i ha hb => ?_
      have hmem : (a[i], b[i]) ∈ a.zip b := by
        rw [List.mem_iff_getElem]
        exact ⟨i, by rw [List.length_zip]; omega, by simp⟩
      exact h _ hmem
    · rintro rfl
      refine ⟨rfl, fun p hp => ?_⟩
      obtain ⟨i, hi, rfl⟩ := List.mem_iff_getElem.1 hp
      rw [List.getElem_zip]

/-! ### The slot -/

/-- One attempt lives five minutes, on both clocks. -/
def kLife : ℤ := 300

/-- A wall clock that went back by more than this since the attempt began ends it. -/
def kWallSkew : ℤ := 60

/-- A second in the units of the steady clock, and of the wall clock. -/
def steadySecond : ℤ := 1000000000

def wallSecond : ℤ := 10000000

/-- A reading of both clocks. -/
structure Clocks where
  steady : ℤ
  wall : ℤ
deriving DecidableEq, Repr

/-- What the gate needs that is not in the link. -/
structure Context where
  signedIn : Bool := false
  flow : UInt64 := 0
deriving DecidableEq, Repr

inductive Verdict
  | ignored
  | stray
  | denied
  | accepted
deriving DecidableEq, Repr

/-- Why a link is what the verdict says.  `badSeal` is the caller's to give. -/
inductive Why
  | none
  | signedIn
  | noAttempt
  | expired
  | superseded
  | invalidShape
  | wrongState
  | badSeal
deriving DecidableEq, Repr

inductive ClearReason
  | begin
  | cancel
  | timedOut
  | signInStarted
  | signedIn
  | signedOut
  | superseded
  | consumed
  | denied
  | shutdown
deriving DecidableEq, Repr

structure Decision where
  verdict : Verdict := .stray
  why : Why := .none
deriving DecidableEq, Repr

structure Params where
  publicKey : List UInt8
  secretKey : List UInt8
  now : Clocks
  flow : UInt64 := 0
  api : List UInt8 := []
deriving DecidableEq, Repr

/-- What the sheet and the request need of a live attempt. -/
structure View where
  state : List UInt8
  publicKey : List UInt8
  startedUnix : ℤ
  deadline : ℤ
  api : List UInt8
deriving DecidableEq, Repr

structure Slot where
  live : Bool := false
  state : List UInt8 := []
  publicKey : List UInt8 := []
  secretKey : List UInt8 := []
  api : List UInt8 := []
  begun : Clocks := ⟨0, 0⟩
  flow : UInt64 := 0
deriving DecidableEq, Repr

namespace Slot

variable (s : Slot)

/-- `WipeAll`: what the attempt held, but for when it began and its flow. -/
def wipeAll : Slot :=
  { s with state := [], publicKey := [], secretKey := [], api := [], live := false }

def clear (_ : ClearReason) : Slot := s.wipeAll

def expiredAt (now : Clocks) : Bool :=
  kLife * steadySecond ≤ now.steady - s.begun.steady ||
    kLife * wallSecond ≤ now.wall - s.begun.wall ||
    kWallSkew * wallSecond < s.begun.wall - now.wall

def viewOf : View where
  state := s.state
  publicKey := s.publicKey
  startedUnix := s.begun.wall.tdiv wallSecond
  deadline := s.begun.steady + kLife * steadySecond
  api := s.api

/-- `Begin`.  Without a draw no attempt starts, and the last one is gone all the same. -/
def begin (params : Params) (raw : Option Draw) : Option View × Slot :=
  let s := s.clear .begin
  match raw with
  | none => (none, s)
  | some raw =>
    let s := { s with
      state := stateOf raw, publicKey := params.publicKey, secretKey := params.secretKey,
      api := params.api, begun := params.now, flow := params.flow, live := true }
    (some s.viewOf, s)

def peek (now : Clocks) : Option View := if !s.live || s.expiredAt now then none else some s.viewOf

/-- `Check`. -/
def check (link : Return) (now : Clocks) (context : Context) : Decision × Slot :=
  if context.signedIn then (⟨.ignored, .signedIn⟩, s)
  else if !s.live then (⟨.stray, .noAttempt⟩, s)
  else if s.expiredAt now then (⟨.stray, .expired⟩, s.clear .timedOut)
  else if context.flow ≠ s.flow then (⟨.stray, .superseded⟩, s.clear .superseded)
  else if link.kind = .invalid then (⟨.stray, .invalidShape⟩, s)
  else if !sameSecret link.state s.state then (⟨.stray, .wrongState⟩, s)
  else if link.kind = .denied then (⟨.denied, .none⟩, s.clear .denied)
  else (⟨.accepted, .none⟩, s)

/-- `Consume`. -/
def consume (state : List UInt8) : Bool × Slot :=
  if !s.live || !sameSecret state s.state then (false, s) else (true, s.clear .consumed)

/-- `SecretKey`. -/
def secretKeyView : List UInt8 := if s.live then s.secretKey else []

end Slot

/-! ### Runs -/

/-- A call into the slot. -/
inductive Op
  | begin (params : Params) (raw : Option Draw)
  | check (link : Return) (now : Clocks) (context : Context)
  | consume (state : List UInt8)
  | clear (reason : ClearReason)
  | peek (now : Clocks)

/-- The slot after a call. -/
def Slot.next (s : Slot) : Op → Slot
  | .begin params raw => (s.begin params raw).2
  | .check link now context => (s.check link now context).2
  | .consume state => (s.consume state).2
  | .clear reason => s.clear reason
  | .peek _ => s

/-- The runs of one slot. -/
abbrev SlotRun : List (Transition Slot Op) → Slot → Prop :=
  Run (· = {}) fun _ s op s' => s.next op = s'

def isBegin (t : Transition Slot Op) : Bool :=
  match t.label with
  | .begin _ _ => true
  | _ => false

/-- The call used up an attempt: it was denied, or its answer was consumed. -/
def usesUp (t : Transition Slot Op) : Bool :=
  match t.label with
  | .check link now context => (t.pre.check link now context).1.verdict = .denied
  | .consume state => (t.pre.consume state).1
  | _ => false

/-- The call ends whatever attempt there is: it uses it up, clears it or replaces it, or
finds it past a deadline or its flow gone. -/
def ends (t : Transition Slot Op) : Bool :=
  match t.label with
  | .begin _ _ => true
  | .clear _ => true
  | .check link now context =>
    let decision := (t.pre.check link now context).1
    decision.verdict = .denied || decision.why = .expired || decision.why = .superseded
  | .consume state => (t.pre.consume state).1
  | .peek _ => false

/-- The latest attempt that began: what it began with and what was drawn for it.  Nothing
has ended it since. -/
def Attempt (es : List (Transition Slot Op)) (params : Params) (raw : Draw) : Prop :=
  ∃ es₁ b since, es = es₁ ++ b :: since ∧ b.label = .begin params (some raw) ∧
    ∀ t ∈ since, ends t = false

/-- The reading is before the deadline of an attempt begun at another: less than 300 s past
it on both clocks, and at most 60 s before it on the wall clock. -/
structure InTime (begun now : Clocks) : Prop where
  steady : now.steady - begun.steady < 300 * steadySecond
  wall : now.wall - begun.wall < 300 * wallSecond
  back : begun.wall - now.wall ≤ 60 * wallSecond

/-- What the slot promises. -/
structure OneAnswer (es : List (Transition Slot Op)) (s : Slot) : Prop where
  /-- Nothing of an attempt is kept past its end. -/
  wiped : s.live = false →
    s.state = [] ∧ s.publicKey = [] ∧ s.secretKey = [] ∧ s.api = [] ∧ s.secretKeyView = []
  /-- A link is an answer only to the attempt that is there, in time, and only while nobody
  is signed in. -/
  answers : ∀ es₁ t es₂ link now context, es = es₁ ++ t :: es₂ →
    t.label = .check link now context →
    (t.pre.check link now context).1.verdict = .accepted ∨
      (t.pre.check link now context).1.verdict = .denied →
    ∃ params raw, Attempt es₁ params raw ∧ context.signedIn = false ∧
      context.flow = params.flow ∧ InTime params.now now ∧ link.state = stateOf raw
  /-- From one `Begin` to the next, at most one call uses up the attempt. -/
  once : ∀ es₁ b mid es₂, es = es₁ ++ b :: (mid ++ es₂) → isBegin b = true →
    (∀ t ∈ mid, isBegin t = false) → mid.countP usesUp ≤ 1
  /-- A link that is no answer leaves an attempt in time, of the same flow, as it is. -/
  untouched : ∀ es₁ t es₂ link now context, es = es₁ ++ t :: es₂ →
    t.label = .check link now context →
    (t.pre.check link now context).1.verdict = .stray ∨
      (t.pre.check link now context).1.verdict = .ignored →
    t.pre.expiredAt now = false → context.flow = t.pre.flow → t.post = t.pre
  /-- The page's answers to an attempt in time are read, and taken, as answers. -/
  answerable : ∀ params raw now context, Attempt es params raw → InTime params.now now →
    context.signedIn = false → context.flow = params.flow →
    (s.check (parse (deniedUrl (stateOf raw)) kApprovalV1) now context).1 = ⟨.denied, .none⟩ ∧
    ∀ epk nonce data, isBase58 epk 64 = true → isBase58 nonce 64 = true →
      isBase58 data 2048 = true →
      (s.check (parse (sealedUrl (stateOf raw) epk nonce data) kApprovalV1) now context).1 =
        ⟨.accepted, .none⟩

/-! ### What a call does -/

lemma expiredAt_iff {s : Slot} {now : Clocks} : s.expiredAt now = false ↔ InTime s.begun now := by
  rw [Slot.expiredAt, Bool.or_eq_false_iff, Bool.or_eq_false_iff]
  constructor
  · rintro ⟨⟨hsteady, hwall⟩, hback⟩
    exact ⟨not_le.1 (of_decide_eq_false hsteady), not_le.1 (of_decide_eq_false hwall),
      not_lt.1 (of_decide_eq_false hback)⟩
  · intro h
    exact ⟨⟨decide_eq_false (not_le.2 h.steady), decide_eq_false (not_le.2 h.wall)⟩,
      decide_eq_false (not_lt.2 h.back)⟩

/-- The slot holds the attempt. -/
structure Slot.Holds (s : Slot) (params : Params) (raw : Draw) : Prop where
  live : s.live = true
  state : s.state = stateOf raw
  publicKey : s.publicKey = params.publicKey
  secretKey : s.secretKey = params.secretKey
  api : s.api = params.api
  begun : s.begun = params.now
  flow : s.flow = params.flow

/-- The slot holds nothing. -/
structure Slot.Empty (s : Slot) : Prop where
  live : s.live = false
  state : s.state = []
  publicKey : s.publicKey = []
  secretKey : s.secretKey = []
  api : s.api = []

lemma Slot.empty_wipeAll (s : Slot) : s.wipeAll.Empty := ⟨rfl, rfl, rfl, rfl, rfl⟩

lemma Slot.holds_begin (s : Slot) (params : Params) (raw : Draw) :
    (s.begin params (some raw)).2.Holds params raw :=
  ⟨rfl, rfl, rfl, rfl, rfl, rfl, rfl⟩

lemma check_cases (s : Slot) (link : Return) (now : Clocks) (context : Context) :
    ((s.check link now context).2 = s ∧
      ((s.check link now context).1.verdict = .stray ∨
        (s.check link now context).1.verdict = .ignored) ∧
      (s.check link now context).1.why ≠ .expired ∧
      (s.check link now context).1.why ≠ .superseded) ∨
    (s.check link now context = (⟨.stray, .expired⟩, s.wipeAll) ∧ s.expiredAt now = true) ∨
    (s.check link now context = (⟨.stray, .superseded⟩, s.wipeAll) ∧ context.flow ≠ s.flow) ∨
    ((s.check link now context = (⟨.denied, .none⟩, s.wipeAll) ∨
        s.check link now context = (⟨.accepted, .none⟩, s)) ∧
      s.live = true ∧ context.signedIn = false ∧ context.flow = s.flow ∧
      s.expiredAt now = false ∧ link.state = s.state) := by
  rw [Slot.check]
  split
  · exact .inl ⟨rfl, .inr rfl, by simp, by simp⟩
  next hsigned =>
  split
  · exact .inl ⟨rfl, .inl rfl, by simp, by simp⟩
  next hlive =>
  split
  · next hexpired => exact .inr (.inl ⟨rfl, hexpired⟩)
  next hexpired =>
  split
  · next hflow => exact .inr (.inr (.inl ⟨rfl, hflow⟩))
  next hflow =>
  split
  · exact .inl ⟨rfl, .inl rfl, by simp, by simp⟩
  split
  · exact .inl ⟨rfl, .inl rfl, by simp, by simp⟩
  next hsecret =>
  have hmatch : s.live = true ∧ context.signedIn = false ∧ context.flow = s.flow ∧
      s.expiredAt now = false ∧ link.state = s.state :=
    ⟨by simpa using hlive, by simpa using hsigned, not_not.1 hflow, by simpa using hexpired,
      sameSecret_iff.1 (by simpa using hsecret)⟩
  split
  · exact .inr (.inr (.inr ⟨.inl rfl, hmatch⟩))
  · exact .inr (.inr (.inr ⟨.inr rfl, hmatch⟩))

lemma consume_cases (s : Slot) (state : List UInt8) :
    s.consume state = (false, s) ∨ s.consume state = (true, s.wipeAll) ∧ s.live = true := by
  rw [Slot.consume]
  split
  · exact .inl rfl
  · next h =>
    refine .inr ⟨rfl, ?_⟩
    rw [Bool.or_eq_true, not_or] at h
    simpa using h.1

/-- A call that ends no attempt leaves the slot as it is; any other leaves the attempt it
begins, or nothing. -/
lemma next_cases (s : Slot) (op : Op) :
    (ends ⟨s, op, s.next op⟩ = false ∧ s.next op = s) ∨
    (ends ⟨s, op, s.next op⟩ = true ∧
      ((∃ params raw, op = .begin params (some raw) ∧ (s.next op).Holds params raw) ∨
        ((s.next op).Empty ∧ ∀ params raw, op ≠ .begin params (some raw)))) := by
  cases op with
  | begin params raw =>
    refine .inr ⟨rfl, ?_⟩
    cases raw with
    | none => exact .inr ⟨s.empty_wipeAll, by simp⟩
    | some raw => exact .inl ⟨params, raw, rfl, s.holds_begin params raw⟩
  | check link now context =>
    have hempty := s.empty_wipeAll
    rcases check_cases s link now context with h | ⟨h, -⟩ | ⟨h, -⟩ | ⟨h | h, -⟩
    · obtain ⟨hsame, hverdict, hexpired, hsuperseded⟩ := h
      refine .inl ⟨?_, hsame⟩
      rcases hverdict with hv | hv <;> simp [ends, hv, hexpired, hsuperseded]
    · exact .inr ⟨by simp [ends, h], .inr ⟨by simpa [Slot.next, h] using hempty, by simp⟩⟩
    · exact .inr ⟨by simp [ends, h], .inr ⟨by simpa [Slot.next, h] using hempty, by simp⟩⟩
    · exact .inr ⟨by simp [ends, h], .inr ⟨by simpa [Slot.next, h] using hempty, by simp⟩⟩
    · exact .inl ⟨by simp [ends, h], by simp [Slot.next, h]⟩
  | consume state =>
    rcases consume_cases s state with h | ⟨h, -⟩
    · exact .inl ⟨by simp [ends, h], by simp [Slot.next, h]⟩
    · refine .inr ⟨by simp [ends, h], .inr ⟨?_, by simp⟩⟩
      simpa [Slot.next, h] using s.empty_wipeAll
  | clear reason => exact .inr ⟨rfl, .inr ⟨s.empty_wipeAll, by simp⟩⟩
  | peek now => exact .inl ⟨rfl, rfl⟩

/-! ### Attempts -/

namespace Attempt

variable {es : List (Transition Slot Op)} {t : Transition Slot Op} {params : Params} {raw : Draw}

lemma of_begin (h : t.label = .begin params (some raw)) : Attempt (es ++ [t]) params raw :=
  ⟨es, t, [], rfl, h, by simp⟩

lemma snoc (h : Attempt es params raw) (ht : ends t = false) :
    Attempt (es ++ [t]) params raw := by
  obtain ⟨es₁, b, since, rfl, hb, hsince⟩ := h
  refine ⟨es₁, b, since ++ [t], by simp, hb, ?_⟩
  exact List.forall_mem_append.2 ⟨hsince, List.forall_mem_singleton.2 ht⟩

lemma of_snoc (h : Attempt (es ++ [t]) params raw) :
    t.label = .begin params (some raw) ∨ (ends t = false ∧ Attempt es params raw) := by
  obtain ⟨es₁, b, since, hes, hb, hsince⟩ := h
  rcases eq_or_mem_of_snoc hes with ⟨-, -, rfl⟩ | ⟨since', rfl, rfl⟩
  · exact .inl hb
  · refine .inr ⟨hsince t (by simp), es₁, b, since', rfl, hb, ?_⟩
    exact fun u hu => hsince u (List.mem_append_left _ hu)

end Attempt

/-- The slot holds the attempt that nothing has ended, and is empty without one. -/
structure SlotOk (es : List (Transition Slot Op)) (s : Slot) : Prop where
  holds : ∀ params raw, Attempt es params raw → s.Holds params raw
  attempt : s.live = true → ∃ params raw, Attempt es params raw
  empty : s.live = false → s.Empty

lemma SlotOk.step {es : List (Transition Slot Op)} {s : Slot} (h : SlotOk es s) (op : Op) :
    SlotOk (es ++ [⟨s, op, s.next op⟩]) (s.next op) := by
  rcases next_cases s op with ⟨hends, hsame⟩ | ⟨hends, ⟨params, raw, rfl, hholds⟩ | ⟨hempty, hop⟩⟩
  · constructor
    · intro params raw hattempt
      rw [hsame]
      rcases hattempt.of_snoc with hlabel | ⟨-, hbefore⟩
      · obtain rfl : op = .begin params (some raw) := hlabel
        exact absurd hends (by simp [ends])
      · exact h.holds params raw hbefore
    · intro hlive
      rw [hsame] at hlive
      obtain ⟨params, raw, hattempt⟩ := h.attempt hlive
      exact ⟨params, raw, hattempt.snoc hends⟩
    · rw [hsame]
      exact h.empty
  · constructor
    · intro params' raw' hattempt
      rcases hattempt.of_snoc with hlabel | ⟨hquiet, -⟩
      · obtain ⟨rfl, hraw⟩ := Op.begin.inj hlabel
        cases hraw
        exact hholds
      · exact absurd (hends.symm.trans hquiet) (by simp)
    · intro _
      exact ⟨params, raw, Attempt.of_begin rfl⟩
    · intro hlive
      exact absurd (hholds.live.symm.trans hlive) (by simp)
  · constructor
    · intro params raw hattempt
      rcases hattempt.of_snoc with hlabel | ⟨hquiet, -⟩
      · exact absurd hlabel (hop params raw)
      · exact absurd (hends.symm.trans hquiet) (by simp)
    · intro hlive
      exact absurd (hempty.live.symm.trans hlive) (by simp)
    · exact fun _ => hempty

lemma SlotOk.of_run {es : List (Transition Slot Op)} {s : Slot} (h : SlotRun es s) :
    SlotOk es s := by
  refine Run.invariant ?_ ?_ h
  · rintro _ rfl
    refine ⟨?_, by simp, fun _ => ⟨rfl, rfl, rfl, rfl, rfl⟩⟩
    rintro params raw ⟨es₁, b, since, hes, -⟩
    exact absurd hes (by simp)
  · rintro es s op _ hok rfl
    exact hok.step op

/-! ### One use for each attempt -/

lemma live_cases (s : Slot) {op : Op} (hop : isBegin ⟨s, op, s.next op⟩ = false) :
    (usesUp ⟨s, op, s.next op⟩ = true ∧ s.live = true ∧ (s.next op).live = false) ∨
    (usesUp ⟨s, op, s.next op⟩ = false ∧ ((s.next op).live = true → s.live = true)) := by
  cases op with
  | begin params raw => exact absurd hop (by simp [isBegin])
  | check link now context =>
    rcases check_cases s link now context with h | ⟨h, -⟩ | ⟨h, -⟩ | ⟨h | h, hlive, -⟩
    · obtain ⟨hsame, hverdict, -⟩ := h
      refine .inr ⟨?_, fun hlive => by simpa [Slot.next, hsame] using hlive⟩
      rcases hverdict with hv | hv <;> simp [usesUp, hv]
    · exact .inr ⟨by simp [usesUp, h], fun hlive => by simp [Slot.next, h, Slot.wipeAll] at hlive⟩
    · exact .inr ⟨by simp [usesUp, h], fun hlive => by simp [Slot.next, h, Slot.wipeAll] at hlive⟩
    · exact .inl ⟨by simp [usesUp, h], hlive, by simp [Slot.next, h, Slot.wipeAll]⟩
    · exact .inr ⟨by simp [usesUp, h], fun _ => hlive⟩
  | consume state =>
    rcases consume_cases s state with h | ⟨h, hlive⟩
    · exact .inr ⟨by simp [usesUp, h], fun hl => by simpa [Slot.next, h] using hl⟩
    · exact .inl ⟨by simp [usesUp, h], hlive, by simp [Slot.next, h, Slot.wipeAll]⟩
  | clear reason => exact .inr ⟨rfl, fun hlive => absurd hlive (by simp [Slot.next, Slot.clear,
      Slot.wipeAll])⟩
  | peek now => exact .inr ⟨rfl, id⟩

lemma uses_le {es₁ mid : List (Transition Slot Op)} {b : Transition Slot Op} {s : Slot}
    (h : SlotRun (es₁ ++ b :: mid) s) (hmid : ∀ t ∈ mid, isBegin t = false) :
    mid.countP usesUp + (if s.live then 1 else 0) ≤ 1 := by
  induction mid using List.reverseRecOn generalizing s with
  | nil =>
    rw [List.countP_nil]
    split <;> omega
  | append_singleton mid t ih =>
    have hes : es₁ ++ b :: (mid ++ [t]) = (es₁ ++ b :: mid) ++ [t] := by simp
    rw [hes] at h
    obtain ⟨hrun, hstep⟩ := h.split rfl
    have hpost : t.post = s := h.post_eq
    have hle := ih hrun fun u hu => hmid u (List.mem_append_left _ hu)
    have ht : t = ⟨t.pre, t.label, t.pre.next t.label⟩ := by rw [hstep]
    have hbegin : isBegin t = false := hmid t (by simp)
    rw [← hpost, List.countP_append, List.countP_singleton]
    rw [ht] at hbegin
    rcases live_cases t.pre hbegin with ⟨huses, hlive, hgone⟩ | ⟨huses, hkept⟩
    · rw [← ht] at huses
      rw [hstep] at hgone
      rw [if_pos hlive] at hle
      rw [if_pos huses, if_neg (by simp [hgone])]
      omega
    · rw [← ht] at huses
      rw [hstep] at hkept
      rw [if_neg (by simp [huses])]
      by_cases hpl : t.post.live = true
      · rw [if_pos hpl]
        rw [if_pos (hkept hpl)] at hle
        omega
      · rw [if_neg hpl]
        omega

/-! ### The gate -/

/-- A link is taken only as the answer of the live attempt, once, and the page's own answer
is one. -/
theorem only_live_attempt_answered {es : List (Transition Slot Op)} {s : Slot}
    (h : SlotRun es s) : OneAnswer es s := by
  have hok := SlotOk.of_run h
  refine ⟨?_, ?_, ?_, ?_, ?_⟩
  · intro hlive
    obtain ⟨-, hstate, hpublic, hsecret, hapi⟩ := hok.empty hlive
    exact ⟨hstate, hpublic, hsecret, hapi, by rw [Slot.secretKeyView, if_neg (by simp [hlive])]⟩
  · intro es₁ t es₂ link now context hes hlabel hverdict
    obtain ⟨hrun, -⟩ := h.split hes
    have hpre := SlotOk.of_run hrun
    rcases check_cases t.pre link now context with h' | ⟨h', -⟩ | ⟨h', -⟩ | ⟨-, h'⟩
    · obtain ⟨-, hv | hv, -⟩ := h' <;> exact absurd hverdict (by simp [hv])
    · exact absurd hverdict (by simp [h'])
    · exact absurd hverdict (by simp [h'])
    · obtain ⟨hlive, hsigned, hflow, hexpired, hstate⟩ := h'
      obtain ⟨params, raw, hattempt⟩ := hpre.attempt hlive
      have hholds := hpre.holds params raw hattempt
      refine ⟨params, raw, hattempt, hsigned, hflow.trans hholds.flow, ?_,
        hstate.trans hholds.state⟩
      rw [← hholds.begun]
      exact expiredAt_iff.1 hexpired
  · intro es₁ b mid es₂ hes _ hmid
    have hassoc : es = (es₁ ++ b :: mid) ++ es₂ := by simpa using hes
    obtain ⟨s₁, hrun⟩ := (hassoc ▸ h).of_append
    have hle := uses_le hrun hmid
    omega
  · intro es₁ t es₂ link now context hes hlabel hverdict hexpired hflow
    obtain ⟨-, hstep⟩ := h.split hes
    rw [hlabel] at hstep
    rw [← hstep]
    rcases check_cases t.pre link now context with h' | ⟨-, h'⟩ | ⟨-, h'⟩ | ⟨h', -⟩
    · exact h'.1
    · exact absurd (hexpired.symm.trans h') (by simp)
    · exact absurd hflow h'
    · rcases h' with h' | h' <;> exact absurd hverdict (by simp [h'])
  · intro params raw now context hattempt htime hsigned hflow
    have hholds := hok.holds params raw hattempt
    have hexpired : s.expiredAt now = false := by
      rw [expiredAt_iff, hholds.begun]
      exact htime
    have hsecret : sameSecret (stateOf raw) s.state = true := sameSecret_iff.2 hholds.state.symm
    have hflow : context.flow = s.flow := hflow.trans hholds.flow.symm
    refine ⟨?_, fun epk nonce data hepk hnonce hdata => ?_⟩
    · rw [parse_deniedUrl (isState_stateOf raw)]
      simp [Slot.check, hsigned, hholds.live, hexpired, hflow, hsecret]
    · rw [parse_sealedUrl (isState_stateOf raw) hepk hnonce hdata]
      simp [Slot.check, hsigned, hholds.live, hexpired, hflow, hsecret]

set_option maxRecDepth 4096 in
/-- An attempt begins, a stray link leaves it, and its denial ends it for good. -/
theorem only_live_attempt_answered_denied : ∃ es s, SlotRun es s ∧ OneAnswer es s ∧
    es.countP usesUp = 1 ∧ s.live = false := by
  have h₀ : SlotRun [] {} := .nil rfl
  have h₁ := h₀.snoc (a := .begin ⟨narrow "pk", narrow "sk", ⟨0, 0⟩, 7, []⟩
    (some (Vector.replicate kStateBytes 0))) rfl
  have h₂ := h₁.snoc (a := .check {} ⟨1, 1⟩ ⟨false, 7⟩) rfl
  have h₃ := h₂.snoc (a := .check { kind := .denied, state := List.replicate 43 65 } ⟨2, 2⟩
    ⟨false, 7⟩) rfl
  have h₄ := h₃.snoc (a := .consume (List.replicate 43 65)) rfl
  refine ⟨_, _, h₄, only_live_attempt_answered h₄, ?_, ?_⟩
  · decide
  · decide

end UrnetworkWindows.SignIn.Approval
