/-
The network country the service holds (`SdkHost.cpp`, `TunnelController.cpp`).

`ApplyNetworkCountry` stores a reading and pushes; a start reads the country, sends its request
with it, and pushes when the country has moved since.  A push holds a lock of its own while it
reads the country and sends it.  All of them run on any threads, a statement at a time; the pipe
serves one call at a time, in the order the calls were made.

The service holds what the last call that was served carried.  That this is the current country
once everybody is done is `Kept`: until then somebody is on the way to read the country again,
holds it ready, or has still to compare what the service was given with it.
-/
import UrnetworkWindows.Lib.Exclusive
import UrnetworkWindows.NetworkCountry.Watch

namespace UrnetworkWindows.NetworkCountry

open Lib

/-! ### Readings -/

/-- The tokens a source may be. -/
def kSources : List (List UInt8) :=
  [narrow "mobile-broadband", narrow "no-default-route", narrow "not-mobile-broadband",
    kSourceUnreadable, narrow "mobile-broadband-not-3gpp",
    narrow "mobile-broadband-not-registered", narrow "mobile-broadband-unknown-mcc"]

def kSourceUnknown : List UInt8 := narrow "unknown"

def isLetter (c : UInt8) : Bool := 'a'.toUInt8 ≤ c && c ≤ 'z'.toUInt8

def isCapital (c : UInt8) : Bool := 'A'.toUInt8 ≤ c && c ≤ 'Z'.toUInt8

/-- `CodeOrEmpty`. -/
def codeOrEmpty (code : List UInt8) : List UInt8 :=
  if code.length = 2 ∧ code.all (fun c => isCapital c || isLetter c) = true then
    code.map fun c => if isCapital c then c - 'A'.toUInt8 + 'a'.toUInt8 else c
  else []

/-- `SourceOrUnknown`. -/
def sourceOrUnknown (source : List UInt8) : List UInt8 :=
  if source ∈ kSources then source else kSourceUnknown

/-- `Normalized`: what the service takes off the pipe. -/
def normalized (r : Reading) : Reading where
  code := codeOrEmpty r.code
  source := sourceOrUnknown r.source

/-- A reading as the app makes it: a country in two lower-case letters or none, and a reason of
the list. -/
structure WellFormed (r : Reading) : Prop where
  code : r.code = [] ∨ r.code.length = 2 ∧ r.code.all isLetter = true
  source : r.source ∈ kSources

lemma not_isCapital_of_isLetter {c : UInt8} (h : isLetter c = true) : isCapital c = false := by
  simp only [isLetter, isCapital, Bool.and_eq_true, decide_eq_true_eq, Bool.and_eq_false_iff,
    decide_eq_false_iff_not, UInt8.le_iff_toNat_le] at h ⊢
  have hZ : ('Z'.toUInt8).toNat = 90 := rfl
  have ha : ('a'.toUInt8).toNat = 97 := rfl
  omega

lemma WellFormed.normalized_eq {r : Reading} (h : WellFormed r) : normalized r = r := by
  have hcode : codeOrEmpty r.code = r.code := by
    rcases h.code with hnone | ⟨hlength, hall⟩
    · rw [hnone]
      rfl
    · have hletter : ∀ c ∈ r.code, isLetter c = true := List.all_eq_true.1 hall
      have hany : (r.code.all fun c => isCapital c || isLetter c) = true :=
        List.all_eq_true.2 fun c hc => by rw [hletter c hc, Bool.or_true]
      rw [codeOrEmpty, if_pos ⟨hlength, hany⟩]
      refine (List.map_congr_left fun c hc => ?_).trans (List.map_id _)
      rw [not_isCapital_of_isLetter (hletter c hc)]
      rfl
  have hsource : sourceOrUnknown r.source = r.source := if_pos h.source
  rw [normalized, hcode, hsource]

/-! ### The model -/

/-- The next statement of a caller. -/
inductive CallAt
  /-- In `ApplyNetworkCountry`. -/
  | storing (reading : Reading)
  /-- In `PushNetworkCountry`, before its lock. -/
  | locking
  /-- The lock is held, down to `unlocking`. -/
  | asking
  | loading
  | sending (reading : Reading)
  | inSet (reading : Reading)
  | unlocking
  /-- In `BootstrapSession` or `ReconcileProviderLocked`, before the country is read. -/
  | toRead
  | requesting (sent : Reading)
  | inStart (sent : Reading)
  /-- In `PushNetworkCountryIfMoved`. -/
  | checking (sent : Reading)
  | done
deriving DecidableEq, Repr

/-- The caller holds the lock of the pushes. -/
def CallAt.locked : CallAt → Bool
  | .asking | .loading | .sending _ | .inSet _ | .unlocking => true
  | _ => false

/-- The caller is on its way to read the country for a push. -/
def CallAt.pushes : CallAt → Bool
  | .locking | .asking | .loading => true
  | _ => false

/-- The country a push has read and the service has not got. -/
def CallAt.carried : CallAt → Option Reading
  | .sending reading | .inSet reading => some reading
  | _ => none

/-- The app's country (`networkCountry_`, with no value until one was stored), who holds
`networkCountryPushMutex_`, the callers, those with a call on the pipe in the order of the
calls, and the country the service holds. -/
structure Held where
  stored : Option Reading := none
  holder : Option ℕ := none
  callers : List CallAt := []
  pipe : List ℕ := []
  service : Option Reading := none
deriving DecidableEq, Repr

/-- `CurrentNetworkCountry`. -/
def Held.current (h : Held) : Reading := h.stored.getD { source := [] }

/-- `TunnelController::SetNetworkCountry`. -/
def setNetworkCountry (service : Option Reading) (r : Reading) : Option Reading :=
  if service = some (normalized r) then service else some (normalized r)

/-- One of them is called, a caller takes its next step, or the pipe serves a call.  A push may
find the service disconnected, and a start site may return before its request. -/
inductive HeldAct
  | apply (reading : Reading)
  | push
  | start
  | step (i : ℕ)
  | disconnected (i : ℕ)
  | giveUp (i : ℕ)
  | serve
deriving DecidableEq, Repr

/-- The caller goes on at its next statement. -/
def Held.goTo (h : Held) (i : ℕ) (c : CallAt) : Held := { h with callers := h.callers.set i c }

/-- The next step of a caller. -/
def Held.step (h : Held) (i : ℕ) : CallAt → Option Held
  | .storing reading => some { h.goTo i .locking with stored := some reading }
  | .locking => if h.holder = none then some { h.goTo i .asking with holder := some i } else none
  | .asking => some (h.goTo i .loading)
  | .loading => some (h.goTo i (.sending h.current))
  | .sending reading => some { h.goTo i (.inSet reading) with pipe := h.pipe ++ [i] }
  | .unlocking => some { h.goTo i .done with holder := none }
  | .toRead => some (h.goTo i (.requesting h.current))
  | .requesting sent => some { h.goTo i (.inStart sent) with pipe := h.pipe ++ [i] }
  | .checking sent => some (h.goTo i (if h.current = sent then .done else .locking))
  | .inSet _ | .inStart _ | .done => none

/-- The pipe serves the call of a caller. -/
def Held.served (h : Held) (i : ℕ) (pipe : List ℕ) : CallAt → Option Held
  | .inSet reading =>
    some { h.goTo i .unlocking with pipe, service := setNetworkCountry h.service reading }
  | .inStart sent =>
    some { h.goTo i (.checking sent) with pipe, service := setNetworkCountry h.service sent }
  | _ => none

/-- The next state, if the act can be taken. -/
def Held.next (h : Held) : HeldAct → Option Held
  | .apply reading => some { h with callers := h.callers ++ [.storing reading] }
  | .push => some { h with callers := h.callers ++ [.locking] }
  | .start => some { h with callers := h.callers ++ [.toRead] }
  | .step i => h.callers[i]?.bind (h.step i)
  | .disconnected i =>
    match h.callers[i]? with
    | some .asking => some (h.goTo i .unlocking)
    | _ => none
  | .giveUp i =>
    match h.callers[i]? with
    | some (.requesting _) => some (h.goTo i .done)
    | _ => none
  | .serve =>
    match h.pipe with
    | [] => none
    | i :: pipe => h.callers[i]?.bind (h.served i pipe)

/-- No push finds the service disconnected. -/
def HeldAct.connected : HeldAct → Bool
  | .disconnected _ => false
  | _ => true

/-- The runs in which every call reaches the service. -/
abbrev HeldRuns : List (Transition Held HeldAct) → Held → Prop :=
  Run (· = {}) fun _ h a h' => h.next a = some h' ∧ a.connected = true

/-- Nobody is in any of them. -/
def Held.AtRest (h : Held) : Prop := ∀ c ∈ h.callers, c = .done

instance (h : Held) : Decidable h.AtRest := List.decidableBAll _ _

/-! ### The invariant -/

/-- Somebody is on the way to read the country for a push. -/
def Held.Pushing (h : Held) : Prop := ∃ c ∈ h.callers, c.pushes = true

/-- The caller will make the service hold the current country, or see that it does: it will read
the country, has read it, or has still to compare it with what the service holds. -/
def Held.Owes (h : Held) (c : CallAt) : Prop :=
  c.pushes = true ∨ c.carried = some h.current ∨
    ∃ sent, c = .checking sent ∧ h.service = some (normalized sent)

/-- A caller inside the lock of the pushes. -/
def Held.inside (h : Held) (i : ℕ) : Prop := h.callers[i]?.any CallAt.locked = true

/-- One push at a time is inside the lock; what it carries is current or will be followed by
another; and somebody owes the service the country, unless it holds it. -/
structure Kept (h : Held) : Prop where
  exclusive : Exclusive h.holder h.inside
  ready : ∀ c ∈ h.callers, ∀ r, c.carried = some r → r = h.current ∨ h.Pushing
  owed : h.stored.isSome → h.service = some (normalized h.current) ∨ ∃ c ∈ h.callers, h.Owes c

variable {h h' : Held} {i : ℕ} {x y : CallAt}

lemma setNetworkCountry_eq (service : Option Reading) (r : Reading) :
    setNetworkCountry service r = some (normalized r) := by
  rw [setNetworkCountry]
  split_ifs with heq
  · exact heq
  · rfl

lemma Held.Owes.of_eq (hstored : h'.stored = h.stored) (hservice : h'.service = h.service)
    {c : CallAt} (hc : h.Owes c) : h'.Owes c := by
  rwa [Held.Owes, Held.current, hstored, hservice]

lemma Held.Pushing.of_set (hpush : h.Pushing) (hi : h.callers[i]? = some x)
    (hcallers : h'.callers = h.callers.set i y) (hpushes : x.pushes = true → y.pushes = true) :
    h'.Pushing := by
  rw [Held.Pushing, hcallers]
  exact exists_mem_set hpush hi hpushes

/-- A caller goes on, with the country and the service as they were, and takes what it owes with
it. -/
lemma Kept.goOn (hk : Kept h) (hi : h.callers[i]? = some x)
    (hcallers : h'.callers = h.callers.set i y) (hstored : h'.stored = h.stored)
    (hservice : h'.service = h.service) (hexclusive : Exclusive h'.holder h'.inside)
    (hpushes : x.pushes = true → y.pushes = true)
    (hcarried : y.carried ≠ none → y.carried = x.carried)
    (howes : h.Owes x → h.Owes y ∨ h.service = some (normalized h.current)) : Kept h' := by
  have hcurrent : h'.current = h.current := by rw [Held.current, hstored, Held.current]
  refine ⟨hexclusive, fun c hc r hr => ?_, fun hsome => ?_⟩
  · have hold : r = h.current ∨ h.Pushing := by
      rw [hcallers] at hc
      rcases List.mem_or_eq_of_mem_set hc with hc | rfl
      · exact hk.ready c hc r hr
      · refine hk.ready x (List.mem_of_getElem? hi) r ?_
        rw [← hcarried (by simp [hr]), hr]
    rw [hcurrent]
    exact hold.imp_right fun hpush => hpush.of_set hi hcallers hpushes
  · rw [hservice, hcurrent, hcallers]
    rw [hstored] at hsome
    rcases hk.owed hsome with hheld | ⟨c, hc, hc'⟩
    · exact .inl hheld
    · obtain ⟨j, hj, rfl⟩ := List.mem_iff_getElem.1 hc
      by_cases hij : i = j
      · subst hij
        have hx : h.callers[i] = x := Option.some.inj ((List.getElem?_eq_getElem hj).symm.trans hi)
        rcases howes (hx ▸ hc') with hy | hheld
        · exact .inr ⟨y, List.mem_of_getElem? (List.getElem?_set_self hj),
            hy.of_eq hstored hservice⟩
        · exact .inl hheld
      · refine .inr ⟨_, List.mem_of_getElem? (i := j) ?_, hc'.of_eq hstored hservice⟩
        rw [List.getElem?_set_ne hij, List.getElem?_eq_getElem hj]

lemma inside_set (hi : h.callers[i]? = some x) (hcallers : h'.callers = h.callers.set i y)
    (hlocked : y.locked = x.locked) (j : ℕ) : h'.inside j ↔ h.inside j := by
  rw [Held.inside, Held.inside, hcallers, any_set_eq hi hlocked]

lemma Kept.stay (hk : Kept h) (hi : h.callers[i]? = some x)
    (hcallers : h'.callers = h.callers.set i y) (hholder : h'.holder = h.holder)
    (hlocked : y.locked = x.locked) : Exclusive h'.holder h'.inside := by
  rw [hholder]
  exact hk.exclusive.stay fun j => (inside_set hi hcallers hlocked j).1

lemma inside_of_ne (hi : h.callers[i]? = some x) (hcallers : h'.callers = h.callers.set i y) {j : ℕ}
    (hj : j ≠ i) (hin : h'.inside j) : h.inside j := by
  rw [Held.inside, hcallers, any_set hi, if_neg (Ne.symm hj)] at hin
  exact hin

lemma owed_of_set {c : CallAt} (hi : h.callers[i]? = some x)
    (hcallers : h'.callers = h.callers.set i c) (hc : h'.Owes c) : ∃ c ∈ h'.callers, h'.Owes c := by
  refine ⟨c, ?_, hc⟩
  rw [hcallers]
  exact List.mem_of_getElem? (List.getElem?_set_self (List.getElem?_eq_some_iff.1 hi).1)

/-! ### The steps keep it -/

lemma Kept.enter (hk : Kept h) {c : CallAt} (hlocked : c.locked = false)
    (hcarried : c.carried = none) (hcallers : h'.callers = h.callers ++ [c])
    (hholder : h'.holder = h.holder) (hstored : h'.stored = h.stored)
    (hservice : h'.service = h.service) : Kept h' := by
  have hcurrent : h'.current = h.current := by rw [Held.current, hstored, Held.current]
  have hmem : ∀ d ∈ h.callers, d ∈ h'.callers := fun d hd =>
    hcallers ▸ List.mem_append_left _ hd
  refine ⟨?_, fun d hd r hr => ?_, fun hsome => ?_⟩
  · rw [hholder]
    refine hk.exclusive.stay fun j hj => ?_
    rwa [Held.inside, hcallers, any_snoc hlocked] at hj
  · rw [hcallers] at hd
    rcases List.mem_append.1 hd with hd | hd
    · rw [hcurrent]
      exact (hk.ready d hd r hr).imp_right fun ⟨e, he, hpush⟩ => ⟨e, hmem e he, hpush⟩
    · obtain rfl := List.mem_singleton.1 hd
      exact absurd (hcarried.symm.trans hr) (by simp)
  · rw [hstored] at hsome
    rw [hservice, hcurrent]
    exact (hk.owed hsome).imp_right fun ⟨e, he, howes⟩ =>
      ⟨e, hmem e he, howes.of_eq hstored hservice⟩

lemma Kept.load (hk : Kept h) (hi : h.callers[i]? = some .loading) :
    Kept (h.goTo i (.sending h.current)) := by
  have hin : h.inside i := by
    rw [Held.inside, hi]
    rfl
  refine ⟨hk.stay hi rfl rfl rfl, fun c hc r hr => .inl ?_, fun _ => .inr ?_⟩
  · obtain ⟨j, hj⟩ := List.mem_iff_getElem?.1 hc
    rcases getElem?_set_cases hj with ⟨-, rfl⟩ | ⟨hij, hj⟩
    · exact (Option.some.inj hr).symm
    · have hother : h.inside j := by
        rw [Held.inside, hj]
        cases c <;> simp_all [CallAt.carried, CallAt.locked]
      exact absurd (Option.some.inj ((hk.exclusive i hin).symm.trans (hk.exclusive j hother))) hij
  · exact owed_of_set hi rfl (.inr (.inl rfl))

lemma Kept.store (hk : Kept h) {r : Reading} (hi : h.callers[i]? = some (.storing r)) :
    Kept { h.goTo i .locking with stored := some r } := by
  have howed : ∃ c ∈ ({ h.goTo i .locking with stored := some r } : Held).callers,
      Held.Owes { h.goTo i .locking with stored := some r } c := owed_of_set hi rfl (.inl rfl)
  refine ⟨hk.stay hi rfl rfl rfl, fun c hc r' hr => .inr ?_, fun _ => .inr howed⟩
  exact ⟨.locking, List.mem_of_getElem?
    (List.getElem?_set_self (List.getElem?_eq_some_iff.1 hi).1), rfl⟩

/-- The pipe serves a call: of a push, which carries the current country or is not the last, or
of a start, which compares afterwards. -/
lemma Kept.serve (hk : Kept h) {pipe : List ℕ} (hi : h.callers[i]? = some x)
    (hserved : h.served i pipe x = some h') : Kept h' := by
  cases x with
  | inSet r =>
    cases hserved
    have hgo : ∀ c : CallAt, c.pushes = true → c ∈ h.callers → c ∈ h.callers.set i .unlocking := by
      intro c hc hmem
      obtain ⟨j, hj⟩ := List.mem_iff_getElem?.1 hmem
      refine List.mem_of_getElem? (i := j) ?_
      rw [List.getElem?_set_ne, hj]
      rintro rfl
      cases hi.symm.trans hj
      exact absurd hc (by simp [CallAt.pushes])
    refine ⟨hk.stay hi rfl rfl rfl, fun c hc r' hr => ?_, fun _ => ?_⟩
    · rcases List.mem_or_eq_of_mem_set hc with hc | rfl
      · exact (hk.ready c hc r' hr).imp_right fun ⟨d, hd, hpush⟩ => ⟨d, hgo d hpush hd, hpush⟩
      · exact absurd hr (by simp [CallAt.carried])
    · rcases hk.ready _ (List.mem_of_getElem? hi) r rfl with rfl | ⟨d, hd, hpush⟩
      · exact .inl (setNetworkCountry_eq _ _)
      · exact .inr ⟨d, hgo d hpush hd, .inl hpush⟩
  | inStart sent =>
    cases hserved
    refine ⟨hk.stay hi rfl rfl rfl, fun c hc r' hr => ?_, fun _ => .inr ?_⟩
    · rcases List.mem_or_eq_of_mem_set hc with hc | rfl
      · refine (hk.ready c hc r' hr).imp_right fun hpush => hpush.of_set hi rfl ?_
        exact fun hno => absurd hno (by simp [CallAt.pushes])
      · exact absurd hr (by simp [CallAt.carried])
    · exact owed_of_set hi rfl (.inr (.inr ⟨sent, rfl, setNetworkCountry_eq _ _⟩))
  | _ => exact absurd hserved (by simp [Held.served])

lemma Kept.step (hk : Kept h) (hi : h.callers[i]? = some x) (hstep : h.step i x = some h') :
    Kept h' := by
  have hnot : ∀ c : CallAt, c.pushes = false → c.carried = none →
      (∀ sent, c ≠ .checking sent) → ¬ h.Owes c := by
    rintro c hpush hcarried hcheck (h₁ | h₂ | ⟨sent, h₃, -⟩)
    · exact absurd (hpush.symm.trans h₁) (by simp)
    · exact absurd (hcarried.symm.trans h₂) (by simp)
    · exact hcheck sent h₃
  cases x with
  | storing r =>
    cases hstep
    exact hk.store hi
  | locking =>
    simp only [Held.step, guard_eq_some] at hstep
    obtain ⟨hfree, rfl⟩ := hstep
    refine hk.goOn hi rfl rfl rfl ?_ (fun _ => rfl) (fun hno => absurd rfl hno)
      fun _ => .inl (.inl rfl)
    have hexclusive := hk.exclusive
    rw [hfree] at hexclusive
    exact hexclusive.take fun j hj hin => inside_of_ne hi rfl hj hin
  | asking =>
    cases hstep
    exact hk.goOn hi rfl rfl rfl (hk.stay hi rfl rfl rfl) (fun _ => rfl)
      (fun hno => absurd rfl hno) fun _ => .inl (.inl rfl)
  | loading =>
    cases hstep
    exact hk.load hi
  | sending r =>
    cases hstep
    refine hk.goOn hi rfl rfl rfl (hk.stay hi rfl rfl rfl)
      (fun hno => absurd hno (by simp [CallAt.pushes])) (fun _ => rfl) ?_
    rintro (hpush | hcarried | ⟨sent, hsent, -⟩)
    · exact absurd hpush (by simp [CallAt.pushes])
    · exact .inl (.inr (.inl hcarried))
    · exact absurd hsent (by simp)
  | unlocking =>
    cases hstep
    refine hk.goOn hi rfl rfl rfl ?_ (fun hno => absurd hno (by simp [CallAt.pushes]))
      (fun hno => absurd rfl hno) fun howes => absurd howes (hnot _ rfl rfl (by simp))
    have hin : h.inside i := by
      rw [Held.inside, hi]
      rfl
    have hexclusive := hk.exclusive
    rw [hexclusive i hin] at hexclusive
    refine hexclusive.release ?_ fun j hj hin => inside_of_ne hi rfl hj hin
    simp [Held.inside, Held.goTo, any_set hi, CallAt.locked]
  | toRead | requesting sent =>
    cases hstep
    exact hk.goOn hi rfl rfl rfl (hk.stay hi rfl rfl rfl)
      (fun hno => absurd hno (by simp [CallAt.pushes])) (fun hno => absurd rfl hno)
      fun howes => absurd howes (hnot _ rfl rfl (by simp))
  | checking sent =>
    cases hstep
    have hheld : h.Owes (.checking sent) → h.service = some (normalized sent) := by
      rintro (hpush | hcarried | ⟨sent', hsent, hservice⟩)
      · exact absurd hpush (by simp [CallAt.pushes])
      · exact absurd hcarried (by simp [CallAt.carried])
      · obtain rfl := CallAt.checking.inj hsent
        exact hservice
    by_cases heq : h.current = sent
    · -- the country has not moved, and what this start gave the service is it
      rw [if_pos heq]
      exact hk.goOn hi rfl rfl rfl (hk.stay hi rfl rfl rfl)
        (fun hno => absurd hno (by simp [CallAt.pushes])) (fun hno => absurd rfl hno)
        fun howes => .inr (heq ▸ hheld howes)
    · rw [if_neg heq]
      exact hk.goOn hi rfl rfl rfl (hk.stay hi rfl rfl rfl)
        (fun hno => absurd hno (by simp [CallAt.pushes])) (fun hno => absurd rfl hno)
        fun _ => .inl (.inl rfl)
  | inSet r | inStart sent | done => exact absurd hstep (by simp [Held.step])

theorem Kept.next {a : HeldAct} (hk : Kept h) (hnext : h.next a = some h')
    (hconnected : a.connected = true) : Kept h' := by
  cases a with
  | apply r =>
    cases hnext
    exact hk.enter (c := .storing r) rfl rfl rfl rfl rfl rfl
  | push =>
    cases hnext
    exact hk.enter (c := .locking) rfl rfl rfl rfl rfl rfl
  | start =>
    cases hnext
    exact hk.enter (c := .toRead) rfl rfl rfl rfl rfl rfl
  | step i =>
    obtain ⟨x, hi, hstep⟩ := Option.bind_eq_some_iff.1 hnext
    exact hk.step hi hstep
  | disconnected i => exact absurd hconnected (by simp [HeldAct.connected])
  | giveUp i =>
    rw [Held.next] at hnext
    split at hnext
    next sent hi =>
      cases hnext
      refine hk.goOn hi rfl rfl rfl (hk.stay hi rfl rfl rfl)
        (fun hno => absurd hno (by simp [CallAt.pushes])) (fun hno => absurd rfl hno) ?_
      rintro (hpush | hcarried | ⟨sent', hsent, -⟩)
      · exact absurd hpush (by simp [CallAt.pushes])
      · exact absurd hcarried (by simp [CallAt.carried])
      · exact absurd hsent (by simp)
    next => exact absurd hnext (by simp)
  | serve =>
    rw [Held.next] at hnext
    split at hnext
    next => exact absurd hnext (by simp)
    next i pipe _ =>
      obtain ⟨x, hi, hserved⟩ := Option.bind_eq_some_iff.1 hnext
      exact hk.serve hi hserved

lemma kept_of_runs {es : List (Transition Held HeldAct)} (hrun : HeldRuns es h) : Kept h := by
  induction hrun with
  | nil hinit =>
    obtain rfl := hinit
    exact ⟨fun i hi => absurd hi (by simp [Held.inside]), by simp, by simp⟩
  | snoc _ hs ih => exact ih.next hs.1 hs.2

/-- Once nobody is in any of them, the service holds the country that was stored last, in the
form it takes countries in; a country as the app makes them is in that form. -/
theorem service_keeps_current {es : List (Transition Held HeldAct)} (hrun : HeldRuns es h)
    (hrest : h.AtRest) {r : Reading} (hstored : h.stored = some r) :
    h.service = some (normalized r) ∧ (WellFormed r → h.service = some r) := by
  have hcurrent : h.current = r := by rw [Held.current, hstored, Option.getD_some]
  have hservice : h.service = some (normalized r) := by
    rcases (kept_of_runs hrun).owed (by simp [hstored]) with hheld | ⟨c, hc, howes⟩
    · rw [hheld, hcurrent]
    · obtain rfl := hrest c hc
      rcases howes with hpush | hcarried | ⟨sent, hsent, -⟩
      · exact absurd hpush (by simp [CallAt.pushes])
      · exact absurd hcarried (by simp [CallAt.carried])
      · exact absurd hsent (by simp)
  exact ⟨hservice, fun hform => hservice.trans (congrArg some hform.normalized_eq)⟩

/-- A reading of a mobile network. -/
def mobile (code : String) : Reading where
  code := narrow code
  source := narrow "mobile-broadband"

/-- A start that read the country before it moved away and is served while it is away; the
country is back before the start compares. -/
def sampleAwayAndBack : List HeldAct :=
  [.apply (mobile "de"), .step 0, .step 0, .step 0, .step 0, .step 0, .serve, .step 0,
    .start, .step 1, .step 1, .apply (mobile "fr"), .step 2, .step 2, .step 2, .step 2, .serve,
    .apply (mobile "de"), .step 3, .step 2, .step 1, .serve, .step 2, .step 3, .step 3, .step 3,
    .step 3, .serve, .step 3]

theorem service_keeps_current_back :
    ∃ h : Held, h.AtRest ∧ h.stored = some (mobile "de") ∧ h.service = some (mobile "de") := by
  obtain ⟨es, h, hrun, hgood⟩ := @Run.exists_of_cond _ _ Held.next (fun _ a => a.connected = true)
    _ {} sampleAwayAndBack
    (fun h => decide (h.AtRest ∧ h.stored = some (mobile "de"))) (by decide +kernel)
  obtain ⟨hrest, hstored⟩ := of_decide_eq_true hgood
  exact ⟨h, hrest, hstored, (service_keeps_current hrun hrest hstored).2
    ⟨.inr (by decide +kernel), by decide +kernel⟩⟩

end UrnetworkWindows.NetworkCountry
