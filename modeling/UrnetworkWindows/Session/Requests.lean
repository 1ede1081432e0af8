/-
What the app asks of its session worker (`SdkHost.h`), and the questions three pure headers
answer about a request: whether a sign-out holds it back (`SignOutConnectFence.h`), whether
an exit keeps it (`ExitDrain.h`), and how far the user's gestures have settled
(`TapHold.h`).
-/
import Mathlib.Tactic

namespace UrnetworkWindows.Session

/-- `ConnectKind`. -/
inductive ConnectKind
  | none
  | bestAvailable
  | location
  | selected
  | disconnect
  | provider
deriving DecidableEq, Repr

namespace ConnectKind

/-- A connect of any kind. -/
def connects : ConnectKind → Bool
  | bestAvailable => true
  | location => true
  | selected => true
  | _ => false

/-- `IsGesture`. -/
def isGesture (kind : ConnectKind) : Bool := kind.connects || kind = disconnect

end ConnectKind

/-! ### The sign-out fence -/

/-- `signoutfence::Work`. -/
inductive Work
  | connect
  | disconnect
  | ensure
  | provider
deriving DecidableEq, Repr

/-- `signoutfence::Admits`. -/
def admits (work : Work) (signedIn : Bool) : Bool := signedIn || work ≠ .connect

/-- `FenceWorkOf`. -/
def fenceWorkOf : ConnectKind → Work
  | .bestAvailable => .connect
  | .location => .connect
  | .selected => .connect
  | .disconnect => .disconnect
  | .provider => .provider
  | .none => .ensure

/-! ### An exit -/

/-- `exitdrain::Queued`. -/
inductive Queued
  | ensure
  | connect
  | disconnect
  | provider
deriving DecidableEq, Repr

/-- `exitdrain::KeepsQueued`. -/
def keepsQueued (queued : Queued) : Bool := queued = .disconnect

/-- `QueuedOf`. -/
def queuedOf : ConnectKind → Queued
  | .disconnect => .disconnect
  | .bestAvailable => .connect
  | .location => .connect
  | .selected => .connect
  | .provider => .provider
  | .none => .ensure

lemma keepsQueued_queuedOf (kind : ConnectKind) :
    keepsQueued (queuedOf kind) = true ↔ kind = .disconnect := by
  cases kind <;> decide

/-! ### Taps -/

/-- `SettledThrough`: 0 stands for none. -/
def settledThrough (issued pending inFlight : ℕ) : ℕ :=
  let oldest := if pending ≠ 0 then pending else 0
  let oldest := if inFlight ≠ 0 ∧ (oldest = 0 ∨ inFlight < oldest) then inFlight else oldest
  if oldest = 0 then issued else oldest - 1

variable {issued pending inFlight g : ℕ}

lemma settledThrough_le (hpending : pending ≤ issued) (hinFlight : inFlight ≤ issued) :
    settledThrough issued pending inFlight ≤ issued := by
  simp only [settledThrough]
  split_ifs <;> omega

lemma settledThrough_lt_pending (h : pending ≠ 0) :
    settledThrough issued pending inFlight < pending := by
  simp only [settledThrough]
  split_ifs <;> omega

lemma settledThrough_lt_inFlight (h : inFlight ≠ 0) :
    settledThrough issued pending inFlight < inFlight := by
  simp only [settledThrough]
  split_ifs <;> omega

end UrnetworkWindows.Session
