/-
The controller's devices (`TunnelController.cpp`, `StopBudget.h`).

Every `DeviceLocal` runs under the one identity of the machine.  The model follows
each of them from its construction to the return of its `close()`: through the
session's slot, the provider's, the one a start takes over, the log upload's, the
one a disconnect gets back, and the workers `RunBounded` hands them to.

A worker is a record that the scheduler advances one step at a time, so its
`close()` may take arbitrarily long; a wait for it ends whenever the scheduler says,
and finds the worker done or leaves it behind.  The coin of a step decides what the
model does not: which requests are for the same device, and what throws or refuses.

Handing an object to a worker and starting the worker are one step, as are the
construction of a device and its move into its slot.  Left out: the objects that
travel with a device (its space, monitor, pump and adapter), the firewall, and the
readiness of a capture.
-/
import UrnetworkWindows.Lib.Locked

namespace UrnetworkWindows.Controller.Device

open Lib

/-- How far a worker is. -/
inductive Phase
  | running
  | closing
  | leaving
  | done
deriving DecidableEq, Repr

/-- A worker of `RunBounded`, with the handback of a disconnect that keeps the
device. -/
structure Worker where
  device : Option ℕ := none
  phase : Phase := .running
  keep : Bool := false
  abandoned : Bool := false
  kept : Option ℕ := none
deriving DecidableEq, Repr

/-- The devices, numbered in the order they are constructed, and who has them. -/
structure Devices where
  built : ℕ := 0
  /-- `close()` has returned. -/
  closed : ℕ → Bool := fun _ => false
  /-- `device_`. -/
  session : Option ℕ := none
  /-- `providerDevice_`. -/
  provider : Option ℕ := none
  /-- What a start took over from the provider. -/
  handedOff : Option ℕ := none
  /-- What a disconnect got back from its teardown. -/
  kept : Option ℕ := none
  /-- The device of each log-upload slot. -/
  slot : ℕ → Option ℕ := fun _ => none
  slots : ℕ := 0
  /-- `logUpload_`. -/
  logUpload : Option ℕ := none
  workers : ℕ := 0
  worker : ℕ → Worker := fun _ => {}
  /-- `g_heldDevices`: the workers that were abandoned with a device. -/
  held : List ℕ := []

/-- The operations, the log upload's waiters and the workers.  A stop that is no
disconnect stands for `Stop`, `Logout` and the failsafe. -/
inductive Op
  | start
  | stop (disconnect : Bool)
  | startProvider
  | stopProvider
  | uploadLogs
  | waiter (slot : ℕ)
  | worker (k : ℕ)
deriving DecidableEq, Repr

/-- The names of the steps that a condition or the history singles out. -/
inductive Name
  | step
  | acquire
  | giveUp
  | release
  | sweep
  | build
  | lose
  | take (slot : ℕ)
  | await (early : Bool) (k : ℕ)
deriving DecidableEq, Repr

/-- A part of an operation. -/
abbrev Act := Prog Devices Name

/-! ### Workers -/

/-- The worker with that number, changed. -/
def Devices.setWorker (s : Devices) (k : ℕ) (w : Worker) : Devices :=
  { s with worker := Function.update s.worker k w }

/-- The device is handed to a new worker. -/
def Devices.hand (s : Devices) (d : ℕ) (keep : Bool) : Devices :=
  { s with
    workers := s.workers + 1
    worker := Function.update s.worker s.workers { device := some d, keep := keep } }

/-- The next step of a worker: it gives a kept device back or goes on to close it,
its `close()` returns, and it is done. -/
def Devices.work (s : Devices) (k : ℕ) (cleared : Bool) : Devices :=
  let w := s.worker k
  match w.phase, w.device with
  | .running, d =>
    if w.keep ∧ cleared ∧ ¬ w.abandoned then
      s.setWorker k { w with device := none, kept := d, phase := .leaving }
    else s.setWorker k { w with phase := .closing }
  | .closing, some d =>
    { s with
      closed := Function.update s.closed d true
      worker := Function.update s.worker k { w with device := none, phase := .leaving } }
  | .closing, none => s.setWorker k { w with phase := .leaving }
  | .leaving, _ => s.setWorker k { w with phase := .done }
  | .done, _ => s

/-- The worker is done. -/
def Devices.isDone (s : Devices) (k : ℕ) : Bool := (s.worker k).phase = .done

/-- `SweepAbandonedTeardowns`: the gates that are still held. -/
def Devices.outstanding (s : Devices) : List ℕ := s.held.filter fun k => !s.isDone k

/-- A sweep, with the number it reports. -/
def sweep (n : Name) : Act ℕ :=
  .perform n fun _ s => (s.outstanding.length, { s with held := s.outstanding })

/-- A device leaves its place for a worker of `RunBounded`, if there is one. -/
def handOver (n : Name) (keep : Bool) (get : Devices → Option ℕ) (clear : Devices → Devices) :
    Act (Option ℕ) :=
  .perform n fun _ s =>
    match get s with
    | none => (none, s)
    | some d => (some s.workers, (clear s).hand d keep)

/-- The wait of `RunBounded`: it finds the worker done, or leaves it behind and
registers its gate.  An early wait is one that a construction follows without another
sweep. -/
def runBounded (early : Bool) (k : ℕ) : Act Unit := do
  let done ← .load (.await early k) (·.isDone k)
  if done then pure ()
  else .store .step fun s => { s with held := k :: s.held }

/-- The wait for a worker, if one was started. -/
def awaitWorker (early : Bool) : Option ℕ → Act Unit
  | none => pure ()
  | some k => runBounded early k

/-! ### Retiring -/

/-- `RetireProviderDeviceLocked`. -/
def retireProviderDeviceLocked (early : Bool) : Act Unit := do
  let k ← handOver .step false (·.provider) fun s => { s with provider := none }
  awaitWorker early k

/-- `CloseLogUploadDevice`: whoever takes the device first closes it. -/
def closeLogUploadDevice (early : Bool) (j : ℕ) : Act Unit := do
  let k ← handOver (.take j) false (·.slot j) fun s =>
    { s with slot := Function.update s.slot j none }
  awaitWorker early k

/-- `logUpload_.reset()`. -/
def resetLogUpload : Act Unit := .store .step fun s => { s with logUpload := none }

/-- `RetireLogUploadDeviceLocked`. -/
def retireLogUploadDeviceLocked (early : Bool) : Act Unit := do
  let j ← .load .step (·.logUpload)
  match j with
  | none => pure ()
  | some j => do
    closeLogUploadDevice early j
    resetLogUpload

/-- `CloseHandedOffDeviceLocked`. -/
def closeHandedOffDeviceLocked : Act Unit := do
  let k ← handOver .step false (·.handedOff) fun s => { s with handedOff := none }
  awaitWorker false k

/-- The end of the handback: the device comes back, or the worker is told that it is
its own to close. -/
def takeBack (k : ℕ) : Act Unit :=
  .store .step fun s =>
    match (s.worker k).kept with
    | some d => { s.setWorker k { s.worker k with kept := none } with kept := some d }
    | none => s.setWorker k { s.worker k with abandoned := true }

/-- `TearDownSessionLocked`. -/
def tearDownSessionLocked (keep : Bool) : Act Unit := do
  let k ← handOver .step keep (·.session) fun s => { s with session := none }
  match k with
  | none => pure ()
  | some k => do
    runBounded false k
    if keep then takeBack k else pure ()

/-- `ResumeProvidingLocked`: without an egress monitor the kept device is retired. -/
def resumeProvidingLocked : Act Unit := do
  let threw ← .toss .step
  .store .step fun s => { s with provider := s.kept, kept := none }
  if threw then retireProviderDeviceLocked false else pure ()

/-- What keeps the session's device at a disconnect. -/
def keepsSessionDevice (disconnect : Bool) : Act Bool :=
  .perform .step fun provides s =>
    (disconnect && s.session.isSome && provides && s.outstanding.isEmpty,
      if disconnect && s.session.isSome then { s with held := s.outstanding } else s)

/-- `StopLocked`. -/
def stopLocked (disconnect : Bool) : Act Unit := do
  retireProviderDeviceLocked false
  retireLogUploadDeviceLocked false
  let keep ← keepsSessionDevice disconnect
  tearDownSessionLocked keep
  let back ← .load .step (·.kept.isSome)
  if back then resumeProvidingLocked else pure ()

/-! ### Constructing -/

/-- `NewDeviceLocked`, and whether it returned: it may throw before the device is
constructed, and for a new identity also after it, when the key material cannot be
stored; the device is then released and never closed. -/
def newDeviceLocked (install : ℕ → Devices → Devices) : Act Bool := do
  let threw ← .toss .step
  if threw then pure false
  else do
    let lost ← .toss .step
    if lost then do
      .store .lose fun s => { s with built := s.built + 1 }
      pure false
    else do
      .store .build fun s => install s.built { s with built := s.built + 1 }
      pure true

/-- Steps 4/8 of `StartLocked` and after: the device a start took over, or a new one. -/
def sessionDevice : Act Unit := do
  let taken ← .perform .step fun _ s => (s.handedOff.isSome,
    if s.handedOff.isSome then { s with session := s.handedOff, handedOff := none } else s)
  let ok ← .orElse taken (newDeviceLocked fun d s => { s with session := some d })
  let fails ← .toss .step
  if ok && !fails then pure () else stopLocked false

/-- `StartLocked`, with the guard that closes a device it took over and did not use. -/
def startLocked : Act Unit := do
  .perform .step fun promotes s => ((),
    if promotes then { s with handedOff := s.provider, provider := none } else s)
  stopLocked false
  let restarting ← .toss .step
  if restarting then closeHandedOffDeviceLocked
  else do
    let outstanding ← sweep .sweep
    if outstanding ≠ 0 then closeHandedOffDeviceLocked
    else do
      let threw ← .toss .step
      if threw then do
        stopLocked false
        closeHandedOffDeviceLocked
      else do
        sessionDevice
        closeHandedOffDeviceLocked

/-- What `StartProvider` builds, after the old devices are retired. -/
def buildProvider : Act Unit := do
  let threw ← .toss .step
  if threw then retireProviderDeviceLocked false
  else do
    let ok ← newDeviceLocked fun d s => { s with provider := some d }
    let fails ← .toss .step
    if ok && !fails then pure () else retireProviderDeviceLocked false

/-- `StartProvider`, with the lock. -/
def startProviderLocked : Act Unit := do
  let session ← .load .step (·.session.isSome)
  let outstanding ← sweep .sweep
  let refused ← .toss .step
  if session || outstanding ≠ 0 || refused then pure ()
  else do
    let same ← .perform .step fun same s => (same && s.provider.isSome, s)
    if same then pure ()
    else do
      retireProviderDeviceLocked true
      retireLogUploadDeviceLocked true
      buildProvider

/-- What `UploadLogs` builds when no device runs, after the old one is retired. -/
def buildLogUpload : Act Unit := do
  let threw ← .toss .step
  if threw then resetLogUpload
  else do
    let j ← .perform .step fun _ s => (s.slots, { s with slots := s.slots + 1 })
    let ok ← newDeviceLocked fun d s => { s with slot := Function.update s.slot j (some d) }
    let fails ← .toss .step
    if ok && !fails then .store .step fun s => { s with logUpload := some j }
    else do
      closeLogUploadDevice false j
      resetLogUpload

/-- `UploadLogs`, with the lock: a running device carries the upload. -/
def uploadLogsLocked : Act Unit := do
  let runs ← .load .step fun s => s.session.isSome || s.provider.isSome
  let busy ← .toss .step
  if runs || busy then pure ()
  else do
    let outstanding ← sweep .sweep
    let refused ← .toss .step
    if outstanding ≠ 0 || refused then pure ()
    else do
      retireLogUploadDeviceLocked true
      buildLogUpload

/-! ### The system -/

/-- An operation under `mutex_`; a timed acquisition may be given up. -/
def locked (timed : Bool) (p : Act Unit) : Act Unit := do
  let got ← .lock .acquire .giveUp (fun _ => timed) .ret
  if got then do
    p
    .unlock .release (.ret ())
  else pure ()

/-- What each operation runs. -/
def body : Op → Act Unit
  | .start => locked false startLocked
  | .stop disconnect => locked true (stopLocked disconnect)
  | .startProvider => locked true startProviderLocked
  | .stopProvider => locked true (retireProviderDeviceLocked false)
  | .uploadLogs => locked true uploadLogsLocked
  | .waiter j => closeLogUploadDevice false j
  | .worker k => .act .step (fun s => k < s.workers) (fun cleared s => ((), s.work k cleared)) .ret

/-- The history: a sweep has let an operation go on, and it has not built yet. -/
structure History where
  swept : Bool := false

/-- The sweep of that operation finds nothing in its way. -/
def goesOn (op : Op) (s : Devices) : Bool :=
  s.outstanding.isEmpty && !(op = .startProvider && s.session.isSome)

/-- How a step is remembered. -/
def note (e : Event Op Name) (s : Devices) (h : History) : History :=
  match e.name with
  | .sweep => { h with swept := goesOn e.self.kind s }
  | .build | .lose | .release => { h with swept := false }
  | _ => h

/-- The controller's devices.  A worker and a waiter exist once they were started. -/
def devices : System Devices History Op Name where
  body := body
  may op s :=
    match op with
    | .worker k => k < s.workers
    | .waiter j => j < s.slots
    | _ => true
  note := note

/-- The controller with its operations in progress. -/
abbrev Machine := Pool Devices History Op Name

end UrnetworkWindows.Controller.Device
