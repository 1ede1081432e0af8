/-
The per-user registration of the urnetwork scheme (`ProtocolRegistration.h`).

A plan is the list of the values to write, marker first and command last.  A power cut
leaves a first part of them, and the next call plans again on the key that is then read.
As soon as one write has been made the key carries the marker, so it is ours whatever else
it holds, and `PlanEnsure` goes on where it was cut (`sign_in_key_kept`).

A key that is someone else's is refused by every call, so it is as it was after any of
them (`foreign_key_never_current`).
-/
import UrnetworkWindows.Lib.Text

namespace UrnetworkWindows.SignIn

open Lib

/-! ### The key -/

/-- `kDescription`. -/
def kDescription : List UInt16 := wide "URL:URnetwork Protocol"

/-- `kUrlProtocolValue`. -/
def kUrlProtocolValue : List UInt16 := wide "URL Protocol"

/-- `kOwnerValue`. -/
def kOwnerValue : List UInt16 := wide "UrnwOwner"

/-- `kCommandSubkey`. -/
def kCommandSubkey : List UInt16 := wide "shell\\open\\command"

/-- `kExeName`. -/
def kExeName : List UInt16 := wide "URnetwork.exe"

/-- `UserKey`. -/
structure UserKey where
  «exists» : Bool := false
  description : Option (List UInt16) := none
  urlProtocol : Bool := false
  command : Option (List UInt16) := none
  owner : Option (List UInt16) := none
  delegateExecute : Bool := false
deriving DecidableEq, Repr

/-- `Decision`. -/
inductive Decision
  | absent
  | current
  | create
  | repoint
  | adopt
  | refuseForeign
  | refuseUnsafePath
deriving DecidableEq, Repr

/-- `Write`. -/
structure Write where
  subkey : List UInt16
  name : List UInt16
  value : List UInt16
deriving DecidableEq, Repr

/-- `Plan`. -/
structure Plan where
  decision : Decision := .absent
  writes : List Write := []
deriving DecidableEq, Repr

/-- `Policy`. -/
structure Policy where
  adoptOtherUrnetworkExe : Bool := false
deriving DecidableEq, Repr

/-! ### The paths and the command -/

/-- `OpenCommand`. -/
def openCommand (exe : List UInt16) : List UInt16 := wide "\"" ++ exe ++ wide "\" \"%1\""

/-- `OwnerTag`. -/
def ownerTag (exe version : List UInt16) : List UInt16 := exe ++ wide "|" ++ version

/-- The file name at the end of a path, from the last backslash on. -/
def fileName (exe : List UInt16) : List UInt16 := (exe.reverse.takeWhile (· != 92)).reverse

/-- A unit that may end a quoted argument, add one or stand for something else. -/
def unsafeUnit (c : UInt16) : Bool := decide (c < 0x20) || (wide "\"%<>|*?").contains c

/-- `SafeExePath`. -/
def safeExePath (exe : List UInt16) : Bool :=
  if exe.length < 8 ∨ exe.length > 32000 then false
  else
    match exe with
    | drive :: colon :: slash :: rest =>
      if !((decide (65 ≤ drive) && decide (drive ≤ 90)) ||
          (decide (97 ≤ drive) && decide (drive ≤ 122))) || colon != 58 || slash != 92 then false
      else if exe.any unsafeUnit then false
      else if rest.contains 58 then false
      else if wide "\\..\\" <:+: exe ∨ wide "\\.\\" <:+: exe then false
      else if !equalsIgnoreCase (exe.drop (exe.length - 4)) (wide ".exe") then false
      else decide (4 < (fileName exe).length)
    | _ => false

/-- `ExeOfCommand`. -/
def exeOfCommand (command : List UInt16) : Option (List UInt16) :=
  let kTail := wide "\" \"%1\""
  if command.length ≤ kTail.length + 1 ∨ command.head? ≠ some 34 then none
  else if command.drop (command.length - kTail.length) ≠ kTail then none
  else
    let exe := (command.drop 1).take (command.length - 1 - kTail.length)
    if exe.contains 34 then none else some exe

/-- `NamesUrnetworkExe`. -/
def namesUrnetworkExe (command : List UInt16) : Bool :=
  match exeOfCommand command with
  | none => false
  | some exe => safeExePath exe && equalsIgnoreCase (fileName exe) kExeName

/-! ### The plans -/

/-- `AllWrites`. -/
def allWrites (exe version : List UInt16) : List Write :=
  [⟨[], kOwnerValue, ownerTag exe version⟩, ⟨[], [], kDescription⟩, ⟨[], kUrlProtocolValue, []⟩,
    ⟨kCommandSubkey, [], openCommand exe⟩]

/-- `PlanEnsure`. -/
def planEnsure (key : UserKey) (exe version : List UInt16) (policy : Policy := {}) : Plan :=
  if !safeExePath exe then { decision := .refuseUnsafePath }
  else
    let command := openCommand exe
    if !key.exists then ⟨.create, allWrites exe version⟩
    else if key.delegateExecute then { decision := .refuseForeign }
    else
      match key.owner with
      | some owner =>
        if key.command.any (equalsIgnoreCase · command) ∧ key.description = some kDescription ∧
            key.urlProtocol ∧ owner = ownerTag exe version then { decision := .current }
        else ⟨.repoint, allWrites exe version⟩
      | none =>
        let hollow := key.command.isNone
        let launchesThisExe := key.command.any (equalsIgnoreCase · command)
        let launchesAnotherUrnetwork :=
          policy.adoptOtherUrnetworkExe && key.command.any namesUrnetworkExe
        if hollow || launchesThisExe || launchesAnotherUrnetwork then
          ⟨.adopt, allWrites exe version⟩
        else { decision := .refuseForeign }

/-- `PlanRefresh`. -/
def planRefresh (key : UserKey) (exe version : List UInt16) : Plan :=
  if !key.exists then {}
  else if key.owner.isNone then { decision := .refuseForeign }
  else planEnsure key exe version

/-- The key as read after one write. -/
def applyWrite (key : UserKey) (w : Write) : UserKey :=
  let key := { key with «exists» := true }
  if w.subkey = [] ∧ w.name = kOwnerValue then { key with owner := some w.value }
  else if w.subkey = [] ∧ w.name = [] then { key with description := some w.value }
  else if w.subkey = [] ∧ w.name = kUrlProtocolValue then { key with urlProtocol := true }
  else if w.subkey = kCommandSubkey ∧ w.name = [] then { key with command := some w.value }
  else key

/-- The key after some writes, in order. -/
def applyWrites (key : UserKey) (writes : List Write) : UserKey := writes.foldl applyWrite key

/-! ### Calls on the user's key -/

/-- A call of `PlanEnsure` or `PlanRefresh` and how many of its writes reach the key. -/
inductive Call
  | ensure (exe version : List UInt16) (policy : Policy) (reached : ℕ)
  | refresh (exe version : List UInt16) (reached : ℕ)
deriving DecidableEq, Repr

/-- The writes of a call that reach the key. -/
def Call.writes (key : UserKey) : Call → List Write
  | .ensure exe version policy reached => (planEnsure key exe version policy).writes.take reached
  | .refresh exe version reached => (planRefresh key exe version).writes.take reached

/-- The key after some calls. -/
def afterCalls (key : UserKey) (calls : List Call) : UserKey :=
  calls.foldl (fun key call => applyWrites key (call.writes key)) key

/-- The key starts something else, or starts it through a delegate. -/
def IsForeign (key : UserKey) (exe : List UInt16) (policy : Policy) : Prop :=
  key.exists = true ∧ (key.delegateExecute = true ∨ key.owner = none ∧ ∃ command,
    key.command = some command ∧ equalsIgnoreCase command (openCommand exe) = false ∧
      (policy.adoptOtherUrnetworkExe && namesUrnetworkExe command) = false)

/-- The key is someone else's to this call. -/
def Call.Foreign (key : UserKey) : Call → Prop
  | .ensure exe _ policy _ => IsForeign key exe policy
  | .refresh _ _ _ => key.exists = true ∧ (key.delegateExecute = true ∨ key.owner = none)

/-- What the changes to the key keep. -/
structure KeyKept (key : UserKey) (exe version : List UInt16) (policy : Policy) : Prop where
  /-- Power cuts leave a key that the next call brings up to date. -/
  recovers : safeExePath exe = true → (key.exists = false → key.delegateExecute = false) →
    (planEnsure key exe version policy).decision ≠ .refuseForeign → ∀ cuts : List ℕ,
      let cut := afterCalls key (cuts.map (.ensure exe version policy))
      let key' := applyWrites cut (planEnsure cut exe version policy).writes
      planEnsure key' exe version policy = { decision := .current } ∧
        ∃ command, key'.command = some command ∧
          equalsIgnoreCase command (openCommand exe) = true
  /-- A refresh makes no key and takes none. -/
  refreshes : key.exists = false ∨ key.owner = none → (planRefresh key exe version).writes = []
  /-- No call touches a key that is someone else's. -/
  foreign : ∀ calls : List Call, (∀ call ∈ calls, call.Foreign key) → afterCalls key calls = key ∧
    ∀ before call after, calls = before ++ call :: after →
      call.writes (afterCalls key before) = []

/-! ### The writes -/

section Writes

variable (key : UserKey) (value exe version : List UInt16)

lemma applyWrite_owner : applyWrite key ⟨[], kOwnerValue, value⟩ =
    { key with «exists» := true, owner := some value } := by
  simp [applyWrite]

lemma applyWrite_description : applyWrite key ⟨[], [], value⟩ =
    { key with «exists» := true, description := some value } := by
  have howner : [] ≠ kOwnerValue := by decide
  simp [applyWrite, howner]

lemma applyWrite_urlProtocol : applyWrite key ⟨[], kUrlProtocolValue, value⟩ =
    { key with «exists» := true, urlProtocol := true } := by
  have howner : kUrlProtocolValue ≠ kOwnerValue := by decide
  have hdefault : kUrlProtocolValue ≠ [] := by decide
  simp [applyWrite, howner, hdefault]

lemma applyWrite_command : applyWrite key ⟨kCommandSubkey, [], value⟩ =
    { key with «exists» := true, command := some value } := by
  have hsubkey : kCommandSubkey ≠ [] := by decide
  simp [applyWrite, hsubkey]

lemma applyWrites_allWrites : applyWrites key (allWrites exe version) =
    { key with «exists» := true, owner := some (ownerTag exe version),
               description := some kDescription, urlProtocol := true,
               command := some (openCommand exe) } := by
  simp only [applyWrites, allWrites, List.foldl_cons, List.foldl_nil, applyWrite_owner,
    applyWrite_description, applyWrite_urlProtocol, applyWrite_command]

lemma applyWrites_take (reached : ℕ) :
    applyWrites key ((allWrites exe version).take reached) = key ∨
      ((applyWrites key ((allWrites exe version).take reached)).exists = true ∧
        (applyWrites key ((allWrites exe version).take reached)).owner =
          some (ownerTag exe version) ∧
        (applyWrites key ((allWrites exe version).take reached)).delegateExecute =
          key.delegateExecute) := by
  rcases reached with _ | _ | _ | _ | reached
  · exact .inl rfl
  all_goals
    right
    simp only [applyWrites, allWrites, List.take_succ_cons, List.take_zero, List.take_nil,
      List.foldl_cons, List.foldl_nil, applyWrite_owner, applyWrite_description,
      applyWrite_urlProtocol, applyWrite_command, and_self]

end Writes

/-! ### The kinds of key -/

section Kinds

variable {key : UserKey} {exe : List UInt16} (version : List UInt16) (policy : Policy)

lemma planEnsure_absent (hsafe : safeExePath exe = true) (hexists : key.exists = false) :
    planEnsure key exe version policy = ⟨.create, allWrites exe version⟩ := by
  unfold planEnsure
  simp only [hsafe, hexists, Bool.not_true, Bool.not_false, Bool.false_eq_true, if_true, if_false]

lemma planEnsure_delegate (hsafe : safeExePath exe = true) (hexists : key.exists = true)
    (hdelegate : key.delegateExecute = true) :
    planEnsure key exe version policy = { decision := .refuseForeign } := by
  unfold planEnsure
  simp only [hsafe, hexists, hdelegate, Bool.not_true, Bool.false_eq_true, if_true, if_false]

lemma planEnsure_marked {owner : List UInt16} (hsafe : safeExePath exe = true)
    (hexists : key.exists = true) (hdirect : key.delegateExecute = false)
    (howner : key.owner = some owner) :
    planEnsure key exe version policy =
      if key.command.any (equalsIgnoreCase · (openCommand exe)) ∧
          key.description = some kDescription ∧ key.urlProtocol ∧ owner = ownerTag exe version then
        { decision := .current }
      else ⟨.repoint, allWrites exe version⟩ := by
  unfold planEnsure
  simp only [hsafe, hexists, hdirect, howner, Bool.not_true, Bool.false_eq_true, if_false]

lemma planEnsure_unmarked (hsafe : safeExePath exe = true) (hexists : key.exists = true)
    (hdirect : key.delegateExecute = false) (howner : key.owner = none) :
    planEnsure key exe version policy =
      if key.command.isNone || key.command.any (equalsIgnoreCase · (openCommand exe)) ||
          policy.adoptOtherUrnetworkExe && key.command.any namesUrnetworkExe then
        ⟨.adopt, allWrites exe version⟩
      else { decision := .refuseForeign } := by
  unfold planEnsure
  simp only [hsafe, hexists, hdirect, howner, Bool.not_true, Bool.false_eq_true, if_false]

end Kinds

/-! ### Keys that are ours to take -/

/-- The key may be written: no delegate runs its command, and it is not someone else's. -/
structure Takes (key : UserKey) (exe version : List UInt16) (policy : Policy) : Prop where
  direct : key.delegateExecute = false
  notForeign : (planEnsure key exe version policy).decision ≠ .refuseForeign

namespace Takes

variable {key : UserKey} {exe version : List UInt16} {policy : Policy}

lemma of_owner {owner : List UInt16} (hsafe : safeExePath exe = true) (hexists : key.exists = true)
    (hdirect : key.delegateExecute = false) (howner : key.owner = some owner) :
    Takes key exe version policy := by
  refine ⟨hdirect, ?_⟩
  rw [planEnsure_marked version policy hsafe hexists hdirect howner]
  split
  · exact nofun
  · exact nofun

lemma cases (h : Takes key exe version policy) (hsafe : safeExePath exe = true) :
    (planEnsure key exe version policy = { decision := .current } ∧ ∃ command,
      key.command = some command ∧ equalsIgnoreCase command (openCommand exe) = true) ∨
    (planEnsure key exe version policy).writes = allWrites exe version := by
  obtain ⟨hdirect, hforeign⟩ := h
  cases hexists : key.exists with
  | false =>
    rw [planEnsure_absent version policy hsafe hexists]
    exact .inr rfl
  | true =>
    cases howner : key.owner with
    | some owner =>
      rw [planEnsure_marked version policy hsafe hexists hdirect howner]
      split
      next hcurrent => exact .inl ⟨rfl, (Option.any_eq_true _ _).1 hcurrent.1⟩
      next => exact .inr rfl
    | none =>
      rw [planEnsure_unmarked version policy hsafe hexists hdirect howner] at hforeign ⊢
      split at hforeign
      next htake =>
        rw [if_pos htake]
        exact .inr rfl
      next => exact absurd rfl hforeign

lemma cut (h : Takes key exe version policy) (hsafe : safeExePath exe = true) (reached : ℕ) :
    Takes (applyWrites key ((planEnsure key exe version policy).writes.take reached)) exe version
      policy := by
  rcases h.cases hsafe with ⟨hplan, -⟩ | hwrites
  · rw [hplan, List.take_nil]
    exact h
  · rw [hwrites]
    rcases applyWrites_take key exe version reached with hsame | ⟨hexists, howner, hdirect⟩
    · rw [hsame]
      exact h
    · exact of_owner hsafe hexists (hdirect.trans h.direct) howner

lemma whole (h : Takes key exe version policy) (hsafe : safeExePath exe = true) :
    let key' := applyWrites key (planEnsure key exe version policy).writes
    planEnsure key' exe version policy = { decision := .current } ∧
      ∃ command, key'.command = some command ∧
        equalsIgnoreCase command (openCommand exe) = true := by
  intro key'
  rcases h.cases hsafe with ⟨hplan, hcommand⟩ | hwrites
  · have hsame : key' = key := by
      show applyWrites key _ = key
      rw [hplan]
      rfl
    rw [hsame]
    exact ⟨hplan, hcommand⟩
  · have hkey : key' = applyWrites key (allWrites exe version) := congrArg (applyWrites key) hwrites
    rw [applyWrites_allWrites] at hkey
    have hcommand : key'.command = some (openCommand exe) := congrArg UserKey.command hkey
    refine ⟨?_, openCommand exe, hcommand, equalsIgnoreCase_refl _⟩
    rw [planEnsure_marked version policy hsafe (congrArg UserKey.exists hkey)
      ((congrArg UserKey.delegateExecute hkey).trans h.direct) (congrArg UserKey.owner hkey),
      hcommand]
    exact if_pos ⟨equalsIgnoreCase_refl _, congrArg UserKey.description hkey,
      congrArg UserKey.urlProtocol hkey, rfl⟩

lemma afterCuts (h : Takes key exe version policy) (hsafe : safeExePath exe = true)
    (cuts : List ℕ) :
    Takes (afterCalls key (cuts.map (.ensure exe version policy))) exe version policy := by
  induction cuts generalizing key with
  | nil => exact h
  | cons reached cuts ih => exact ih (h.cut hsafe reached)

end Takes

/-! ### Keys that are someone else's -/

lemma planEnsure_foreign {key : UserKey} {exe : List UInt16} {policy : Policy}
    (h : IsForeign key exe policy) (version : List UInt16) :
    (planEnsure key exe version policy).writes = [] := by
  obtain ⟨hexists, hforeign⟩ := h
  cases hsafe : safeExePath exe with
  | false =>
    unfold planEnsure
    rw [hsafe]
    rfl
  | true =>
    cases hdelegate : key.delegateExecute with
    | true => rw [planEnsure_delegate version policy hsafe hexists hdelegate]
    | false =>
      rcases hforeign with hyes | ⟨howner, command, hcommand, hexe, hother⟩
      · exact absurd (hdelegate.symm.trans hyes) nofun
      · rw [planEnsure_unmarked version policy hsafe hexists hdelegate howner, hcommand]
        simp only [Option.isNone_some, Option.any_some, hexe, hother, Bool.or_self,
          Bool.false_eq_true, if_false]

lemma Call.Foreign.writes {key : UserKey} {call : Call} (h : call.Foreign key) :
    call.writes key = [] := by
  cases call with
  | ensure exe version policy reached =>
    rw [Call.writes, planEnsure_foreign h, List.take_nil]
  | refresh exe version reached =>
    obtain ⟨hexists, hforeign⟩ := h
    have hwrites : (planRefresh key exe version).writes = [] := by
      unfold planRefresh
      rw [hexists]
      simp only [Bool.not_true, Bool.false_eq_true, if_false]
      split_ifs with howner
      · rfl
      · rcases hforeign with hdelegate | hnone
        · exact planEnsure_foreign ⟨hexists, .inl hdelegate⟩ version
        · exact absurd (Option.isNone_iff_eq_none.2 hnone) howner
    rw [Call.writes, hwrites, List.take_nil]

lemma afterCalls_foreign {key : UserKey} {calls : List Call}
    (h : ∀ call ∈ calls, call.Foreign key) : afterCalls key calls = key := by
  induction calls with
  | nil => rfl
  | cons call calls ih =>
    have hfirst : applyWrites key (call.writes key) = key := by
      rw [(h call (List.mem_cons_self ..)).writes]
      rfl
    show afterCalls (applyWrites key (call.writes key)) calls = key
    rw [hfirst]
    exact ih fun call' hcall => h call' (List.mem_cons_of_mem _ hcall)

/-! ### The result -/

/-- **A change to the key survives power cuts and never touches another app's key.** -/
theorem sign_in_key_kept (key : UserKey) (exe version : List UInt16) (policy : Policy) :
    KeyKept key exe version policy where
  recovers := by
    intro hsafe hread hforeign cuts
    have hdirect : key.delegateExecute = false := by
      cases hexists : key.exists with
      | false => exact hread hexists
      | true =>
        by_contra hdelegate
        rw [Bool.not_eq_false] at hdelegate
        rw [planEnsure_delegate version policy hsafe hexists hdelegate] at hforeign
        exact hforeign rfl
    have htakes : Takes key exe version policy := ⟨hdirect, hforeign⟩
    exact (htakes.afterCuts hsafe cuts).whole hsafe
  refreshes := by
    intro h
    unfold planRefresh
    split_ifs with hexists howner
    · rfl
    · rfl
    · rcases h with habsent | hnone
      · exact absurd habsent (by simpa using hexists)
      · exact absurd (Option.isNone_iff_eq_none.2 hnone) howner
  foreign := by
    intro calls h
    refine ⟨afterCalls_foreign h, ?_⟩
    rintro before call after rfl
    rw [afterCalls_foreign fun call' hcall => h call' (List.mem_append_left _ hcall)]
    exact (h call (by simp)).writes

/-- The first registration, cut after two of its writes. -/
theorem sign_in_key_kept_first :
    let exe := wide "C:\\URnetwork.exe"
    let cut := afterCalls {} [.ensure exe (wide "1") {} 2]
    planEnsure (applyWrites cut (planEnsure cut exe (wide "1") {}).writes) exe (wide "1") {} =
      { decision := .current } :=
  ((sign_in_key_kept {} (wide "C:\\URnetwork.exe") (wide "1") {}).recovers (by decide)
    (fun _ => rfl) (by decide) [2]).1

/-- Another program's key: no call makes it one that starts this exe. -/
theorem foreign_key_never_current :
    ∃ (key : UserKey) (exe version : List UInt16) (policy : Policy), safeExePath exe = true ∧
      (planEnsure (applyWrites key (planEnsure key exe version policy).writes) exe version
        policy).decision = .refuseForeign := by
  refine ⟨{ «exists» := true, command := some (wide "\"C:\\other.exe\" \"%1\"") },
    wide "C:\\URnetwork.exe", wide "1", {}, ?_, ?_⟩
  · decide
  · decide

end UrnetworkWindows.SignIn
