/-
The rules of a split tunnel, from the service to the driver
(`SplitTunnelClient.cpp`, `TunnelController.cpp`).

The client packs the paths as a count and then, for each of them, a length and its
characters; `parsePaths_pack` says that the driver's loop reads such a buffer back.
The mode is sent before the paths, and the handler of the paths starts from a
cleared driver.
-/
import UrnetworkWindows.SplitTunnel.Driver

namespace UrnetworkWindows.SplitTunnel

open Lib

/-- An image in the form the kernel reports it: not empty, and within the length of a
`UNICODE_STRING`. -/
structure AppId where
  chars : List UInt16
  ne_nil : chars ≠ []
  length_le : chars.length ≤ 0x7FFF

section Client

variable (normalizeToAppId : String → AppId)

/-- An entry of the packed paths. -/
def packEntry (w : List UInt16) : List UInt8 :=
  let lenChars := w.length % 65536
  toBytes 2 lenChars ++ (ofWide w).take (2 * lenChars)

/-- The buffer of `SetExcludedPaths`. -/
def packExcludedPaths (paths : List String) : List UInt8 :=
  toBytes 4 paths.length ++ paths.flatMap fun utf8 => packEntry (normalizeToAppId utf8).chars

/-- `SplitTunnelClient::Ioctl`: the size of the input is kept in thirty-two bits. -/
def ioctl (code : Ioctl) (input : List UInt8) (d : Driver) : Bool × Driver :=
  urstDeviceControl code (input.take (input.length % 2 ^ 32)) d

/-- `SplitTunnelClient::SetEnabled`. -/
def setEnabled (enabled : Bool) : Driver → Bool × Driver :=
  ioctl .setEnabled (toBytes 4 (if enabled then 1 else 0))

/-- `SplitTunnelClient::SetMode`. -/
def setMode (allowlist : Bool) : Driver → Bool × Driver :=
  ioctl .setMode (toBytes 4 (if allowlist then 1 else 0))

/-- `SplitTunnelClient::SetPhysicalAddresses`. -/
def setPhysicalAddresses (a : PhysicalAddrs) : Driver → Bool × Driver :=
  ioctl .setPhysicalAddrs
    (toBytes 4 a.index4 ++ toBytes 4 a.index6 ++ toBytes 4 a.address4 ++ toBytes 16 a.address6)

/-- `SplitTunnelClient::SetExcludedPaths`. -/
def setExcludedPaths (paths : List String) : Driver → Bool × Driver :=
  ioctl .setExcludedPaths (packExcludedPaths normalizeToAppId paths)

/-- `PushExcludedToDriver`, for an open driver and with the source addresses of the
physical interface, and whether every ioctl succeeded. -/
def pushExcludedToDriver (physical : PhysicalAddrs) (paths : List String) (allowlist : Bool)
    (d : Driver) : Bool × Driver :=
  let r₁ := setPhysicalAddresses physical d
  let r₂ := setMode allowlist r₁.2
  let r₃ := setExcludedPaths normalizeToAppId paths r₂.2
  let r₄ := setEnabled (!paths.isEmpty) r₃.2
  (r₁.1 && r₂.1 && r₃.1 && r₄.1, r₄.2)

end Client

/-! ### The packed paths -/

/-- The bytes an entry takes. -/
def entrySize (w : List UInt16) : ℕ := 2 + 2 * w.length

lemma length_packEntry {w : List UInt16} (h : w.length ≤ 0x7FFF) :
    (packEntry w).length = entrySize w := by
  have hmod : w.length % 65536 = w.length := Nat.mod_eq_of_lt (by omega)
  simp [packEntry, entrySize, hmod]

lemma parsePaths_packEntry {w : List UInt16} (h : w.length ≤ 0x7FFF) (count : ℕ)
    (rest : List UInt8) :
    parsePaths (count + 1) (packEntry w ++ rest) = w :: parsePaths count rest := by
  have hmod : w.length % 65536 = w.length := Nat.mod_eq_of_lt (by omega)
  have hpack : packEntry w = toBytes 2 w.length ++ ofWide w := by
    simp [packEntry, hmod, List.take_of_length_le]
  have hlen : ofBytes (toBytes 2 w.length) = w.length := ofBytes_toBytes_of_lt (by omega)
  have htake : (toBytes 2 w.length ++ (ofWide w ++ rest)).take 2 = toBytes 2 w.length :=
    List.take_left' (length_toBytes 2 _)
  have hdrop : (toBytes 2 w.length ++ (ofWide w ++ rest)).drop 2 = ofWide w ++ rest :=
    List.drop_left' (length_toBytes 2 _)
  have hbytes : 2 * w.length % 65536 = 2 * w.length := Nat.mod_eq_of_lt (by omega)
  have hlong : ¬ (toBytes 2 w.length ++ (ofWide w ++ rest)).length < 2 := by
    rw [List.length_append, length_toBytes]
    omega
  have hwhole : ¬ (ofWide w ++ rest).length < 2 * w.length := by
    rw [List.length_append, length_ofWide]
    omega
  rw [hpack, List.append_assoc, parsePaths, if_neg hlong, htake, hlen, hdrop, if_neg hwhole, hbytes,
    List.take_take, min_self, List.take_left' (length_ofWide w),
    List.drop_left' (length_ofWide w), toWide_ofWide]

lemma parsePaths_pack (ws : List (List UInt16)) (h : ∀ w ∈ ws, w.length ≤ 0x7FFF) :
    parsePaths ws.length (ws.flatMap packEntry) = ws := by
  induction ws with
  | nil => rfl
  | cons w ws ih =>
    rw [List.flatMap_cons, List.length_cons, parsePaths_packEntry (h w List.mem_cons_self),
      ih fun w' hw' => h w' (List.mem_cons_of_mem _ hw')]

lemma entrySize_parsePaths_le (count : ℕ) (p : List UInt8) :
    ((parsePaths count p).map entrySize).sum ≤ p.length := by
  induction count generalizing p with
  | zero => simp [parsePaths]
  | succ count ih =>
    rw [parsePaths]
    split
    · simp
    next hlen =>
    dsimp only
    split
    · simp
    next hbytes =>
    have hrest := ih ((p.drop 2).drop (2 * ofBytes (p.take 2)))
    have hword := length_toWide_le (((p.drop 2).take (2 * ofBytes (p.take 2))).take
      (2 * ofBytes (p.take 2) % 65536))
    simp only [List.length_drop, List.length_take] at hrest hword hbytes
    rw [List.map_cons, List.sum_cons, entrySize]
    omega

/-- The buffer of a list of app ids. -/
def packAppIds (ws : List AppId) : List UInt8 :=
  toBytes 4 ws.length ++ ws.flatMap fun w => packEntry w.chars

/-- What the driver gets of it. -/
def sentAppIds (ws : List AppId) : List UInt8 :=
  (packAppIds ws).take ((packAppIds ws).length % 2 ^ 32)

lemma length_packAppIds (ws : List AppId) :
    (packAppIds ws).length = 4 + (ws.map fun w => entrySize w.chars).sum := by
  rw [packAppIds, List.length_append, length_toBytes, List.length_flatMap]
  refine congrArg (4 + ·) (congrArg List.sum (List.map_congr_left fun w _ => ?_))
  exact length_packEntry w.length_le

lemma length_le_packAppIds (ws : List AppId) : ws.length ≤ (packAppIds ws).length := by
  have hsum : ws.length ≤ (ws.map fun w => entrySize w.chars).sum := by
    induction ws with
    | nil => simp
    | cons w ws ih =>
      simp only [List.map_cons, List.sum_cons, List.length_cons, entrySize] at ih ⊢
      omega
  rw [length_packAppIds]
  omega

lemma parsePaths_sentAppIds {ws : List AppId} (h : (packAppIds ws).length < 2 ^ 32) :
    parsePaths (ofBytes ((sentAppIds ws).take 4)) ((sentAppIds ws).drop 4) =
      ws.map AppId.chars := by
  have hwhole : sentAppIds ws = packAppIds ws := by
    rw [sentAppIds, Nat.mod_eq_of_lt h, List.take_length]
  have hcount : ws.length < 256 ^ 4 := (length_le_packAppIds ws).trans_lt h
  have hflat : (ws.flatMap fun w => packEntry w.chars) =
      (ws.map AppId.chars).flatMap packEntry := by
    rw [List.flatMap_map]
  rw [hwhole, packAppIds, List.take_left' (length_toBytes 4 _),
    List.drop_left' (length_toBytes 4 _), ofBytes_toBytes_of_lt hcount, hflat]
  have hparse := parsePaths_pack (ws.map AppId.chars) fun w hw => by
    obtain ⟨a, -, rfl⟩ := List.mem_map.1 hw
    exact a.length_le
  rwa [List.length_map] at hparse

lemma length_lt_of_parsePaths_sentAppIds {ws : List AppId}
    (h : parsePaths (ofBytes ((sentAppIds ws).take 4)) ((sentAppIds ws).drop 4) =
      ws.map AppId.chars)
    (hlen : 4 ≤ (sentAppIds ws).length) : (packAppIds ws).length < 2 ^ 32 := by
  have hsize := entrySize_parsePaths_le (ofBytes ((sentAppIds ws).take 4)) ((sentAppIds ws).drop 4)
  rw [h, List.length_drop, List.map_map] at hsize
  have hsum : (ws.map (entrySize ∘ AppId.chars)).sum = (ws.map fun w => entrySize w.chars).sum :=
    rfl
  have hpack := length_packAppIds ws
  have hle : (sentAppIds ws).length ≤ (packAppIds ws).length % 2 ^ 32 := by
    rw [sentAppIds, List.length_take]
    exact min_le_left _ _
  have hmod : (packAppIds ws).length % 2 ^ 32 < 2 ^ 32 := Nat.mod_lt _ (by norm_num)
  omega

section Push

variable {normalizeToAppId : String → AppId} {physical : PhysicalAddrs} {paths : List String}
  {allowlist : Bool} {d : Driver}

lemma packExcludedPaths_eq (normalizeToAppId : String → AppId) (paths : List String) :
    packExcludedPaths normalizeToAppId paths = packAppIds (paths.map normalizeToAppId) := by
  rw [packExcludedPaths, packAppIds, List.length_map, List.flatMap_map]

lemma ioctl_toBytes (code : Ioctl) (n : ℕ) :
    ioctl code (toBytes 4 n) d = urstDeviceControl code (toBytes 4 n) d := by
  rw [ioctl, length_toBytes]
  rfl

lemma setMode_eq : setMode allowlist d = (true, { d with allowlist := allowlist }) := by
  rw [setMode, ioctl_toBytes]
  cases allowlist <;> rfl

lemma setEnabled_eq {enabled : Bool} :
    setEnabled enabled d = (true, { d with enabled := enabled }) := by
  rw [setEnabled, ioctl_toBytes]
  cases enabled <;> rfl

lemma setPhysicalAddresses_eq (physical : PhysicalAddrs) (d : Driver) :
    ∃ a, setPhysicalAddresses physical d = (true, { d with physical := a }) := by
  refine ⟨readPhysicalAddrs (toBytes 4 physical.index4 ++ toBytes 4 physical.index6 ++
    toBytes 4 physical.address4 ++ toBytes 16 physical.address6), ?_⟩
  simp [setPhysicalAddresses, ioctl, urstDeviceControl, List.take_of_length_le]

/-- What the driver gets of the packed paths. -/
def received (normalizeToAppId : String → AppId) (paths : List String) : List UInt8 :=
  (packExcludedPaths normalizeToAppId paths).take
    ((packExcludedPaths normalizeToAppId paths).length % 2 ^ 32)

lemma received_eq (normalizeToAppId : String → AppId) (paths : List String) :
    received normalizeToAppId paths = sentAppIds (paths.map normalizeToAppId) := by
  rw [received, sentAppIds, packExcludedPaths_eq]

lemma four_le_length_received
    (hok : (pushExcludedToDriver normalizeToAppId physical paths allowlist d).1 = true) :
    4 ≤ (received normalizeToAppId paths).length := by
  obtain ⟨a, ha⟩ := setPhysicalAddresses_eq physical d
  simp only [pushExcludedToDriver, ha, setMode_eq, setEnabled_eq, Bool.true_and, Bool.and_true,
    setExcludedPaths, ioctl, urstDeviceControl, urstSetExcludedPaths] at hok
  rw [← received] at hok
  by_contra hlt
  rw [if_pos (Nat.lt_of_not_le hlt)] at hok
  exact absurd hok (by simp)

/-- The driver after a push: the paths it read, in denylist mode, enabled when there
is a rule. -/
lemma pushExcludedToDriver_eq
    (hok : (pushExcludedToDriver normalizeToAppId physical paths allowlist d).1 = true) :
    ∃ a, (pushExcludedToDriver normalizeToAppId physical paths allowlist d).2 =
      { d with
        enabled := !paths.isEmpty
        allowlist := false
        physical := a
        paths := parsePaths (ofBytes ((received normalizeToAppId paths).take 4))
          ((received normalizeToAppId paths).drop 4)
        trackedPids := [] } := by
  have hlen : ¬ (received normalizeToAppId paths).length < 4 :=
    Nat.not_lt.2 (four_le_length_received hok)
  obtain ⟨a, ha⟩ := setPhysicalAddresses_eq physical d
  refine ⟨a, ?_⟩
  simp only [pushExcludedToDriver, ha, setMode_eq, setEnabled_eq, setExcludedPaths, ioctl,
    urstDeviceControl, urstSetExcludedPaths]
  rw [← received, if_neg hlen]
  rfl

/-- The process has its image in the list, or is a tracked descendant. -/
def Covered (normalizeToAppId : String → AppId) (upcase : UInt16 → UInt16) (paths : List String)
    (tracked : List ℕ) (pid : ℕ) (image : Option AppId) : Prop :=
  (∃ i ∈ image, ∃ utf8 ∈ paths,
    equalUnicodeString upcase i.chars (normalizeToAppId utf8).chars = true) ∨ pid ∈ tracked

/-- The driver enforces the rules: it holds the paths in their order and the mode, it
is enabled when there is a rule, and it redirects the binds of every process but the
service as the mode says. -/
structure Enforces (normalizeToAppId : String → AppId) (upcase : UInt16 → UInt16)
    (paths : List String) (allowlist : Bool) (d : Driver) : Prop where
  list : d.paths = paths.map fun utf8 => (normalizeToAppId utf8).chars
  mode : d.allowlist = allowlist
  enabled : d.enabled = true ↔ paths ≠ []
  redirects : ∀ tracked pid (image : Option AppId), (d.servicePid ≠ 0 → pid ≠ d.servicePid) →
    (urstClassify upcase { d with trackedPids := tracked }
        { processId := some pid, appId := image.map AppId.chars } = true ↔
      paths ≠ [] ∧
        (Covered normalizeToAppId upcase paths tracked pid image ↔ allowlist = false))

lemma matches_iff (upcase : UInt16 → UInt16) (pid : ℕ) (image : Option AppId)
    (h : d.paths = paths.map fun utf8 => (normalizeToAppId utf8).chars) :
    (((((image.map AppId.chars).getD []).take 0x7FFF) ≠ [] &&
        urstImageInSet upcase d (((image.map AppId.chars).getD []).take 0x7FFF)) ||
      urstIsPidTracked d pid) = true ↔
    Covered normalizeToAppId upcase paths d.trackedPids pid image := by
  cases image with
  | none => simp [Covered, urstIsPidTracked]
  | some i =>
    have htake : i.chars.take 0x7FFF = i.chars := List.take_of_length_le i.length_le
    simp [Covered, urstIsPidTracked, urstImageInSet, h, htake, i.ne_nil]

lemma Enforces.of_fields {upcase : UInt16 → UInt16}
    (hpaths : d.paths = paths.map fun utf8 => (normalizeToAppId utf8).chars)
    (hmode : d.allowlist = allowlist) (henabled : d.enabled = true ↔ paths ≠ []) :
    Enforces normalizeToAppId upcase paths allowlist d := by
  refine ⟨hpaths, hmode, henabled, fun tracked pid image hservice => ?_⟩
  have hno : decide (d.servicePid ≠ 0 ∧ pid = d.servicePid) = false := by
    rw [decide_eq_false_iff_not]
    rintro ⟨hne, heq⟩
    exact hservice hne heq
  have hmatch := matches_iff (d := { d with trackedPids := tracked }) upcase pid image hpaths
  simp only [urstClassify, hno, Bool.not_true, Bool.not_false, Bool.and_true, Bool.false_eq_true,
    if_false, hmode, Bool.and_eq_true, henabled]
  subst hmode
  refine and_congr_right fun _ => ?_
  rw [← hmatch]
  cases d.allowlist
  · simp only [Bool.false_eq_true, if_false, iff_true]
  · simp only [if_true, Bool.not_eq_true', Bool.true_eq_false, iff_false, Bool.not_eq_true]

lemma size_packAppIds (normalizeToAppId : String → AppId) (paths : List String) :
    (packAppIds (paths.map normalizeToAppId)).length =
      4 + (paths.map fun utf8 => entrySize (normalizeToAppId utf8).chars).sum := by
  rw [length_packAppIds, List.map_map]
  rfl

/-- Whatever the mode, the driver ends with the paths as a denylist. -/
lemma enforces_pushed {upcase : UInt16 → UInt16}
    (hok : (pushExcludedToDriver normalizeToAppId physical paths allowlist d).1 = true)
    (hsize : 4 + (paths.map fun utf8 => entrySize (normalizeToAppId utf8).chars).sum < 2 ^ 32) :
    Enforces normalizeToAppId upcase paths false
      (pushExcludedToDriver normalizeToAppId physical paths allowlist d).2 := by
  obtain ⟨a, ha⟩ := pushExcludedToDriver_eq hok
  rw [received_eq] at ha
  rw [← size_packAppIds] at hsize
  have hparsed := (parsePaths_sentAppIds hsize).trans List.map_map
  rw [ha]
  refine Enforces.of_fields hparsed rfl ?_
  cases paths <;> simp

/-- After a push whose ioctls all succeed the driver enforces the rules exactly when
the mode is the denylist and the paths take less than 4 GiB.  The handler of the paths
resets the mode that was sent just before. -/
theorem pushExcludedToDriver_enforces_iff (normalizeToAppId : String → AppId)
    (upcase : UInt16 → UInt16) (physical : PhysicalAddrs) (paths : List String) (allowlist : Bool)
    (d : Driver)
    (hok : (pushExcludedToDriver normalizeToAppId physical paths allowlist d).1 = true) :
    Enforces normalizeToAppId upcase paths allowlist
        (pushExcludedToDriver normalizeToAppId physical paths allowlist d).2 ↔
      allowlist = false ∧
        4 + (paths.map fun utf8 => entrySize (normalizeToAppId utf8).chars).sum < 2 ^ 32 := by
  have hchars : (paths.map normalizeToAppId).map AppId.chars =
      paths.map fun utf8 => (normalizeToAppId utf8).chars := List.map_map
  constructor
  · intro h
    have hfour := four_le_length_received hok
    obtain ⟨a, ha⟩ := pushExcludedToDriver_eq hok
    rw [received_eq] at hfour ha
    rw [ha] at h
    rw [← size_packAppIds]
    exact ⟨h.mode.symm, length_lt_of_parsePaths_sentAppIds (h.list.trans hchars.symm) hfour⟩
  · rintro ⟨rfl, hlen⟩
    exact enforces_pushed hok hlen

/-- The image of `C:\Windows\notepad.exe`. -/
def notepad : AppId where
  chars := "\\device\\harddiskvolume3\\windows\\notepad.exe".toList.map fun c => .ofNat c.toNat
  ne_nil := by decide
  length_le := by decide

/-- `RtlUpcaseUnicodeChar` on ASCII. -/
def upcaseAscii (c : UInt16) : UInt16 := if 97 ≤ c ∧ c ≤ 122 then c - 32 else c

/-- One path in the denylist, pushed over a driver that was in allowlist mode. -/
theorem pushExcludedToDriver_enforces_notepad :
    Enforces (fun _ => notepad) upcaseAscii ["C:\\Windows\\notepad.exe"] false
      (pushExcludedToDriver (fun _ => notepad) ⟨7, 0, 0x0A01A8C0, 0⟩
        ["C:\\Windows\\notepad.exe"] false { allowlist := true, servicePid := 1204 }).2 :=
  (pushExcludedToDriver_enforces_iff (fun _ => notepad) upcaseAscii _ _ false _
    (by decide +kernel)).2 (by decide +kernel)

/-- The same path in allowlist mode: every ioctl succeeds, and the driver ends in
denylist mode. -/
theorem pushExcludedToDriver_allowlist_lost :
    (pushExcludedToDriver (fun _ => notepad) ⟨7, 0, 0x0A01A8C0, 0⟩
        ["C:\\Windows\\notepad.exe"] true { servicePid := 1204 }).1 = true ∧
      ¬ Enforces (fun _ => notepad) upcaseAscii ["C:\\Windows\\notepad.exe"] true
        (pushExcludedToDriver (fun _ => notepad) ⟨7, 0, 0x0A01A8C0, 0⟩
          ["C:\\Windows\\notepad.exe"] true { servicePid := 1204 }).2 := by
  refine ⟨by decide +kernel, fun h => ?_⟩
  exact absurd h.mode (by decide +kernel)

end Push

end UrnetworkWindows.SplitTunnel
