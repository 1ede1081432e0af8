/-
The split-tunnel driver (`Driver.c`, `Ioctl.h`).

The state is what the spin lock guards.  An ioctl carries its input as bytes, in the
packed little-endian layout both sides share, and every handler here is the whole of
what the driver does under the lock for it.  Allocations succeed.  Process ids are
numbers, with `0` for the null handle.

Left out: the WFP registration and the rewriting of a bind once it is to be redirected.
The tracked ids are any list here; how they come about is in `SplitTunnel.Tracking`.
-/
import UrnetworkWindows.Lib.LittleEndian

namespace UrnetworkWindows.SplitTunnel

open Lib

/-- `URST_PHYSICAL_ADDRS`. -/
structure PhysicalAddrs where
  index4 : ℕ := 0
  index6 : ℕ := 0
  address4 : ℕ := 0
  address6 : ℕ := 0
deriving DecidableEq, Repr

/-- What the lock of `URST_STATE` guards. -/
structure Driver where
  enabled : Bool := false
  allowlist : Bool := false
  servicePid : ℕ := 0
  physical : PhysicalAddrs := {}
  paths : List (List UInt16) := []
  trackedPids : List ℕ := []
deriving DecidableEq, Repr

/-- The control codes. -/
inductive Ioctl
  | setEnabled
  | setPhysicalAddrs
  | setExcludedPaths
  | clear
  | setMode
deriving DecidableEq, Repr

/-- `UrstClearExcluded`. -/
def urstClearExcluded (d : Driver) : Driver :=
  { d with paths := [], trackedPids := [], enabled := false, allowlist := false }

/-- The loop of `UrstSetExcludedPaths`: as many entries as it is asked for and the
buffer holds.  A length of bytes is kept in sixteen bits. -/
def parsePaths : ℕ → List UInt8 → List (List UInt16)
  | 0, _ => []
  | count + 1, p =>
    if p.length < 2 then []
    else
      let bytes := 2 * ofBytes (p.take 2)
      let p := p.drop 2
      if p.length < bytes then []
      else toWide ((p.take bytes).take (bytes % 65536)) :: parsePaths count (p.drop bytes)

/-- `UrstSetExcludedPaths`, with its status. -/
def urstSetExcludedPaths (buf : List UInt8) (d : Driver) : Bool × Driver :=
  if buf.length < 4 then (false, d)
  else (true, { urstClearExcluded d with
    paths := parsePaths (ofBytes (buf.take 4)) (buf.drop 4) })

/-- The fields of a `URST_PHYSICAL_ADDRS`. -/
def readPhysicalAddrs (buf : List UInt8) : PhysicalAddrs where
  index4 := ofBytes (buf.take 4)
  index6 := ofBytes ((buf.drop 4).take 4)
  address4 := ofBytes ((buf.drop 8).take 4)
  address6 := ofBytes ((buf.drop 12).take 16)

/-- `UrstDeviceControl`, with its status. -/
def urstDeviceControl (code : Ioctl) (buf : List UInt8) (d : Driver) : Bool × Driver :=
  match code with
  | .setEnabled =>
    if 4 ≤ buf.length then (true, { d with enabled := ofBytes (buf.take 4) ≠ 0 }) else (false, d)
  | .setPhysicalAddrs =>
    if 28 ≤ buf.length then (true, { d with physical := readPhysicalAddrs buf }) else (false, d)
  | .setExcludedPaths => urstSetExcludedPaths buf d
  | .setMode =>
    if 4 ≤ buf.length then (true, { d with allowlist := ofBytes (buf.take 4) ≠ 0 }) else (false, d)
  | .clear => (true, urstClearExcluded d)

section Classify

variable (upcase : UInt16 → UInt16)

/-- `RtlEqualUnicodeString`, ignoring case. -/
def equalUnicodeString (s t : List UInt16) : Bool := s.map upcase = t.map upcase

/-- `UrstImageInSet`. -/
def urstImageInSet (d : Driver) (image : List UInt16) : Bool :=
  d.paths.any (equalUnicodeString upcase image)

/-- `UrstIsPidTracked`. -/
def urstIsPidTracked (d : Driver) (pid : ℕ) : Bool := d.trackedPids.contains pid

/-- What `UrstClassify` is asked about: whether it may decide, the process, and its
image without the null terminator. -/
structure Bind where
  actionWrite : Bool := true
  processId : Option ℕ
  appId : Option (List UInt16) := none

/-- `UrstClassify`, up to its decision: whether the bind is redirected. -/
def urstClassify (d : Driver) (b : Bind) : Bool :=
  if !b.actionWrite then false
  else match b.processId with
    | none => false
    | some pid =>
      let appId := (b.appId.getD []).take 0x7FFF
      let matches' := (appId ≠ [] && urstImageInSet upcase d appId) || urstIsPidTracked d pid
      let isService : Bool := d.servicePid ≠ 0 ∧ pid = d.servicePid
      d.enabled && !isService && (if d.allowlist then !matches' else matches')

end Classify

end UrnetworkWindows.SplitTunnel
