/-
The age of a probe against a network change (`CaptureReadiness.h`).

The SDK tells the age of a proof in whole seconds, truncated, so a sample knows of the
instant of the proof only a second that it lies in.  A proof counts after a network change
when the whole of that second does: `proof_after_network_change` says that nothing older
than the change gets through, and that every proof a second younger than it does.
-/
import UrnetworkWindows.Capture.Readiness

namespace UrnetworkWindows.Capture

/-- The settings the fold of a sample reads beside those of the object. -/
structure CaptureProbeSettings extends CaptureReadinessSettings where
  probeAgeResolutionMillis : ℤ := 1000
deriving DecidableEq, Repr

/-- `CaptureExit`. -/
structure CaptureExit where
  proven : Bool := false
  done : Bool := false
  quarantined : Bool := false
  warning : Bool := false
  probeAgeSeconds : ℤ := -1
deriving DecidableEq, Repr

section Fold

variable (settings : CaptureProbeSettings) (sampleMillis changedMillis : ℤ)

/-- The resolution in use: zero or less means that ages are exact. -/
def CaptureProbeSettings.resolution : ℤ :=
  if settings.probeAgeResolutionMillis > 0 then settings.probeAgeResolutionMillis else 0

/-- `CaptureProofAfterNetworkChange`. -/
def captureProofAfterNetworkChange (ageSeconds : ℤ) : Bool :=
  if changedMillis < 0 then true
  else
    let elapsed := sampleMillis - changedMillis
    decide (0 ≤ ageSeconds) && decide (settings.resolution ≤ elapsed) &&
      decide (ageSeconds ≤ (elapsed - settings.resolution).tdiv 1000)

/-- `CaptureExitIsUsable`. -/
def captureExitIsUsable (exit : CaptureExit) : Bool :=
  exit.proven && !exit.done && !exit.quarantined && !exit.warning &&
    decide (0 ≤ exit.probeAgeSeconds) &&
    captureProofAfterNetworkChange settings sampleMillis changedMillis exit.probeAgeSeconds

end Fold

variable {settings : CaptureProbeSettings} {sampleMillis changedMillis ageSeconds : ℤ}

/-- The age the SDK tells at a sample of a proof made then. -/
def probeAge (provenMillis sampleMillis : ℤ) : ℤ := (sampleMillis - provenMillis) / 1000

/-- A proof counts when the earliest instant its age allows is late enough: with the age
told in whole seconds that is an instant of `1000 * ageSeconds` ago, less the resolution. -/
lemma captureProofAfterNetworkChange_iff (hchanged : 0 ≤ changedMillis) :
    captureProofAfterNetworkChange settings sampleMillis changedMillis ageSeconds = true ↔
      0 ≤ ageSeconds ∧
        changedMillis + settings.resolution ≤ sampleMillis - 1000 * ageSeconds := by
  simp only [captureProofAfterNetworkChange, if_neg (not_lt.2 hchanged), Bool.and_eq_true,
    decide_eq_true_eq]
  constructor
  · rintro ⟨⟨hage, helapsed⟩, hle⟩
    rw [Int.tdiv_eq_ediv_of_nonneg (by omega)] at hle
    exact ⟨hage, by omega⟩
  · rintro ⟨hage, hle⟩
    have helapsed : settings.resolution ≤ sampleMillis - changedMillis := by omega
    rw [Int.tdiv_eq_ediv_of_nonneg (by omega)]
    exact ⟨⟨hage, helapsed⟩, by omega⟩

lemma probeAge_spec {provenMillis : ℤ} (h : provenMillis ≤ sampleMillis) :
    0 ≤ probeAge provenMillis sampleMillis ∧
      sampleMillis - 1000 * probeAge provenMillis sampleMillis - 1000 < provenMillis ∧
      provenMillis ≤ sampleMillis - 1000 * probeAge provenMillis sampleMillis := by
  simp only [probeAge]
  omega

lemma proven_after_of_accepted {provenMillis : ℤ} (hchanged : 0 ≤ changedMillis)
    (hres : 1000 ≤ settings.probeAgeResolutionMillis) (hsample : provenMillis ≤ sampleMillis)
    (haccept : captureProofAfterNetworkChange settings sampleMillis changedMillis
      (probeAge provenMillis sampleMillis) = true) :
    changedMillis + (settings.probeAgeResolutionMillis - 1000) < provenMillis := by
  have hresolution : settings.resolution = settings.probeAgeResolutionMillis := if_pos (by omega)
  rw [captureProofAfterNetworkChange_iff hchanged, hresolution] at haccept
  obtain ⟨-, hlow, -⟩ := probeAge_spec hsample
  omega

/-- **No proof from before a network change counts, and a later one comes to.**  With the
age's own resolution everything proven a second after the change counts at every sample. -/
theorem proof_after_network_change (settings : CaptureProbeSettings) (changedMillis : ℤ)
    (hchanged : 0 ≤ changedMillis) :
    (1000 ≤ settings.probeAgeResolutionMillis →
      ∀ provenMillis sampleMillis, provenMillis ≤ sampleMillis →
        captureProofAfterNetworkChange settings sampleMillis changedMillis
          (probeAge provenMillis sampleMillis) = true →
        changedMillis + (settings.probeAgeResolutionMillis - 1000) < provenMillis ∧
          changedMillis < provenMillis) ∧
    (settings.probeAgeResolutionMillis = 1000 →
      ∀ provenMillis, changedMillis + 1000 ≤ provenMillis →
        ∀ sampleMillis, provenMillis ≤ sampleMillis →
          captureProofAfterNetworkChange settings sampleMillis changedMillis
            (probeAge provenMillis sampleMillis) = true) := by
  constructor
  · intro hres provenMillis sampleMillis hsample haccept
    have hafter := proven_after_of_accepted hchanged hres hsample haccept
    exact ⟨hafter, by omega⟩
  · intro hres provenMillis hafter sampleMillis hsample
    have hresolution : settings.resolution = 1000 := (if_pos (by omega)).trans hres
    obtain ⟨hage, -, hhigh⟩ := probeAge_spec hsample
    rw [captureProofAfterNetworkChange_iff hchanged, hresolution]
    exact ⟨hage, by omega⟩

/-- Around a change at 5000: a proof of that millisecond does not count, one of a second
later counts at every sample. -/
theorem proof_after_network_change_boundary :
    captureProofAfterNetworkChange {} 6000 5000 (probeAge 5000 6000) = false ∧
      ∀ sampleMillis, 6000 ≤ sampleMillis →
        captureProofAfterNetworkChange {} sampleMillis 5000 (probeAge 6000 sampleMillis) =
          true := by
  have hboundary := proof_after_network_change {} 5000 (by decide)
  refine ⟨?_, hboundary.2 rfl 6000 (by decide)⟩
  rw [Bool.eq_false_iff]
  intro haccept
  exact absurd (hboundary.1 (by decide) 5000 6000 (by decide) haccept).2 (by decide)

theorem usable_exit_proven_after_change {exit : CaptureExit} {provenMillis : ℤ}
    (hchanged : 0 ≤ changedMillis) (hres : 1000 ≤ settings.probeAgeResolutionMillis)
    (hsample : provenMillis ≤ sampleMillis)
    (hage : exit.probeAgeSeconds = probeAge provenMillis sampleMillis)
    (h : captureExitIsUsable settings sampleMillis changedMillis exit = true) :
    exit.proven = true ∧ changedMillis < provenMillis := by
  simp only [captureExitIsUsable, Bool.and_eq_true, hage] at h
  have hafter := proven_after_of_accepted hchanged hres hsample h.2
  exact ⟨h.1.1.1.1.1, by omega⟩

end UrnetworkWindows.Capture
