/-
Length-prefixed frames.

A frame is a length in a fixed number of symbols and after it so many symbols.  A length
code (`LengthCode`) writes the lengths it has a form for, and no two strings of its width
read as one length, so a string has at most one frame at its front.

The frames of a string are those of its longest prefix that consists of complete frames
(`LengthCode.Longest`): `Longest.maximal` says that no other list of frames at the front
reaches further, and `longest_encode` that the frames of an encoding are what was encoded.
-/
import Mathlib.Data.List.Basic
import Mathlib.Tactic

namespace UrnetworkWindows.Lib

/-- How lengths are written: in `width` symbols, the ones that are `valid`. -/
structure LengthCode (α : Type*) where
  width : ℕ
  valid : ℕ → Prop
  write : ℕ → List α
  read : List α → ℕ
  width_pos : 0 < width
  length_write : ∀ n, (write n).length = width
  read_write : ∀ {n}, valid n → read (write n) = n
  write_read : ∀ {h}, h.length = width → write (read h) = h

namespace LengthCode

variable {α : Type*} (C : LengthCode α)

/-- What can stand in a frame. -/
def Fits (p : List α) : Prop := C.valid p.length

/-- One frame. -/
def frame (p : List α) : List α := C.write p.length ++ p

/-- The frames of a list, one after another. -/
def encode (ps : List (List α)) : List α := ps.flatMap C.frame

/-- No complete frame stands at the front. -/
def Stuck (bs : List α) : Prop := ∀ p, C.Fits p → ¬ C.frame p <+: bs

/-- The frames of the longest prefix of complete frames. -/
structure Longest (bs : List α) (ps : List (List α)) : Prop where
  fits : ∀ p ∈ ps, C.Fits p
  rest : ∃ tail, bs = C.encode ps ++ tail ∧ C.Stuck tail

@[simp] lemma encode_nil : C.encode [] = [] := rfl

@[simp] lemma encode_cons (p : List α) (ps : List (List α)) :
    C.encode (p :: ps) = C.frame p ++ C.encode ps := rfl

@[simp] lemma encode_append (ps qs : List (List α)) :
    C.encode (ps ++ qs) = C.encode ps ++ C.encode qs := by
  simp [encode, List.flatMap_append]

@[simp] lemma length_frame (p : List α) : (C.frame p).length = C.width + p.length := by
  rw [frame, List.length_append, C.length_write]

variable {C}

lemma frame_ne_nil (p : List α) : C.frame p ≠ [] := by
  rw [← List.length_pos_iff, length_frame]
  have := C.width_pos
  omega

/-- A string has one frame at its front at most. -/
lemma frame_append_inj {p q s t : List α} (hp : C.Fits p) (hq : C.Fits q)
    (h : C.frame p ++ s = C.frame q ++ t) : p = q ∧ s = t := by
  rw [frame, frame, List.append_assoc, List.append_assoc] at h
  have hwidth : (C.write p.length).length = (C.write q.length).length := by
    rw [C.length_write, C.length_write]
  obtain ⟨hhead, htail⟩ := List.append_inj h hwidth
  have hlen : p.length = q.length := by
    rw [← C.read_write hp, hhead, C.read_write hq]
  exact List.append_inj htail hlen

lemma stuck_nil : C.Stuck [] := by
  intro p _ hpre
  exact frame_ne_nil p (List.prefix_nil.1 hpre)

/-- A string too short for a length is stuck. -/
lemma stuck_of_length_lt {bs : List α} (h : bs.length < C.width) : C.Stuck bs := by
  intro p _ hpre
  have hle := hpre.length_le
  rw [length_frame] at hle
  omega

/-- The length at the front decides whether a frame stands there. -/
lemma frame_prefix_iff {h body p : List α} (hh : h.length = C.width) (hp : C.Fits p) :
    C.frame p <+: h ++ body ↔ C.read h = p.length ∧ p <+: body := by
  constructor
  · rintro ⟨t, ht⟩
    rw [frame, List.append_assoc] at ht
    have hwidth : (C.write p.length).length = h.length := by rw [C.length_write, hh]
    obtain ⟨hhead, htail⟩ := List.append_inj ht hwidth
    rw [← hhead, C.read_write hp]
    exact ⟨rfl, t, htail⟩
  · rintro ⟨hread, t, rfl⟩
    refine ⟨t, ?_⟩
    rw [frame, ← hread, C.write_read hh, List.append_assoc]

/-- A length that has no frame, or is longer than what follows, begins no frame. -/
lemma stuck_of_read {h body : List α} (hh : h.length = C.width)
    (hread : ¬ C.valid (C.read h) ∨ body.length < C.read h) : C.Stuck (h ++ body) := by
  intro p hp hpre
  obtain ⟨hlen, hbody⟩ := (frame_prefix_iff hh hp).1 hpre
  have hle := hbody.length_le
  rcases hread with hnot | hlong
  · exact hnot (hlen ▸ hp)
  · omega

/-- Any other length begins one. -/
lemma frame_take {h body : List α} (hh : h.length = C.width) (hvalid : C.valid (C.read h))
    (hle : C.read h ≤ body.length) :
    C.Fits (body.take (C.read h)) ∧
      h ++ body = C.frame (body.take (C.read h)) ++ body.drop (C.read h) := by
  have hlen : (body.take (C.read h)).length = C.read h := by
    rw [List.length_take]
    omega
  refine ⟨?_, ?_⟩
  · rw [Fits, hlen]
    exact hvalid
  · rw [frame, hlen, C.write_read hh, List.append_assoc, List.take_append_drop]

namespace Longest

variable {bs p : List α} {ps qs : List (List α)}

lemma nil (h : C.Stuck bs) : C.Longest bs [] where
  fits := by simp
  rest := ⟨bs, rfl, h⟩

lemma cons (hp : C.Fits p) (h : C.Longest bs ps) : C.Longest (C.frame p ++ bs) (p :: ps) where
  fits := by simpa using ⟨hp, h.fits⟩
  rest := by
    obtain ⟨tail, rfl, hstuck⟩ := h.rest
    exact ⟨tail, by simp, hstuck⟩

/-- **No list of frames reaches further.** -/
theorem maximal (h : C.Longest bs ps) (hqs : ∀ q ∈ qs, C.Fits q) (hpre : C.encode qs <+: bs) :
    qs <+: ps := by
  obtain ⟨hps, tail, rfl, hstuck⟩ := h
  induction ps generalizing qs with
  | nil =>
    cases qs with
    | nil => exact List.prefix_rfl
    | cons q qs =>
      refine absurd ?_ (hstuck q (hqs q (by simp)))
      exact (List.prefix_append _ _).trans hpre
  | cons p ps ih =>
    cases qs with
    | nil => exact List.nil_prefix
    | cons q qs =>
      obtain ⟨t, ht⟩ := hpre
      rw [encode_cons, encode_cons, List.append_assoc, List.append_assoc] at ht
      obtain ⟨rfl, hrest⟩ := frame_append_inj (hqs q (by simp)) (hps p (by simp)) ht
      have hqs' : ∀ q ∈ qs, C.Fits q := fun q hq => hqs q (by simp [hq])
      have hps' : ∀ p ∈ ps, C.Fits p := fun p hp => hps p (by simp [hp])
      exact (List.prefix_cons_inj q).2 (ih hqs' hps' ⟨t, hrest⟩)

/-- The frames of a string are determined. -/
theorem unique (h : C.Longest bs ps) (h' : C.Longest bs qs) : ps = qs := by
  have hpre : ∀ {ps : List (List α)}, C.Longest bs ps → C.encode ps <+: bs := by
    rintro ps ⟨-, tail, rfl, -⟩
    exact List.prefix_append _ _
  have hpq := h'.maximal h.fits (hpre h)
  have hqp := h.maximal h'.fits (hpre h')
  exact hpq.eq_of_length (le_antisymm hpq.length_le hqp.length_le)

end Longest

/-- Every string has its frames. -/
theorem exists_longest (C : LengthCode α) (bs : List α) : ∃ ps, C.Longest bs ps := by
  induction hn : bs.length using Nat.strong_induction_on generalizing bs with
  | _ n ih =>
    by_cases hstuck : C.Stuck bs
    · exact ⟨[], .nil hstuck⟩
    · simp only [Stuck, not_forall, not_not] at hstuck
      obtain ⟨p, hp, t, rfl⟩ := hstuck
      have hpos := C.width_pos
      rw [List.length_append, length_frame] at hn
      obtain ⟨ps, hps⟩ := ih t.length (by omega) t rfl
      exact ⟨p :: ps, .cons hp hps⟩

/-- The frames of an encoding are what was encoded. -/
theorem longest_encode {ps : List (List α)} (hps : ∀ p ∈ ps, C.Fits p) :
    C.Longest (C.encode ps) ps where
  fits := hps
  rest := ⟨[], by simp, stuck_nil⟩

end LengthCode

end UrnetworkWindows.Lib
