/-
The heartbeat record of the service (`Heartbeat.cpp`).

Every record is written over the last one, so each has one width.  A line that is too long is cut,
and the octets that go on with a character are taken off its end.  The octet that begins one is not:
a cut inside a character leaves it there, before a space or the end of the line
(`record_kept_iff`).
-/
import Mathlib.Data.List.DropRight
import UrnetworkWindows.Lib.Decimal
import UrnetworkWindows.Lib.Utf8

namespace UrnetworkWindows.Heartbeat

open Lib Lib.Utf8

def kHeartbeatRecordBytes : ℕ := 256

def kBom : List UInt8 := [0xEF, 0xBB, 0xBF]

def kCrlf : List UInt8 := [13, 10]

/-- `{:02}`. -/
def twoDigits (n : ℕ) : List UInt8 := if n < 10 then '0'.toUInt8 :: numeral n else numeral n

/-- `FormatUptime`: a time below zero is none. -/
def formatUptime (seconds : Int64) : List UInt8 :=
  let n := seconds.toInt.toNat
  twoDigits (n / 3600) ++ narrow ":" ++ twoDigits (n / 60 % 60) ++ narrow ":" ++ twoDigits (n % 60)

/-- The dash of the line. -/
def kDash : List UInt8 := [0xE2, 0x80, 0x94]

/-- The line before it is made to fit. -/
def recordText (pid : UInt32) (uptimeSeconds : Int64) (tunnelState : Option (List UInt8))
    (stamp : List UInt8) : List UInt8 :=
  kBom ++ narrow "urnetworkd heartbeat  at=" ++ stamp ++ narrow "  pid=" ++ numeral pid.toNat ++
    narrow "  uptime=" ++ formatUptime uptimeSeconds ++ narrow "  tunnel=" ++
      tunnelState.getD (narrow "unknown") ++ narrow "  " ++ kDash ++
        narrow " this line " ++
          narrow "is rewritten in place about once a second. If it is older than the " ++
            narrow "clock, THIS IS THE LAST SECOND THE PROCESS WAS ALIVE."

/-- An octet that goes on with a character. -/
def isContinuation (c : UInt8) : Bool := c &&& 0xC0 = 0x80

/-- A text in the width of the record, before the end of the line. -/
def fit (text : List UInt8) : List UInt8 :=
  let body := kHeartbeatRecordBytes - 2
  let out := if body < text.length then (text.take body).rdropWhile isContinuation else text
  out ++ List.replicate (body - out.length) ' '.toUInt8

/-- `FormatHeartbeatRecord`. -/
def formatHeartbeatRecord (pid : UInt32) (uptimeSeconds : Int64)
    (tunnelState : Option (List UInt8)) (stamp : List UInt8) : List UInt8 :=
  fit (recordText pid uptimeSeconds tunnelState stamp) ++ kCrlf

/-- What a record is to be. -/
structure Kept (record : List UInt8) : Prop where
  width : record.length = kHeartbeatRecordBytes
  bom : kBom <+: record
  crlf : kCrlf <:+ record
  utf8 : Octets record

/-! ### The line -/

lemma octets_numeral (n : ℕ) : Octets (numeral n) := by
  refine octets_of_ascii fun c hc => ?_
  rcases Nat.eq_zero_or_pos n with rfl | hpos
  · obtain rfl : c = '0'.toUInt8 := List.mem_singleton.1 hc
    decide
  · have hdigit := (numeral_spec hpos).1 c hc
    rw [isDecimal, Bool.and_eq_true, decide_eq_true_eq, decide_eq_true_eq] at hdigit
    exact UInt8.le_trans hdigit.2 (by decide)

lemma octets_twoDigits (n : ℕ) : Octets (twoDigits n) := by
  rw [twoDigits]
  split_ifs
  · exact .cons (.ascii (by decide)) (octets_numeral n)
  · exact octets_numeral n

lemma octets_append {s t : List UInt8} (hs : Octets s) (ht : Octets t) : Octets (s ++ t) :=
  hs.append_iff.2 ht

lemma octets_kBom : Octets kBom :=
  .cons (.threeEEEF (by decide) (by decide) ⟨by decide, by decide⟩ ⟨by decide, by decide⟩) .nil

lemma octets_fixed :
    ∀ t ∈ [narrow ":", narrow "unknown", narrow "urnetworkd heartbeat  at=", narrow "  pid=",
      narrow "  uptime=", narrow "  tunnel=", narrow "  ", narrow " this line ",
      narrow "is rewritten in place about once a second. If it is older than the ",
      narrow "clock, THIS IS THE LAST SECOND THE PROCESS WAS ALIVE."], Octets t := by
  intro t ht
  refine octets_of_ascii ?_
  revert t
  decide +kernel

lemma octets_formatUptime (seconds : Int64) : Octets (formatUptime seconds) := by
  have hcolon : Octets (narrow ":") := octets_fixed _ (List.mem_cons_self ..)
  have hhours := octets_append (octets_twoDigits (seconds.toInt.toNat / 3600)) hcolon
  have hminutes := octets_append hhours (octets_twoDigits (seconds.toInt.toNat / 60 % 60))
  exact octets_append (octets_append hminutes hcolon) (octets_twoDigits _)

lemma octets_recordText {pid : UInt32} {uptimeSeconds : Int64} {tunnelState : Option (List UInt8)}
    {stamp : List UInt8} (hstamp : Octets stamp) (hstate : ∀ s ∈ tunnelState, Octets s) :
    Octets (recordText pid uptimeSeconds tunnelState stamp) := by
  have hdash : Octets kDash := .cons (.threeE1EC (by decide) (by decide) ⟨by decide, by decide⟩
    ⟨by decide, by decide⟩) .nil
  have hfixed := octets_fixed
  simp only [List.forall_mem_cons] at hfixed
  obtain ⟨-, hunknown, hat, hpid, huptime, htunnel, hgap, hline, hrewritten, hclock, -⟩ := hfixed
  have hname : Octets (tunnelState.getD (narrow "unknown")) := by
    cases tunnelState with
    | none => exact hunknown
    | some state => exact hstate state rfl
  have hstart := octets_append (octets_append octets_kBom hat) hstamp
  have hnumber := octets_append (octets_append hstart hpid) (octets_numeral pid.toNat)
  have htime := octets_append (octets_append hnumber huptime) (octets_formatUptime uptimeSeconds)
  have hfull := octets_append (octets_append htime htunnel) hname
  exact octets_append (octets_append (octets_append (octets_append (octets_append hfull hgap) hdash)
    hline) hrewritten) hclock

lemma recordText_eq (pid : UInt32) (uptimeSeconds : Int64) (tunnelState : Option (List UInt8))
    (stamp : List UInt8) :
    ∃ rest, recordText pid uptimeSeconds tunnelState stamp = kBom ++ 'u'.toUInt8 :: rest := by
  rw [recordText]
  simp only [List.append_assoc]
  exact ⟨_, rfl⟩

/-! ### The cut -/

lemma rdropWhile_append_cons {α : Type*} {p : α → Bool} {a : α} (ha : p a = false) (l t : List α) :
    (l ++ a :: t).rdropWhile p = l ++ a :: t.rdropWhile p := by
  induction t using List.reverseRecOn with
  | nil => rw [List.rdropWhile_concat_neg _ _ _ (by simp [ha]), List.rdropWhile_nil]
  | append_singleton t x ih =>
    have hassoc : l ++ a :: (t ++ [x]) = (l ++ a :: t) ++ [x] := by simp
    rw [hassoc, List.rdropWhile_concat, List.rdropWhile_concat, ih]
    split_ifs
    · rfl
    · exact hassoc.symm

lemma isContinuation_iff (c : UInt8) : isContinuation c = true ↔ Tail c := by
  rw [isContinuation, decide_eq_true_eq, tail_iff_bits]

lemma length_fit (text : List UInt8) : (fit text).length = kHeartbeatRecordBytes - 2 := by
  have hle : (if kHeartbeatRecordBytes - 2 < text.length then
      (text.take (kHeartbeatRecordBytes - 2)).rdropWhile isContinuation else text).length ≤
        kHeartbeatRecordBytes - 2 := by
    split_ifs with hlong
    · exact (List.rdropWhile_prefix _ _).length_le.trans (List.length_take_le ..)
    · exact not_lt.1 hlong
  rw [fit, List.length_append, List.length_replicate]
  omega

lemma prefix_fit {text rest : List UInt8} {a : UInt8} (ha : isContinuation a = false)
    (h : text = kBom ++ a :: rest) : kBom <+: fit text := by
  rw [fit]
  split_ifs
  · have htake : text.take (kHeartbeatRecordBytes - 2) =
        kBom ++ a :: rest.take (kHeartbeatRecordBytes - 6) := by
      rw [h]
      rfl
    rw [htake, rdropWhile_append_cons ha, List.append_assoc]
    exact List.prefix_append _ _
  · rw [h, List.append_assoc]
    exact List.prefix_append _ _

/-- A line that is cut ends in the first octet of the character that the last octet belongs to. -/
lemma exists_cut {text : List UInt8} (h : Octets text)
    (hlong : kHeartbeatRecordBytes - 2 < text.length) :
    ∃ s a n, Octets s ∧ fit text = s ++ a :: List.replicate n ' '.toUInt8 ∧
      (a.toNat < 128 ↔ ∀ c ∈ text[kHeartbeatRecordBytes - 3]?, c.toNat < 128) := by
  obtain ⟨s, char, rest, rfl, hs, hchar, hlow, hhigh⟩ :=
    h.exists_char (n := kHeartbeatRecordBytes - 3) (by omega)
  have hbytes : kHeartbeatRecordBytes = 256 := rfl
  obtain ⟨k, hk⟩ : ∃ k, kHeartbeatRecordBytes - 2 = s.length + (k + 1) :=
    ⟨kHeartbeatRecordBytes - 3 - s.length, by omega⟩
  have hlast : (s ++ (char ++ rest))[kHeartbeatRecordBytes - 3]? = char[k]? := by
    rw [List.getElem?_append_right hlow, List.getElem?_append_left (by omega)]
    congr 1
    omega
  rw [hlast]
  have hcut : ∀ a ds, char = a :: ds → isContinuation a = false →
      (∀ d ∈ ds.take k, isContinuation d = true) →
        fit (s ++ (char ++ rest)) = s ++ a ::
          List.replicate (kHeartbeatRecordBytes - 2 - (s ++ [a]).length) ' '.toUInt8 := by
    rintro a ds rfl ha hds
    have hk' : k ≤ ds.length := by
      rw [List.length_cons] at hhigh
      omega
    have htake : (s ++ (a :: ds ++ rest)).take (kHeartbeatRecordBytes - 2) =
        s ++ a :: ds.take k := by
      rw [hk, List.take_length_add_append, List.cons_append, List.take_succ_cons,
        List.take_append_of_le_length hk']
    rw [fit, if_pos hlong, htake, rdropWhile_append_cons ha, List.rdropWhile_eq_nil_iff.2 hds,
      List.append_assoc]
    rfl
  rcases hchar.cases_ascii with ⟨a, rfl, ha⟩ | ⟨a, ds, rfl, hne, ha, hds⟩
  · obtain rfl : k = 0 := by
      rw [List.length_singleton] at hhigh
      omega
    have hcont : isContinuation a = false := by
      rw [← Bool.not_eq_true, isContinuation_iff, tail_iff]
      omega
    refine ⟨s, a, _, hs, hcut a [] rfl hcont (List.forall_mem_nil _), iff_of_true ha ?_⟩
    rintro c hc
    cases hc
    exact ha
  · have hcont : isContinuation a = false := by
      rw [← Bool.not_eq_true, isContinuation_iff, tail_iff]
      omega
    have htails : ∀ d ∈ ds.take k, isContinuation d = true := fun d hd =>
      (isContinuation_iff d).2 (hds d (List.mem_of_mem_take hd))
    refine ⟨s, a, _, hs, hcut a ds rfl hcont htails, iff_of_false (by omega) fun hall => ?_⟩
    -- the octet at the cut is of the character, and none of its octets is ASCII
    have hindex : k < (a :: ds).length := by omega
    have hascii := hall _ (List.getElem?_eq_getElem hindex)
    rcases List.mem_cons.1 (List.getElem_mem hindex) with heq | hmem
    · rw [heq] at hascii
      omega
    · have htail := tail_iff.1 (hds _ hmem)
      omega

/-- **The record keeps its encoding exactly where the line fits, or is cut behind an octet of
ASCII.** -/
theorem record_kept_iff {pid : UInt32} {uptimeSeconds : Int64} {tunnelState : Option (List UInt8)}
    {stamp : List UInt8} (hstamp : Octets stamp) (hstate : ∀ s ∈ tunnelState, Octets s) :
    Kept (formatHeartbeatRecord pid uptimeSeconds tunnelState stamp) ↔
      (recordText pid uptimeSeconds tunnelState stamp).length ≤ kHeartbeatRecordBytes - 2 ∨
        ∀ c ∈ (recordText pid uptimeSeconds tunnelState stamp)[kHeartbeatRecordBytes - 3]?,
          c.toNat < 128 := by
  have htext : Octets (recordText pid uptimeSeconds tunnelState stamp) :=
    octets_recordText hstamp hstate
  obtain ⟨rest, hrest⟩ := recordText_eq pid uptimeSeconds tunnelState stamp
  rw [formatHeartbeatRecord]
  generalize recordText pid uptimeSeconds tunnelState stamp = text at *
  have hkept : Kept (fit text ++ kCrlf) ↔ Octets (fit text ++ kCrlf) := by
    refine ⟨Kept.utf8, fun hutf8 => ⟨?_, ?_, List.suffix_append .., hutf8⟩⟩
    · rw [List.length_append, length_fit]
      rfl
    · exact (prefix_fit (by decide) hrest).trans (List.prefix_append ..)
  have hend : ∀ n, Octets (List.replicate n ' '.toUInt8 ++ kCrlf) := by
    intro n
    refine octets_append (octets_of_ascii fun c hc => ?_) (octets_of_ascii (by decide +kernel))
    rw [List.eq_of_mem_replicate hc]
    decide
  rw [hkept]
  rcases le_or_gt text.length (kHeartbeatRecordBytes - 2) with hfits | hlong
  · refine iff_of_true ?_ (.inl hfits)
    rw [fit, if_neg (not_lt.2 hfits), List.append_assoc]
    exact octets_append htext (hend _)
  · obtain ⟨s, a, n, hs, hfit, hlast⟩ := exists_cut htext hlong
    rw [or_iff_right (not_le.2 hlong), ← hlast, hfit, List.append_assoc, hs.append_iff]
    constructor
    · intro hutf8
      by_contra hlead
      have hlead : 128 ≤ a.toNat := not_lt.1 hlead
      -- the octet is left before a space, or before the end of the line
      cases n with
      | zero | succ n => exact absurd (tail_iff.1 (hutf8.tail_of_lead hlead)) (by decide)
    · intro ha
      show Octets ([a] ++ (List.replicate n ' '.toUInt8 ++ kCrlf))
      exact .cons (char_one_iff.2 (by omega)) (hend n)

/-- A tunnel that is up, with the record of a day in summer. -/
theorem record_kept_iff_up :
    Kept (formatHeartbeatRecord 1 0 (some (narrow "up")) (narrow "2026-07-24 12:00:00")) ↔
      (recordText 1 0 (some (narrow "up")) (narrow "2026-07-24 12:00:00")).length ≤
          kHeartbeatRecordBytes - 2 ∨
        ∀ c ∈ (recordText 1 0 (some (narrow "up")) (narrow "2026-07-24 12:00:00"))[
          kHeartbeatRecordBytes - 3]?, c.toNat < 128 := by
  refine record_kept_iff (octets_of_ascii (by decide +kernel)) fun s hs => ?_
  cases hs
  exact octets_of_ascii (by decide +kernel)

/-- A tunnel state of 170 letters, behind which the dash is cut. -/
theorem record_kept_fails :
    Octets (narrow "2026-07-24 12:00:00") ∧ Octets (List.replicate 170 'a'.toUInt8) ∧
      ¬Kept (formatHeartbeatRecord 1 0 (some (List.replicate 170 'a'.toUInt8))
        (narrow "2026-07-24 12:00:00")) := by
  refine ⟨octets_of_ascii (by decide +kernel), octets_of_ascii fun c hc => ?_, fun h => ?_⟩
  · rw [List.eq_of_mem_replicate hc]
    decide
  · have hutf8 := h.utf8
    generalize hrecord : formatHeartbeatRecord 1 0 (some (List.replicate 170 'a'.toUInt8))
      (narrow "2026-07-24 12:00:00") = record at hutf8
    have hparts : record = kBom ++ ((record.drop 3).take 249 ++ 0xE2 :: 0x20 :: kCrlf) := by
      rw [← hrecord]
      decide +kernel
    have hascii : ∀ c ∈ (record.drop 3).take 249, c ≤ 0x7F := by
      rw [← hrecord]
      decide +kernel
    rw [hparts, octets_kBom.append_iff, (octets_of_ascii hascii).append_iff] at hutf8
    exact absurd (tail_iff.1 (hutf8.tail_of_lead (by decide))) (by decide)

end UrnetworkWindows.Heartbeat
