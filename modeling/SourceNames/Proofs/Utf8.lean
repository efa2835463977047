-- Reading UTF-8 undoes writing it. The bytes that can be read are just those that some text
-- is written with, and they are read as that text, so nothing is lost when a file is read.

import Mathlib.Algebra.Group.Nat.Defs
import Mathlib.Tactic.SplitIfs
import SourceNames.Text.Utf8

namespace SourceNames

/-! ## The bytes after the first -/

/-- The last bytes of a code point: six bits each, the highest first. -/
def tailBytes : (count : Nat) → (code : Nat) → List UInt8
  | 0, _ => []
  | count + 1, code => UInt8.ofNat (code / 64 ^ count % 64 + 0x80) :: tailBytes count code

namespace Utf8Pending

/-- The code points that a character can still turn out to be. -/
structure Covers (p : Utf8Pending) (code : Nat) : Prop where
  bits : code / 64 ^ p.owed = p.bits
  low : p.low.toNat ≤ code / 64 ^ (p.owed - 1) % 64 + 0x80
  high : code / 64 ^ (p.owed - 1) % 64 + 0x80 ≤ p.high.toNat

/-- A byte is owed, and no byte is let through that could not follow a first one. -/
structure Fits (p : Utf8Pending) : Prop where
  owes : 0 < p.owed
  low : 0x80 ≤ p.low.toNat
  high : p.high.toNat ≤ 0xBF

/-- A character with one more of its bytes read. -/
def after (p : Utf8Pending) (b : UInt8) : Utf8Pending :=
  ⟨p.first, p.read + 1, p.owed - 1, 0x80, 0xBF, p.bits * 64 + (b.toNat - 0x80)⟩

variable {p : Utf8Pending} {b : UInt8} {code : Nat}

@[simp]
theorem after_owed (p : Utf8Pending) (b : UInt8) : (p.after b).owed = p.owed - 1 := rfl

theorem fits_after (b : UInt8) (h : 1 < p.owed) : (p.after b).Fits :=
  ⟨Nat.sub_pos_of_lt h, by simp [after], by simp [after]⟩

theorem toNat_tailByte (code : Nat) :
    (UInt8.ofNat (code % 64 + 0x80)).toNat = code % 64 + 0x80 := by
  rw [UInt8.toNat_ofNat']
  omega

/-- The next byte of a code point is one of those let through. -/
theorem Covers.next (h : p.Covers code) :
    p.low ≤ UInt8.ofNat (code / 64 ^ (p.owed - 1) % 64 + 0x80) ∧
      UInt8.ofNat (code / 64 ^ (p.owed - 1) % 64 + 0x80) ≤ p.high := by
  simp only [UInt8.le_iff_toNat_le, toNat_tailByte]
  exact ⟨h.low, h.high⟩

theorem div_pow_pred (code : Nat) {owed : Nat} (h : 0 < owed) :
    code / 64 ^ owed * 64 + code / 64 ^ (owed - 1) % 64 = code / 64 ^ (owed - 1) := by
  obtain ⟨k, rfl⟩ : ∃ k, owed = k + 1 := ⟨owed - 1, by omega⟩
  rw [Nat.pow_succ, ← Nat.div_div_eq_div_mul, Nat.add_sub_cancel]
  omega

/-- A byte read leaves the code points that have it as their next byte. -/
theorem covers_after_iff (hfits : p.Fits) (hlow : p.low ≤ b) (hhigh : b ≤ p.high) :
    (p.after b).Covers code ↔
      p.Covers code ∧ b = UInt8.ofNat (code / 64 ^ (p.owed - 1) % 64 + 0x80) := by
  rw [UInt8.le_iff_toNat_le] at hlow hhigh
  have hvalue := div_pow_pred code hfits.owes
  have hlt : code / 64 ^ (p.owed - 1) % 64 < 64 := Nat.mod_lt _ (by decide)
  have hlt' : code / 64 ^ (p.owed - 1 - 1) % 64 < 64 := Nat.mod_lt _ (by decide)
  have := hfits.low
  have := hfits.high
  rw [← UInt8.toNat_inj, toNat_tailByte]
  constructor
  · rintro ⟨hbits, -, -⟩
    simp only [after] at hbits
    exact ⟨⟨by omega, by omega, by omega⟩, by omega⟩
  · rintro ⟨⟨hbits, -, -⟩, hb⟩
    refine ⟨?_, ?_, ?_⟩
    · simp only [after]
      omega
    · simp [after]
    · simp only [after, UInt8.reduceToNat]
      omega

theorem Covers.bits_eq (h : p.Covers code) (howed : p.owed = 0) : p.bits = code := by
  have hbits := h.bits
  rw [howed, Nat.pow_zero, Nat.div_one] at hbits
  exact hbits.symm

/-- After its last byte a character is the code point of its bits. -/
theorem covers_bits (b : UInt8) (h : p.owed = 1) : (p.after b).Covers (p.after b).bits := by
  have hlt : (p.after b).bits % 64 < 64 := Nat.mod_lt _ (by decide)
  refine ⟨by simp [h], by simp [after], ?_⟩
  simp only [after_owed, h, Nat.sub_self]
  have : (p.after b).high.toNat = 0xBF := rfl
  omega

end Utf8Pending

/-! ## Reading the rest of a character -/

open Utf8Pending

/-- One step on a character of which bytes are owed. -/
theorem decodeUtf8From_pending (position : Nat) (p : Utf8Pending) (b : UInt8)
    (rest : List UInt8) :
    decodeUtf8From position (some p) (b :: rest) =
      if p.low ≤ b ∧ b ≤ p.high then
        if p.owed ≤ 1 then
          match decodeUtf8From (position + 1) none rest with
          | .ok text => .ok (Char.ofNat (p.after b).bits :: text)
          | .error fault => .error fault
        else decodeUtf8From (position + 1) (some (p.after b)) rest
      else .error ⟨position - 1 - p.read, p.first, p.read, .continuation⟩ := rfl

/-- A character is read from the bytes that are owed of it. -/
theorem decodeUtf8From_tail {rest : List UInt8} {text : List Char} {p : Utf8Pending} {code : Nat}
    (hfits : p.Fits) (h : p.Covers code)
    (hrest : ∀ position, decodeUtf8From position none rest = .ok text) (position : Nat) :
    decodeUtf8From position (some p) (tailBytes p.owed code ++ rest) =
      .ok (Char.ofNat code :: text) := by
  induction howed : p.owed generalizing p position with
  | zero => exact absurd howed (Nat.pos_iff_ne_zero.mp hfits.owes)
  | succ k ih =>
    have hafter := (covers_after_iff hfits h.next.1 h.next.2).mpr ⟨h, rfl⟩
    have hnext := h.next
    rw [howed, Nat.add_sub_cancel] at hafter hnext
    rw [tailBytes, List.cons_append, decodeUtf8From_pending, if_pos hnext]
    split_ifs with hlast
    · obtain rfl : k = 0 := by omega
      simp only [tailBytes, List.nil_append, hrest, hafter.bits_eq (by rw [after_owed, howed])]
    · exact ih (fits_after _ (by omega)) hafter (position + 1) (by simp [after, howed])

/-- What is read when bytes are owed starts with the bytes of a character. -/
theorem exists_of_decodeUtf8From_tail {bytes : List UInt8} {text : List Char} {p : Utf8Pending}
    {position : Nat} (hfits : p.Fits) (h : decodeUtf8From position (some p) bytes = .ok text) :
    ∃ code rest more next, p.Covers code ∧ bytes = tailBytes p.owed code ++ rest ∧
      text = Char.ofNat code :: more ∧ decodeUtf8From next none rest = .ok more := by
  induction bytes generalizing p position with
  | nil => simp [decodeUtf8From] at h
  | cons b rest ih =>
    rw [decodeUtf8From_pending] at h
    split_ifs at h with hb hlast
    · have howed : p.owed = 1 := by have := hfits.owes; omega
      have hafter : (p.after b).Covers (p.after b).bits := covers_bits b howed
      split at h
      · rename_i more hmore
        cases h
        obtain ⟨hcovers, hbyte⟩ := (covers_after_iff hfits hb.1 hb.2).mp hafter
        refine ⟨_, rest, more, _, hcovers, ?_, rfl, hmore⟩
        rw [howed] at hbyte ⊢
        simpa [tailBytes] using hbyte
      · simp at h
    · obtain ⟨code, rest', more, next, hcovers, rfl, rfl, hmore⟩ :=
        ih (fits_after b (by omega)) h
      obtain ⟨hcovers, hbyte⟩ := (covers_after_iff hfits hb.1 hb.2).mp hcovers
      obtain ⟨k, hk⟩ : ∃ k, p.owed = k + 1 := ⟨p.owed - 1, by have := hfits.owes; omega⟩
      refine ⟨code, rest', more, next, hcovers, ?_, rfl, hmore⟩
      rw [hk] at hbyte ⊢
      simp only [after, hk, Nat.add_sub_cancel, tailBytes, List.cons_append] at hbyte ⊢
      rw [hbyte]

/-! ## The first byte -/

theorem fits_of_ofLead {b : UInt8} {p : Utf8Pending} (h : ofLead b = some p) : p.Fits := by
  unfold ofLead at h
  simp only at h
  split_ifs at h <;> cases h <;> exact ⟨by simp, by simp, by simp⟩

/-- How a character that is not ASCII is written. -/
theorem utf8EncodeChar_eq {c : Char} (h : 0x7F < c.toNat) :
    String.utf8EncodeChar c =
      if c.toNat ≤ 0x7FF then UInt8.ofNat (c.toNat / 64 % 32 + 0xC0) :: tailBytes 1 c.toNat
      else if c.toNat ≤ 0xFFFF then
        UInt8.ofNat (c.toNat / 4096 % 16 + 0xE0) :: tailBytes 2 c.toNat
      else UInt8.ofNat (c.toNat / 262144 % 8 + 0xF0) :: tailBytes 3 c.toNat := by
  have hnot : ¬ c.toNat ≤ 127 := Nat.not_le.mpr h
  unfold String.utf8EncodeChar
  simp [tailBytes, hnot]

/-- What a first byte can be the first of is a character, and not an ASCII one. -/
theorem isValidChar_of_covers {b : UInt8} {p : Utf8Pending} {code : Nat}
    (h : ofLead b = some p) (hcovers : p.Covers code) : 0x7F < code ∧ code.isValidChar := by
  obtain ⟨hbits, hlow, hhigh⟩ := hcovers
  unfold ofLead at h
  simp only at h
  split_ifs at h <;> cases h <;> simp at hbits hlow hhigh <;> unfold Nat.isValidChar <;> omega

/-- A first byte and the bytes owed after it are how a character is written. -/
theorem utf8EncodeChar_of_covers {b : UInt8} {p : Utf8Pending} {code : Nat}
    (h : ofLead b = some p) (hcovers : p.Covers code) :
    String.utf8EncodeChar (Char.ofNat code) = b :: tailBytes p.owed code := by
  obtain ⟨hnot, hvalid⟩ := isValidChar_of_covers h hcovers
  have hcode : (Char.ofNat code).toNat = code := by
    rw [Char.ofNat, dif_pos hvalid]
    rfl
  rw [utf8EncodeChar_eq (by rw [hcode]; exact hnot), hcode]
  obtain ⟨hbits, hlow, hhigh⟩ := hcovers
  unfold ofLead at h
  simp only at h
  split_ifs at h <;> cases h <;> simp at hbits hlow hhigh <;> split_ifs <;> first
    | omega
    | exact congrArg (· :: _) (UInt8.toNat_inj.mp (by rw [UInt8.toNat_ofNat']; omega))

/-- Every character that is not ASCII has a first byte. -/
theorem exists_ofLead {c : Char} (h : 0x7F < c.toNat) :
    ∃ b p, ofLead b = some p ∧ p.Covers c.toNat := by
  have hvalid : c.toNat < 0xD800 ∨ 0xDFFF < c.toNat ∧ c.toNat < 0x110000 := c.valid
  obtain ⟨n, hn, hlead⟩ : ∃ n, n < 256 ∧
      (c.toNat ≤ 0x7FF ∧ n = c.toNat / 64 + 0xC0 ∨
        0x7FF < c.toNat ∧ c.toNat ≤ 0xFFFF ∧ n = c.toNat / 4096 + 0xE0 ∨
        0xFFFF < c.toNat ∧ n = c.toNat / 262144 + 0xF0) := by
    rcases Nat.lt_or_ge 0x7FF c.toNat with h2 | h2
    · rcases Nat.lt_or_ge 0xFFFF c.toNat with h3 | h3
      · exact ⟨_, by omega, Or.inr (Or.inr ⟨h3, rfl⟩)⟩
      · exact ⟨_, by omega, Or.inr (Or.inl ⟨h2, h3, rfl⟩)⟩
    · exact ⟨_, by omega, Or.inl ⟨h2, rfl⟩⟩
  have hbyte : (UInt8.ofNat n).toNat = n := by
    rw [UInt8.toNat_ofNat']
    omega
  refine ⟨UInt8.ofNat n, ?_⟩
  unfold ofLead
  simp only [hbyte]
  split_ifs <;> first
    | omega
    | refine ⟨_, rfl, ?_, ?_, ?_⟩ <;> simp <;> omega

/-- No first byte is an ASCII character. -/
theorem not_ascii_of_ofLead {b : UInt8} {p : Utf8Pending} (h : ofLead b = some p) :
    ¬ b < 0x80 := by
  intro hlt
  rw [UInt8.lt_iff_toNat_lt] at hlt
  simp only [UInt8.reduceToNat] at hlt
  unfold ofLead at h
  simp only at h
  split_ifs at h <;> omega

theorem utf8EncodeChar_ascii {b : UInt8} (h : b < 0x80) :
    String.utf8EncodeChar (Char.ofNat b.toNat) = [b] := by
  rw [UInt8.lt_iff_toNat_lt] at h
  simp only [UInt8.reduceToNat] at h
  have hvalid : b.toNat.isValidChar := Or.inl (by omega)
  have hcode : (Char.ofNat b.toNat).val.toNat = b.toNat := by
    rw [Char.ofNat, dif_pos hvalid]
    rfl
  unfold String.utf8EncodeChar
  simp only [hcode]
  rw [if_pos (by omega), UInt8.ofNat_toNat]

theorem exists_ascii {c : Char} (h : c.toNat ≤ 0x7F) :
    ∃ b : UInt8, b < 0x80 ∧ Char.ofNat b.toNat = c := by
  have hbyte : (UInt8.ofNat c.toNat).toNat = c.toNat := by
    rw [UInt8.toNat_ofNat']
    omega
  refine ⟨UInt8.ofNat c.toNat, ?_, by rw [hbyte, Char.ofNat_toNat]⟩
  rw [UInt8.lt_iff_toNat_lt, hbyte]
  simp only [UInt8.reduceToNat]
  omega

/-! ## Whole texts -/

/-- The bytes of a character are read as that character. -/
theorem decodeUtf8From_append {c : Char} {rest : List UInt8} {text : List Char}
    (hrest : ∀ position, decodeUtf8From position none rest = .ok text) (position : Nat) :
    decodeUtf8From position none (String.utf8EncodeChar c ++ rest) = .ok (c :: text) := by
  rcases Nat.lt_or_ge 0x7F c.toNat with h | h
  · obtain ⟨b, p, hlead, hcovers⟩ := exists_ofLead h
    have hwritten := utf8EncodeChar_of_covers hlead hcovers
    rw [Char.ofNat_toNat] at hwritten
    rw [hwritten, List.cons_append, decodeUtf8From, if_neg (not_ascii_of_ofLead hlead), hlead]
    have htail := decodeUtf8From_tail (fits_of_ofLead hlead) hcovers hrest (position + 1)
    rwa [Char.ofNat_toNat] at htail
  · obtain ⟨b, hascii, rfl⟩ := exists_ascii h
    rw [utf8EncodeChar_ascii hascii, List.singleton_append, decodeUtf8From, if_pos hascii, hrest]

theorem decodeUtf8From_flatMap (text : List Char) (position : Nat) :
    decodeUtf8From position none (text.flatMap String.utf8EncodeChar) = .ok text := by
  induction text generalizing position with
  | nil => rfl
  | cons c rest ih => exact decodeUtf8From_append ih position

/-- The bytes that are read as a text are those it is written with. -/
theorem flatMap_of_decodeUtf8From {bytes : List UInt8} {text : List Char} {position : Nat}
    (h : decodeUtf8From position none bytes = .ok text) :
    text.flatMap String.utf8EncodeChar = bytes := by
  -- A character of several bytes is read as a whole, so the induction is on the length.
  induction hn : bytes.length using Nat.strongRecOn generalizing bytes text position with
  | ind n ih =>
    cases bytes with
    | nil =>
      simp only [decodeUtf8From, Except.ok.injEq] at h
      rw [← h, List.flatMap_nil]
    | cons b rest =>
      rw [decodeUtf8From] at h
      split_ifs at h with hascii
      · split at h
        · rename_i more hmore
          cases h
          rw [List.flatMap_cons, utf8EncodeChar_ascii hascii,
            ih rest.length (by simp [← hn]) hmore rfl, List.singleton_append]
        · simp at h
      · split at h
        · rename_i p hlead
          obtain ⟨code, rest', more, next, hcovers, rfl, rfl, hmore⟩ :=
            exists_of_decodeUtf8From_tail (fits_of_ofLead hlead) h
          have hshort : rest'.length < n := by
            rw [← hn, List.length_cons, List.length_append]
            omega
          rw [List.flatMap_cons, utf8EncodeChar_of_covers hlead hcovers,
            ih rest'.length hshort hmore rfl, List.cons_append]
        · simp at h

/-- Bytes are read as a text just if they are those that the text is written with. -/
theorem decodeUtf8_eq_ok_iff {bytes : List UInt8} {text : String} :
    decodeUtf8 bytes = .ok text ↔ encodeUtf8 text = bytes := by
  unfold decodeUtf8 encodeUtf8
  constructor
  · intro h
    split at h
    · rename_i chars hchars
      cases h
      rw [String.toList_ofList]
      exact flatMap_of_decodeUtf8From hchars
    · simp at h
  · rintro rfl
    simp only [decodeUtf8From_flatMap, String.ofList_toList]

end SourceNames
