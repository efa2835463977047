-- Texts that are the same up to case. Being so is an equivalence, every character folds to
-- something, and the signs that come before the small letters fold only from themselves, so a
-- text of such signs is no other text up to case.

import Mathlib.Data.List.Forall2
import SourceNames.Path
import SourceNames.Text.CaseFold

namespace SourceNames

/-! ## Characters that only fold from themselves -/

theorem image_of_foldExpansions :
    ∀ entry ∈ foldExpansions, entry.2 ≠ [] ∧ ∀ image ∈ entry.2, 0x61 ≤ image ∧ image < 0xd800 := by
  decide +kernel

theorem image_of_foldRuns : ∀ run ∈ foldRuns,
    0x61 ≤ run.2.2.2 ∧ (run.2.2.2 + (run.2.1 - run.1) < 0xd800 ∨
      0xdfff < run.2.2.2 ∧ run.2.2.2 + (run.2.1 - run.1) < 0x110000) := by
  decide +kernel

theorem image_of_lookup {code : Nat} {images : List Nat}
    (h : foldExpansions.lookup code = some images) :
    images ≠ [] ∧ ∀ image ∈ images, 0x61 ≤ image ∧ image < 0xd800 := by
  obtain ⟨front, back, htable, -⟩ := List.lookup_eq_some_iff.mp h
  apply image_of_foldExpansions (code, images)
  rw [htable]
  simp

theorem toNat_ofNat_of_valid {code : Nat} (h : code.isValidChar) :
    (Char.ofNat code).toNat = code := by
  unfold Char.ofNat
  rw [dif_pos h]
  rfl

/-- What a character folds to is the character itself, or comes after the capital letters and
all the signs before and among the letters. -/
theorem eq_or_le_of_mem_foldChar {c d : Char} (h : d ∈ foldChar c) : d = c ∨ 0x61 ≤ d.toNat := by
  unfold foldChar at h
  split at h
  · rename_i images hlookup
    obtain ⟨image, himage, rfl⟩ := List.mem_map.mp h
    have hrange := (image_of_lookup hlookup).2 image himage
    right
    rw [toNat_ofNat_of_valid (Or.inl hrange.2)]
    exact hrange.1
  · split at h
    · rename_i first last step image hfind
      have hrun := image_of_foldRuns _ (List.mem_of_find?_eq_some hfind)
      have hmeets := List.find?_some hfind
      simp only [Bool.and_eq_true, decide_eq_true_eq, beq_iff_eq] at hmeets hrun
      right
      rw [List.mem_singleton.mp h, toNat_ofNat_of_valid]
      · omega
      · unfold Nat.isValidChar
        omega
    · exact Or.inl (List.mem_singleton.mp h)

theorem foldChar_ne_nil (c : Char) : foldChar c ≠ [] := by
  unfold foldChar
  split
  · rename_i images hlookup
    simpa using (image_of_lookup hlookup).1
  · split <;> simp

/-- A character that folds to itself and comes before the small letters. No other one folds
to it. -/
def IsSign (c : Char) : Prop := foldChar c = [c] ∧ c.toNat < 0x61

instance (c : Char) : Decidable (IsSign c) := by
  unfold IsSign; infer_instance

/-! ## Texts that are the same up to case -/

theorem sameFolding_refl (a : String) : sameFolding a a = true := beq_self_eq_true _

theorem sameFolding_symm {a b : String} (h : sameFolding a b = true) : sameFolding b a = true := by
  unfold sameFolding at h ⊢
  rw [beq_iff_eq] at h ⊢
  exact h.symm

theorem sameFolding_trans {a b c : String} (hab : sameFolding a b = true)
    (hbc : sameFolding b c = true) : sameFolding a c = true := by
  unfold sameFolding at *
  rw [beq_iff_eq] at *
  exact hab.trans hbc

section SameFolding

variable {a b : String} {c : Char}

theorem eq_of_sign_mem_foldChar {d : Char} (hc : IsSign c) (h : c ∈ foldChar d) : d = c := by
  rcases eq_or_le_of_mem_foldChar h with h | h
  · exact h.symm
  · exact absurd hc.2 (by omega)

theorem sameFolding_iff :
    sameFolding a b = true ↔ a.toList.flatMap foldChar = b.toList.flatMap foldChar := by
  unfold sameFolding foldCase
  rw [beq_iff_eq]
  exact ⟨fun h => by simpa using congrArg String.toList h, fun h => by rw [h]⟩

theorem sign_mem_of_sameFolding (hc : IsSign c) (h : sameFolding a b = true) (hm : c ∈ a.toList) :
    c ∈ b.toList := by
  have hfold : c ∈ a.toList.flatMap foldChar :=
    List.mem_flatMap.mpr ⟨c, hm, by rw [hc.1]; exact List.mem_singleton.mpr rfl⟩
  rw [sameFolding_iff.mp h] at hfold
  obtain ⟨d, hd, hcd⟩ := List.mem_flatMap.mp hfold
  rwa [← eq_of_sign_mem_foldChar hc hcd]

/-- Texts that are the same up to case begin with the same sign, if with a sign. -/
theorem sign_head_of_sameFolding (hc : IsSign c) (h : sameFolding a b = true)
    (hhead : a.toList.head? = some c) : b.toList.head? = some c := by
  obtain ⟨rest, ha⟩ := List.head?_eq_some_iff.mp hhead
  have hfold := sameFolding_iff.mp h
  rw [ha, List.flatMap_cons, hc.1] at hfold
  cases hb : b.toList with
  | nil => simp [hb] at hfold
  | cons d more =>
    obtain ⟨image, images, himages⟩ := List.exists_cons_of_ne_nil (foldChar_ne_nil d)
    rw [hb, List.flatMap_cons, himages] at hfold
    have himage : c = image := (List.cons.inj hfold).1
    have hd := eq_of_sign_mem_foldChar hc (d := d) (by rw [himages, himage]; simp)
    rw [hd]
    rfl

theorem flatMap_foldChar_signs {signs : List Char} (hsigns : ∀ c ∈ signs, IsSign c) :
    signs.flatMap foldChar = signs := by
  induction signs with
  | nil => rfl
  | cons sign rest ih =>
    obtain ⟨hsign, hrest⟩ := List.forall_mem_cons.mp hsigns
    rw [List.flatMap_cons, hsign.1, ih hrest, List.singleton_append]

/-- Characters that fold to signs are these signs. -/
theorem eq_of_flatMap_foldChar {text signs : List Char} (hsigns : ∀ c ∈ signs, IsSign c)
    (h : text.flatMap foldChar = signs) : text = signs := by
  induction text generalizing signs with
  | nil => exact h
  | cons d rest ih =>
    obtain ⟨image, images, himages⟩ := List.exists_cons_of_ne_nil (foldChar_ne_nil d)
    rw [List.flatMap_cons] at h
    have hsign : IsSign image := hsigns image (by rw [← h, himages]; simp)
    obtain rfl := eq_of_sign_mem_foldChar hsign (d := d) (by rw [himages]; simp)
    rw [hsign.1, List.singleton_append] at h
    rw [← h, List.cons.injEq]
    exact ⟨rfl, ih (fun c hc => hsigns c (by rw [← h]; exact List.mem_cons_of_mem _ hc)) rfl⟩

/-- A text of signs is the same up to case as itself alone. -/
theorem sameFolding_signs_iff (hsigns : ∀ c ∈ b.toList, IsSign c) :
    sameFolding a b = true ↔ a = b := by
  rw [sameFolding_iff, flatMap_foldChar_signs hsigns, ← String.toList_inj]
  exact ⟨eq_of_flatMap_foldChar hsigns, fun h => by rw [h, flatMap_foldChar_signs hsigns]⟩

theorem eq_signs_iff_of_sameFolding {signs : String} (hsigns : ∀ c ∈ signs.toList, IsSign c)
    (h : sameFolding a b = true) : a = signs ↔ b = signs := by
  rw [← sameFolding_signs_iff hsigns, ← sameFolding_signs_iff hsigns]
  exact ⟨sameFolding_trans (sameFolding_symm h), sameFolding_trans h⟩

/-- Of two segments that are the same up to case, both name something or neither does. -/
theorem isName_eq_of_sameFolding (h : sameFolding a b = true) : Path.isName a = Path.isName b := by
  have hsign : IsSign '.' := by decide
  have hempty : a = "" ↔ b = "" := eq_signs_iff_of_sameFolding (by simp) h
  have hdot : a = "." ↔ b = "." := eq_signs_iff_of_sameFolding (by simp [hsign]) h
  unfold Path.isName
  rw [Bool.eq_iff_iff]
  simp [hempty, hdot]

end SameFolding

/-- Two names with the same segments up to case. -/
def IsRespelling (actual name : String) : Prop :=
  List.Forall₂ (fun a b => sameFolding a b = true) (segments actual) (segments name)

instance (actual name : String) : Decidable (IsRespelling actual name) := by
  unfold IsRespelling; infer_instance

end SourceNames
