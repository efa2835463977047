-- Where a relative path leads. A walk through its segments keeps the names that it is below,
-- and counts how often it climbed with no name left to take back. The collapsed path is
-- written from just these two.

import Mathlib.Data.List.Induction
import SourceNames.Proofs.NormalForms

namespace SourceNames

/-- Whether a segment leads below a name. -/
def goesBelow (segment : String) : Bool :=
  segment != "" && segment != "." && segment != ".."

theorem isName_of_goesBelow {segment : String} (h : goesBelow segment = true) :
    Path.isName segment = true := by
  unfold goesBelow at h
  unfold Path.isName
  simp_all

theorem ne_dots_of_goesBelow {segment : String} (h : goesBelow segment = true) :
    segment ≠ ".." := by
  unfold goesBelow at h
  simp_all

/-- A segment names nothing, or is two dots, or leads below a name. -/
theorem segment_cases (segment : String) :
    Path.isName segment = false ∨ segment = ".." ∨ goesBelow segment = true := by
  unfold Path.isName goesBelow
  by_cases hdots : segment = ".."
  · exact Or.inr (Or.inl hdots)
  · by_cases hempty : segment = ""
    · simp [hempty]
    · by_cases hdot : segment = "."
      · simp [hdot]
      · simp [hdots, hempty, hdot]

/-- Where a walk has come to: how often it climbed above where it started, and the names that
it is below since then. -/
structure Trail where
  climbs : Nat
  names : List String
  deriving DecidableEq, Repr

namespace Trail

variable {trail : Trail} {segment : String}

/-! ## Walking -/

/-- One more segment: the empty one and the dot do nothing, a name is gone below, and two dots
take the last name back, or climb if there is none. -/
def step (trail : Trail) (segment : String) : Trail :=
  if segment = "" ∨ segment = "." then trail
  else if segment = ".." then
    if trail.names = [] then { trail with climbs := trail.climbs + 1 }
    else { trail with names := trail.names.dropLast }
  else { trail with names := trail.names ++ [segment] }

/-- The walk through segments from the start. -/
def along (walked : List String) : Trail := walked.foldl step ⟨0, []⟩

theorem step_of_not_isName (h : Path.isName segment = false) : trail.step segment = trail := by
  unfold Path.isName at h
  unfold step
  apply if_pos
  by_cases hempty : segment = ""
  · exact Or.inl hempty
  · exact Or.inr (by simpa [hempty] using h)

theorem step_of_goesBelow (h : goesBelow segment = true) :
    trail.step segment = { trail with names := trail.names ++ [segment] } := by
  unfold goesBelow at h
  unfold step
  simp_all

theorem step_dots_of_nil (climbs : Nat) : step ⟨climbs, []⟩ ".." = ⟨climbs + 1, []⟩ := rfl

theorem step_dots_of_concat (climbs : Nat) (names : List String) (last : String) :
    step ⟨climbs, names ++ [last]⟩ ".." = ⟨climbs, names⟩ := by
  simp [step]

/-- Names are gone below one after the other. -/
theorem foldl_step_names {names : List String} (h : ∀ name ∈ names, goesBelow name = true)
    (trail : Trail) : names.foldl step trail = { trail with names := trail.names ++ names } := by
  induction names generalizing trail with
  | nil => simp
  | cons name rest ih =>
    rw [List.forall_mem_cons] at h
    rw [List.foldl_cons, step_of_goesBelow h.1, ih h.2]
    simp

/-- As many climbs as there are names take all of them back. -/
theorem foldl_step_climbs (climbs : Nat) (names more : List String) :
    (List.replicate more.length "..").foldl step ⟨climbs, names ++ more⟩ = ⟨climbs, names⟩ := by
  induction more using List.reverseRecOn with
  | nil => simp
  | append_singleton front last ih =>
    rw [List.length_append, List.length_singleton, List.replicate_succ, List.foldl_cons,
      ← List.append_assoc, step_dots_of_concat, ih]

theorem mem_names_step {name : String} (h : name ∈ (trail.step segment).names) :
    name ∈ trail.names ∨ name = segment ∧ goesBelow segment = true := by
  rcases segment_cases segment with hname | rfl | hbelow
  · rw [step_of_not_isName hname] at h
    exact Or.inl h
  · obtain ⟨climbs, names⟩ := trail
    rcases List.eq_nil_or_concat names with rfl | ⟨front, last, rfl⟩
    · rw [step_dots_of_nil] at h
      exact Or.inl h
    · rw [List.concat_eq_append, step_dots_of_concat] at h
      exact Or.inl (by simp [h])
  · rw [step_of_goesBelow hbelow, List.mem_append, List.mem_singleton] at h
    rcases h with h | h
    · exact Or.inl h
    · exact Or.inr ⟨h, hbelow⟩

theorem mem_names_foldl {walked : List String} {name : String}
    (h : name ∈ (walked.foldl step trail).names) :
    name ∈ trail.names ∨ name ∈ walked ∧ goesBelow name = true := by
  induction walked generalizing trail with
  | nil => exact Or.inl h
  | cons segment rest ih =>
    rcases ih h with h | ⟨h, hbelow⟩
    · rcases mem_names_step h with h | ⟨rfl, hbelow⟩
      · exact Or.inl h
      · exact Or.inr ⟨List.mem_cons_self, hbelow⟩
    · exact Or.inr ⟨List.mem_cons_of_mem _ h, hbelow⟩

/-- A walk is only below names among its segments. -/
theorem mem_names_along {walked : List String} {name : String} (h : name ∈ (along walked).names) :
    name ∈ walked ∧ goesBelow name = true := by
  rcases mem_names_foldl h with h | h
  · simp at h
  · exact h

/-! ## Climbing above the start -/

/-- Somewhere along the segments there were more climbs than names gone below: the walk was
above where it started. -/
def LeavesStart (walked : List String) : Prop :=
  ∃ front, front <+: walked ∧ front.countP goesBelow < front.count ".."

theorem exists_prefix_cons_iff {α : Type} {P : List α → Prop} (first : α) (rest : List α) :
    (∃ front, front <+: first :: rest ∧ P front) ↔
      P [] ∨ ∃ front, front <+: rest ∧ P (first :: front) := by
  constructor
  · rintro ⟨front, hfront, h⟩
    rcases List.prefix_cons_iff.mp hfront with rfl | ⟨more, rfl, hmore⟩
    · exact Or.inl h
    · exact Or.inr ⟨more, hmore, h⟩
  · rintro (h | ⟨front, hfront, h⟩)
    · exact ⟨[], List.nil_prefix, h⟩
    · exact ⟨first :: front, List.cons_prefix_cons.mpr ⟨rfl, hfront⟩, h⟩

theorem climbs_le_foldl (walked : List String) (trail : Trail) :
    trail.climbs ≤ (walked.foldl step trail).climbs := by
  induction walked generalizing trail with
  | nil => exact Nat.le_refl _
  | cons segment rest ih =>
    apply Nat.le_trans _ (ih (trail.step segment))
    unfold step
    split_ifs <;> simp

/-- A walk climbs just if some stretch of it, from its start on, has more climbs than the names
before it and along it. -/
theorem climbs_lt_foldl_iff (walked : List String) (trail : Trail) :
    trail.climbs < (walked.foldl step trail).climbs ↔ ∃ front, front <+: walked ∧
      trail.names.length + front.countP goesBelow < front.count ".." := by
  induction walked generalizing trail with
  | nil => simp
  | cons segment rest ih =>
    rw [exists_prefix_cons_iff, List.foldl_cons]
    simp only [List.countP_nil, List.count_nil, Nat.not_lt_zero, false_or]
    obtain ⟨climbs, names⟩ := trail
    rcases segment_cases segment with hname | rfl | hbelow
    · have hbelow : goesBelow segment = false :=
        Bool.eq_false_iff.mpr fun h => by simp [isName_of_goesBelow h] at hname
      have hdots : segment ≠ ".." := by
        rintro rfl
        exact absurd hname (by decide)
      rw [step_of_not_isName hname, ih]
      simp [hbelow, hdots]
    · have hbelow : goesBelow ".." = false := by decide
      rcases List.eq_nil_or_concat names with rfl | ⟨front, last, rfl⟩
      · -- There is nothing to take back, so this very step climbs.
        rw [step_dots_of_nil]
        have hle := climbs_le_foldl rest ⟨climbs + 1, []⟩
        refine ⟨fun _ => ⟨[], List.nil_prefix, by simp [hbelow]⟩, fun _ => ?_⟩
        dsimp only at hle ⊢
        omega
      · rw [List.concat_eq_append, step_dots_of_concat]
        apply (ih ⟨climbs, front⟩).trans
        simp only [List.countP_cons, hbelow, List.count_cons_self, List.length_append,
          List.length_singleton, Bool.false_eq_true, if_false]
        apply exists_congr
        intro more
        apply and_congr_right
        intro _
        omega
    · rw [step_of_goesBelow hbelow]
      apply (ih ⟨climbs, names ++ [segment]⟩).trans
      simp only [List.countP_cons, hbelow, List.count_cons_of_ne (ne_dots_of_goesBelow hbelow),
        List.length_append, List.length_singleton, if_true]
      apply exists_congr
      intro more
      apply and_congr_right
      intro _
      omega

/-- A walk has climbed just if it was above where it started. -/
theorem climbs_pos_iff (walked : List String) : 0 < (along walked).climbs ↔ LeavesStart walked := by
  unfold along LeavesStart
  rw [climbs_lt_foldl_iff walked ⟨0, []⟩]
  simp

/-! ## The collapsed path -/

/-- The segments that a trail is written with: its climbs, and then its names. -/
def parts (trail : Trail) : List String := List.replicate trail.climbs ".." ++ trail.names

theorem push_parts (hdots : ".." ∉ trail.names) (hname : Path.isName segment = true) :
    Path.push false trail.parts.reverse segment = (trail.step segment).parts.reverse := by
  rcases segment_cases segment with h | rfl | hbelow
  · rw [h] at hname
    cases hname
  · obtain ⟨climbs, names⟩ := trail
    rcases List.eq_nil_or_concat names with rfl | ⟨front, last, rfl⟩
    · rw [step_dots_of_nil]
      simp only [parts, List.append_nil, List.reverse_replicate]
      cases climbs with
      | zero => rfl
      | succ climbs => simp [Path.push, List.replicate_succ]
    · have hlast : last ≠ ".." := by
        rintro rfl
        simp at hdots
      rw [List.concat_eq_append, step_dots_of_concat]
      simp [parts, Path.push, hlast]
  · rw [step_of_goesBelow hbelow, Path.push_of_ne_dots _ _ (ne_dots_of_goesBelow hbelow)]
    simp [parts]

theorem foldl_push_parts (walked : List String) (hdots : ".." ∉ trail.names) :
    (walked.filter Path.isName).foldl (Path.push false) trail.parts.reverse =
      (walked.foldl step trail).parts.reverse := by
  induction walked generalizing trail with
  | nil => rfl
  | cons segment rest ih =>
    have hstep : ".." ∉ (trail.step segment).names := by
      intro hm
      rcases mem_names_step hm with hm | ⟨rfl, hbelow⟩
      · exact hdots hm
      · exact ne_dots_of_goesBelow hbelow rfl
    rw [List.foldl_cons]
    by_cases hname : Path.isName segment = true
    · rw [List.filter_cons_of_pos hname, List.foldl_cons, push_parts hdots hname, ih hstep]
    · rw [Bool.not_eq_true] at hname
      rw [List.filter_cons_of_neg (by simp [hname]), step_of_not_isName hname, ih hdots]

/-- A relative path collapses to where the walk through its segments leads. -/
theorem collapse_eq (walked : List String) :
    (Path.mk .relative (walked.filter Path.isName)).collapse = ⟨.relative, (along walked).parts⟩ := by
  have hstart : (Trail.mk 0 []).parts.reverse = [] := rfl
  rw [Path.collapse_relative, ← hstart, foldl_push_parts walked (by simp), List.reverse_reverse]
  rfl

end Trail

end SourceNames
