-- Which source names are refused, and as what. The form of a name is told by its characters
-- and segments alone, and a resolution is refused for the form of its name just if the name is
-- malformed, before anything is looked up.

import SourceNames.Proofs.ImportFailures

namespace SourceNames

/-! ## The grammar of names -/

/-- What is wrong with the form of a name: it starts with a slash, else with a dot, else it holds
a backslash, else one of its segments is empty or made of one dot or two. -/
inductive Malformed (name : String) : Failure → Prop
  | absolute : beginsWith "/" name = true → Malformed name (.absolutePath name)
  | relative : beginsWith "/" name = false → beginsWith "." name = true →
      Malformed name (.relativePath name)
  | backslash : beginsWith "/" name = false → beginsWith "." name = false →
      '\\' ∈ name.toList → Malformed name (.backslashes name)
  | improper {segment : String} : beginsWith "/" name = false → beginsWith "." name = false →
      '\\' ∉ name.toList → segment ∈ segments name →
      segment = "" ∨ segment = "." ∨ segment = ".." → Malformed name (.notNormalized name)

variable {name : String} {f : Failure} {fault : Fault}

/-- The empty name has an empty segment. -/
theorem isSourceName_iff : IsSourceName name ↔
    beginsWith "/" name = false ∧ beginsWith "." name = false ∧ '\\' ∉ name.toList ∧
      ∀ segment ∈ segments name, segment ≠ "" ∧ segment ≠ "." ∧ segment ≠ ".." := by
  constructor
  · intro h
    exact ⟨h.not_absolute, h.not_relative, h.no_backslash, h.proper⟩
  · rintro ⟨habsolute, hrelative, hbackslash, hproper⟩
    refine ⟨?_, habsolute, hrelative, hbackslash, hproper⟩
    rintro rfl
    exact (hproper "" (by decide)).1 rfl

/-- Of the names that start with neither a slash nor a dot and hold no backslash, those that have
an improper segment are just those that are not their own normal form. -/
theorem normalize_ne_iff (habsolute : beginsWith "/" name = false)
    (hrelative : beginsWith "." name = false) (hbackslash : '\\' ∉ name.toList) :
    normalize name ≠ name ↔
      ∃ segment ∈ segments name, segment = "" ∨ segment = "." ∨ segment = ".." := by
  -- What else the check asks of a name is given, so it is the question of the normal form.
  have hvalid : validate name = .ok () ↔ normalize name = name := by
    have hcontains : ¬ name.toList.contains '\\' = true := by simpa using hbackslash
    unfold validate nameFailure?
    simp only [habsolute, hrelative, hcontains, Bool.false_eq_true, if_false]
    by_cases hnormal : normalize name = name <;> simp [hnormal]
  rw [ne_eq, ← hvalid, validate_eq_ok_iff, isSourceName_iff]
  simp only [habsolute, hrelative, hbackslash, not_false_eq_true, true_and, not_forall,
    exists_prop]
  refine exists_congr fun segment => and_congr_right fun _ => ?_
  simp only [ne_eq, ← not_or, not_not]

theorem nameFailure?_eq_some_iff : nameFailure? name = some f ↔ Malformed name f := by
  unfold nameFailure?
  constructor
  · intro h
    split_ifs at h with habsolute hrelative hbackslash hnormal
    · cases h
      exact .absolute habsolute
    · cases h
      exact .relative (by simpa using habsolute) hrelative
    · cases h
      exact .backslash (by simpa using habsolute) (by simpa using hrelative)
        (by simpa using hbackslash)
    · cases h
      simp only [Bool.not_eq_true] at habsolute hrelative
      have hno : '\\' ∉ name.toList := by simpa using hbackslash
      obtain ⟨segment, hsegment, himproper⟩ :=
        (normalize_ne_iff habsolute hrelative hno).mp hnormal
      exact .improper habsolute hrelative hno hsegment himproper
  · intro h
    cases h with
    | absolute habsolute => simp [habsolute]
    | relative habsolute hrelative => simp [habsolute, hrelative]
    | backslash habsolute hrelative hbackslash => simp [habsolute, hrelative, hbackslash]
    | improper habsolute hrelative hbackslash hsegment himproper =>
      have hnormal := (normalize_ne_iff habsolute hrelative hbackslash).mpr
        ⟨_, hsegment, himproper⟩
      simp [habsolute, hrelative, hbackslash, hnormal]

theorem validate_error_iff_malformed :
    validate name = .error fault ↔ ∃ f, Malformed name f ∧ fault = .of f := by
  simp only [validate_error_iff, nameFailure?_eq_some_iff]

/-! ## Refused resolutions -/

/-- Whether a fault is that a source name is malformed. -/
def Fault.isOfForm : Fault → Bool
  | .failed f _ => f.family == .sourceName
  | _ => false

theorem isOfForm_of_class (h : fault.class ≠ .resolution) : fault.isOfForm = false := by
  cases fault with
  | failed f cause => exact absurd rfl h
  | _ => rfl

theorem Malformed.isOfForm (h : Malformed name f) : (Fault.of f).isOfForm = true := by
  cases h <;> rfl

/-- A finder looks for packages. Whatever stops it, it does not claim that a source name is
malformed. -/
def PackageFinder.TellsOfNoForm (finder : PackageFinder) : Prop :=
  ∀ host library directory fault, finder host library directory = .error fault →
    fault.isOfForm = false

theorem modulesFinder_tellsOfNoForm (extra : List Path) : (modulesFinder extra).TellsOfNoForm :=
  fun _ _ _ _ h => isOfForm_of_class (class_of_searchModules h)

namespace Resolver

variable {r : Resolver} {host : Host}

/-- A malformed name is refused at once: nothing is asked or written down. -/
theorem resolveSourceName_of_malformed (h : Malformed name f) (session : Session) :
    (r.resolveSourceName host name).within session = (.error (.of f), session) := by
  unfold resolveSourceName resolveWith
  rw [Run.within_bind, Run.within_answer, validate_error_iff_malformed.mpr ⟨f, h, rfl⟩]

/-- A fault about the form of a name comes from the check of the name. -/
theorem StoppedBy.malformed_of_isOfForm (hfinder : r.finder.TellsOfNoForm)
    (h : r.StoppedBy host name fault) (hform : fault.isOfForm = true) :
    ∃ f, Malformed name f ∧ fault = .of f := by
  cases h.nameFault with
  | malformed hf => exact ⟨_, nameFailure?_eq_some_iff.mp hf, rfl⟩
  | notThere | misspelled | notInstalled => cases hform
  | finder hfind => rw [hfinder _ _ _ _ hfind] at hform; cases hform
  | other hclass => rw [isOfForm_of_class hclass] at hform; cases hform

/-- A name is accepted just if it follows the grammar. Else it is refused with the first of its
defects, and a resolution is refused for the form of a name in just these cases, on any disk and
with the same failure. -/
theorem a_name_is_refused_by_its_text_alone (name : String) :
    (validate name = .ok () ↔
      beginsWith "/" name = false ∧ beginsWith "." name = false ∧ '\\' ∉ name.toList ∧
        ∀ segment ∈ segments name, segment ≠ "" ∧ segment ≠ "." ∧ segment ≠ "..") ∧
      (∀ fault, validate name = .error fault ↔ ∃ f, Malformed name f ∧ fault = .of f) ∧
      ∀ (r : Resolver) (host : Host) (session : Session),
        (∀ f, Malformed name f →
          (r.resolveSourceName host name).within session = (.error (.of f), session)) ∧
        (r.finder.TellsOfNoForm → ∀ fault,
          (((r.resolveSourceName host name).within session).1 = .error fault ∧
              fault.isOfForm = true ↔ ∃ f, Malformed name f ∧ fault = .of f)) := by
  refine ⟨validate_eq_ok_iff.trans isSourceName_iff, fun _ => validate_error_iff_malformed, ?_⟩
  intro r host session
  refine ⟨fun f h => resolveSourceName_of_malformed h session, fun hfinder fault => ?_⟩
  constructor
  · rintro ⟨hended, hform⟩
    exact ((resolveSourceName_error_iff session).mp hended).malformed_of_isOfForm hfinder hform
  · rintro ⟨f, hmalformed, rfl⟩
    rw [resolveSourceName_of_malformed hmalformed session]
    exact ⟨rfl, hmalformed.isOfForm⟩

/-- A name with several defects is refused for the first of them. -/
theorem a_climbing_name_with_a_backslash_is_relative :
    let name := "../lib\\/x.sol"
    Malformed name (.relativePath name) ∧ searchingResolver.finder.TellsOfNoForm ∧
      (searchingResolver.resolveSourceName shadowedHost name).within (.start .usual) =
        (.error (.of (.relativePath name)), .start .usual) ∧
      ∀ fault,
        (((searchingResolver.resolveSourceName shadowedHost name).within (.start .usual)).1 =
            .error fault ∧ fault.isOfForm = true ↔
          ∃ f, Malformed name f ∧ fault = .of f) := by
  intro name
  have hmalformed : Malformed name (.relativePath name) := .relative (by decide) (by decide)
  have hfinder : searchingResolver.finder.TellsOfNoForm := modulesFinder_tellsOfNoForm []
  obtain ⟨hrefused, hexact⟩ := (a_name_is_refused_by_its_text_alone name).2.2 searchingResolver
    shadowedHost (.start .usual)
  exact ⟨hmalformed, hfinder, hrefused _ hmalformed, hexact hfinder⟩

end Resolver

end SourceNames
