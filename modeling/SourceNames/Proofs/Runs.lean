-- How a run ends. A result of two steps in a row is a result of the second step, after the
-- first one gave what the second one starts from.

import SourceNames.Session

namespace SourceNames

/-- How two runs ended can be compared, so that a run on a small tree can be decided. -/
instance decidableEqExcept {ε α : Type} [DecidableEq ε] [DecidableEq α] :
    DecidableEq (Except ε α)
  | .ok a, .ok b => decidable_of_iff (a = b) (by simp)
  | .error e, .error e' => decidable_of_iff (e = e') (by simp)
  | .ok _, .error _ | .error _, .ok _ => isFalse (by simp)

variable {α β : Type}

theorem eq_ok_of_toOption {ε : Type} {outcome : Except ε α} {a : α}
    (h : outcome.toOption = some a) : outcome = .ok a := by
  cases outcome with
  | error fault => simp [Except.toOption] at h
  | ok b => simpa [Except.toOption] using h

namespace Run

/-! ## Steps in a session -/

@[simp]
theorem within_pure (a : α) (session : Session) :
    Run.within (pure a) session = (.ok a, session) := rfl

@[simp]
theorem within_throw (fault : Fault) (session : Session) :
    Run.within (throw fault : Run α) session = (.error fault, session) := rfl

theorem within_bind (work : Run α) (next : α → Run β) (session : Session) :
    (work >>= next).within session =
      match work.within session with
      | (.ok a, after) => (next a).within after
      | (.error fault, after) => (.error fault, after) := by
  unfold Run.within
  simp only [bind, ExceptT.bind, ExceptT.run, ExceptT.mk, StateT.bind, StateT.run]
  rcases work session with ⟨outcome, after⟩
  cases outcome <;> rfl

theorem within_tryCatch (work : Run α) (handler : Fault → Run α) (session : Session) :
    (tryCatch work handler).within session =
      match work.within session with
      | (.ok a, after) => (.ok a, after)
      | (.error fault, after) => (handler fault).within after := by
  unfold Run.within
  simp only [tryCatch, tryCatchThe, MonadExceptOf.tryCatch, ExceptT.tryCatch, ExceptT.run,
    ExceptT.mk, bind, StateT.bind, StateT.run]
  rcases work session with ⟨outcome, after⟩
  cases outcome <;> rfl

theorem within_tryCatch_error_iff {work : Run α} {handler : Fault → Run α} {session : Session}
    {fault : Fault} :
    ((tryCatch work handler).within session).1 = .error fault ↔
      ∃ caught, (work.within session).1 = .error caught ∧
        ((handler caught).within (work.within session).2).1 = .error fault := by
  rw [within_tryCatch]
  rcases work.within session with ⟨outcome, after⟩
  cases outcome <;> simp

@[simp]
theorem within_answer (outcome : Except Fault α) (session : Session) :
    (answer outcome).within session = (outcome, session) := by
  cases outcome <;> rfl

@[simp]
theorem within_record (event : Event) (session : Session) :
    (record event).within session =
      (.ok (), { session with journal := session.journal ++ [event] }) := rfl

@[simp]
theorem within_parseWith (parser : SourceParser) (source path : String) (session : Session) :
    (parseWith parser source path).within session =
      (.ok (parser source path session.memo).1,
        { memo := (parser source path session.memo).2,
          journal := session.journal ++ [.askedParser source path] }) := rfl

/-- Two steps in a row end with a fault of the first one, or with one of the second one. -/
theorem within_bind_error_iff {work : Run α} {next : α → Run β} {session : Session}
    {fault : Fault} :
    ((work >>= next).within session).1 = .error fault ↔
      (work.within session).1 = .error fault ∨ ∃ a, (work.within session).1 = .ok a ∧
        ((next a).within (work.within session).2).1 = .error fault := by
  rw [within_bind]
  rcases work.within session with ⟨outcome, after⟩
  cases outcome <;> simp

theorem within_answer_bind_error_iff {outcome : Except Fault α} {next : α → Run β}
    {session : Session} {fault : Fault} :
    ((answer outcome >>= next).within session).1 = .error fault ↔
      outcome = .error fault ∨ ∃ a, outcome = .ok a ∧
        ((next a).within session).1 = .error fault := by
  rw [within_bind_error_iff, within_answer]

/-- A check stops the work after it, or lets it go on. -/
theorem within_check_error_iff {outcome : Except Fault Unit} {next : Unit → Run β}
    {session : Session} {fault : Fault} :
    ((answer outcome >>= next).within session).1 = .error fault ↔
      outcome = .error fault ∨ outcome = .ok () ∧
        ((next ()).within session).1 = .error fault := by
  rw [within_answer_bind_error_iff]
  exact or_congr_right ⟨fun ⟨_, h⟩ => h, fun h => ⟨(), h⟩⟩

/-- A question that was answered leaves only the work after it. -/
theorem within_answer_bind {outcome : Except Fault α} {a : α} (h : outcome = .ok a)
    (next : α → Run β) (session : Session) :
    (answer outcome >>= next).within session = (next a).within session := by
  rw [within_bind, within_answer, h]

theorem within_record_bind (event : Event) (next : Unit → Run β) (session : Session) :
    (record event >>= next).within session =
      (next ()).within { session with journal := session.journal ++ [event] } := by
  rw [within_bind, within_record]

/-! ## What work can give -/

/-- In some session the work ends with the result. -/
def Gives (work : Run α) (a : α) : Prop :=
  ∃ session, (work.within session).1 = .ok a

/-- What one run ends with, the work can give. -/
theorem gives_of_within {work : Run α} {a : α} (session : Session)
    (h : (work.within session).1.toOption = some a) : work.Gives a :=
  ⟨session, eq_ok_of_toOption h⟩

theorem gives_pure {a b : α} (h : Gives (pure a) b) : b = a := by
  obtain ⟨session, h⟩ := h
  simpa using h.symm

theorem not_gives_throw {fault : Fault} {a : α} : ¬ Gives (throw fault) a := by
  rintro ⟨session, h⟩
  simp at h

theorem gives_answer {outcome : Except Fault α} {a : α} (h : (answer outcome).Gives a) :
    outcome = .ok a := by
  obtain ⟨session, h⟩ := h
  simpa using h

/-- A result of two steps in a row. -/
theorem gives_bind {work : Run α} {next : α → Run β} {b : β} (h : (work >>= next).Gives b) :
    ∃ a, work.Gives a ∧ (next a).Gives b := by
  obtain ⟨session, h⟩ := h
  rw [within_bind] at h
  rcases hw : work.within session with ⟨outcome, after⟩
  rw [hw] at h
  cases outcome with
  | error fault => simp at h
  | ok a => exact ⟨a, ⟨session, by rw [hw]⟩, ⟨after, h⟩⟩

/-- A question to the machine or a collaborator, and the work after it. -/
theorem gives_answer_bind {outcome : Except Fault α} {next : α → Run β} {b : β}
    (h : (answer outcome >>= next).Gives b) : ∃ a, outcome = .ok a ∧ (next a).Gives b := by
  obtain ⟨a, ha, hb⟩ := gives_bind h
  exact ⟨a, gives_answer ha, hb⟩

/-- If whatever is caught is thrown again, a result is one of the work itself. -/
theorem gives_of_tryCatch {work : Run α} {handler : Fault → Run α} {a : α}
    (hthrows : ∀ fault, ¬ (handler fault).Gives a) (h : (tryCatch work handler).Gives a) :
    work.Gives a := by
  obtain ⟨session, h⟩ := h
  rw [within_tryCatch] at h
  rcases hw : work.within session with ⟨outcome, after⟩
  rw [hw] at h
  cases outcome with
  | error fault => exact absurd ⟨after, h⟩ (hthrows fault)
  | ok b => exact ⟨session, by rw [hw]; exact h⟩

end Run

end SourceNames
