import CancellationPolicy.Command.Script

/-!
# Runs of scripts

A script and what follows it run one after the other (`run_bind`), so that a successful run
is one successful run after another (`exists_of_run_bind`).  A script that only reads
(`OnlyReads`) leaves a session as it found it, and its result is a matter of the files
alone (`OnlyReads.run_eq`).
-/

namespace CancellationPolicy.Command.Script

variable {α β : Type} {x : Script α} {k : α → Script β} {s s' : Session}

/-! ### One script after another -/

/-- A script behind another one starts where that one ends, and does not start if it fails. -/
theorem run_bind (x : Script α) (k : α → Script β) (s : Session) :
    (x >>= k).run s = match x.run s with
      | (s', .ok a) => (k a).run s'
      | (s', .error f) => (s', .error f) := by
  -- a step does the same to the session in front of a bind as without one
  induction x generalizing s with
  | done a => rfl
  | fail f => rfl
  | read p next ih => exact ih _ s
  | write p t next ih => exact ih _ _
  | makeFoldersAround p next ih => exact ih _ _
  | holds p next ih => exact ih _ s
  | input next ih => exact ih _ _
  | print l next ih => exact ih _
  | note l next ih => exact ih _

theorem run_bind_of_ok {a : α} (h : x.run s = (s', .ok a)) : (x >>= k).run s = (k a).run s' := by
  rw [run_bind, h]

/-- What a successful run consists of. -/
theorem exists_of_run_bind {b : β} (h : (x >>= k).run s = (s', .ok b)) :
    ∃ t a, x.run s = (t, .ok a) ∧ (k a).run t = (s', .ok b) := by
  rw [run_bind] at h
  match hx : x.run s with
  | (t, .ok a) =>
    rw [hx] at h
    exact ⟨t, a, rfl, h⟩
  | (t, .error f) =>
    rw [hx] at h
    simp at h

@[simp] theorem run_pure (a : α) : (pure a : Script α).run s = (s, .ok a) := rfl

@[simp] theorem run_fail (f : Failure) : (fail f : Script α).run s = (s, .error f) := rfl

@[simp] theorem run_noteLine (line : String) :
    (noteLine line).run s = ({ s with noted := s.noted ++ [line] }, .ok ()) := rfl

/-! ### Scripts that only read -/

/-- The script asks the files, and changes nothing. -/
inductive OnlyReads : Script α → Prop where
  | done (a : α) : OnlyReads (done a)
  | fail (f : Failure) : OnlyReads (fail f)
  | read {p : String} {next : Except Storage.Error String → Script α}
    (h : ∀ r, OnlyReads (next r)) : OnlyReads (read p next)
  | holds {p : String} {next : Bool → Script α} (h : ∀ r, OnlyReads (next r)) :
    OnlyReads (holds p next)

/-- The result of a script on the files of a folder, with nothing as its input. -/
def answer (f : Storage.Folder) (x : Script α) : Except Failure α := (x.run (.start f "")).2

namespace OnlyReads

/-- What only reads and goes on with what only reads, only reads. -/
theorem bind (hx : x.OnlyReads) (hk : ∀ a, (k a).OnlyReads) : (x >>= k).OnlyReads := by
  induction hx with
  | done a => exact hk a
  | fail f => exact .fail f
  | read _ ih => exact .read ih
  | holds _ ih => exact .holds ih

theorem pure (a : α) : (Pure.pure a : Script α).OnlyReads := .done a

theorem readFile (path : String) : (Script.readFile path).OnlyReads := .read .done

theorem isThere (path : String) : (Script.isThere path).OnlyReads := .holds .done

theorem orFail {ε : Type} (wrap : ε → Failure) (r : Except ε α) :
    (Script.orFail wrap r).OnlyReads := by
  cases r with
  | ok a => exact .done a
  | error e => exact .fail (wrap e)

/-- A script that only reads leaves the session as it is, and the files decide its result. -/
theorem run_eq (h : x.OnlyReads) (s : Session) : x.run s = (s, x.answer s.folder) := by
  induction h with
  | done a => rfl
  | fail f => rfl
  | read _ ih => exact ih _
  | holds _ ih => exact ih _

theorem run_of_answer {a : α} (h : x.OnlyReads) (ha : x.answer s.folder = .ok a) :
    x.run s = (s, .ok a) := by
  rw [h.run_eq s, ha]

/-- A successful run gives what is in the folder. -/
theorem answer_of_run {a : α} (h : x.OnlyReads) (hrun : x.run s = (s', .ok a)) :
    s' = s ∧ x.answer s.folder = .ok a := by
  rw [h.run_eq s, Prod.mk.injEq] at hrun
  exact ⟨hrun.1.symm, hrun.2⟩

end OnlyReads

end CancellationPolicy.Command.Script
