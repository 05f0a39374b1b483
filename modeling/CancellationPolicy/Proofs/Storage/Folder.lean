import CancellationPolicy.Storage.Folder
import Mathlib.Tactic.SplitIfs

/-!
# Files that are written

A file that is written holds what was written (`read_of_write`). The other places are
as they were: what paths lead to (`locate_of_write`), what is read there
(`read_of_write_of_ne`), and whether a file can be written there (`IsWritable.of_write`).
-/

namespace CancellationPolicy.Storage.Folder

variable {f g : Folder} {path path' text text' : String} {place place' : List String}

/-! ### Files at places -/

/-- The place of the folder itself is that of a folder. -/
theorem ne_nil_of_ne_folder (h : f.entry? place ≠ some .folder) : place ≠ [] := by
  rintro rfl
  exact h rfl

theorem entry?_put_self (e : Entry) (h : place ≠ []) : entry? (f.put place e) place = some e := by
  have hbefore : (f.entries.filter (·.1 ≠ place)).find? (·.1 = place) = none := by simp
  rw [put, entry?, if_neg h, List.find?_append, hbefore]
  simp

theorem entry?_put_of_ne (e : Entry) (h : place' ≠ place) :
    entry? (f.put place e) place' = f.entry? place' := by
  have hlast : ([(place, e)] : List (List String × Entry)).find? (·.1 = place') = none := by
    simpa using h.symm
  rw [put, entry?, entry?, List.find?_append, hlast, Option.or_none, List.find?_filter]
  congr 3
  funext x
  -- who stands at the one place does not stand at the other
  by_cases hx : x.1 = place' <;> simp [hx, h]

/-- Who puts a file where there is no folder neither opens nor closes a way. -/
theorem walk?_put_eq_ok {c : Option String} (h : f.entry? place ≠ some .folder)
    (start steps stop : List String) :
    (f.put place (.file c)).walk? start steps = .ok stop ↔ f.walk? start steps = .ok stop := by
  induction steps generalizing start with
  | nil => rfl
  | cons s rest ih =>
    simp only [walk?]
    split_ifs with hhere haround hlong
    · exact ih start
    · exact ih start.dropLast
    · rfl
    · by_cases hs : start ++ [s] = place
      · -- the way does not go through the place: it holds no folder, before and after
        rw [hs, entry?_put_self _ (ne_nil_of_ne_folder h)]
        match hentry : f.entry? place with
        | none => simp
        | some (.file _) => simp
        | some .folder => exact absurd hentry h
      · rw [entry?_put_of_ne _ hs]
        match f.entry? (start ++ [s]) with
        | none => rfl
        | some (.file _) => rfl
        | some .folder => exact ih (start ++ [s])

/-- Nor does that change what paths lead to. -/
theorem locate_put_eq_ok {c : Option String} (h : f.entry? place ≠ some .folder) (path : String)
    (t : Target) : (f.put place (.file c)).locate path = .ok t ↔ f.locate path = .ok t := by
  have hinside : (f.put place (.file c)).inside? path = f.inside? path := rfl
  simp only [locate, hinside]
  split_ifs
  · rfl
  · rfl
  · rfl
  · match f.inside? path with
    | none => rfl
    | some inner =>
      match hlast : (Path.ofText inner).segments.getLast? with
      | none => simp only [hlast]
      | some s =>
        simp only [hlast]
        -- the way to the last segment goes through folders, and none has been put or replaced
        have hwalk := walk?_put_eq_ok (c := c) h [] (Path.ofText inner).segments.dropLast
        match hf : f.walk? [] (Path.ofText inner).segments.dropLast with
        | .ok around => rw [(hwalk around).2 hf]
        | .error e =>
          match hg : (f.put place (.file c)).walk? [] (Path.ofText inner).segments.dropLast with
          | .ok around =>
            rw [hwalk around, hf] at hg
            simp at hg
          | .error e' => simp

/-! ### Requests -/

/-- A text can be written where a path names a place that is no folder. -/
theorem write_eq_ok : f.write path text = .ok g ↔
    ∃ place, f.locate path = .ok (.named place false) ∧ f.entry? place ≠ some .folder ∧
      g = f.put place (.file (some text)) := by
  rw [write]
  match f.locate path with
  | .error e => simp
  | .ok .folder => simp
  | .ok (.named place true) => simp
  | .ok (.named place false) =>
    by_cases h : f.entry? place = some .folder
    · simp [h]
    · simp only [h, Bool.false_or, beq_iff_eq, if_false, Except.ok.injEq, Target.named.injEq,
        and_true, exists_eq_left', ne_eq, not_false_eq_true, true_and]
      exact eq_comm

/-- A text can be read where a path names a file that has it. -/
theorem read_eq_ok : f.read path = .ok text ↔
    ∃ place, f.locate path = .ok (.named place false) ∧
      f.entry? place = some (.file (some text)) := by
  rw [read]
  match f.locate path with
  | .error e => simp
  | .ok .folder => simp
  | .ok (.named place slash) =>
    match hentry : f.entry? place with
    | none => simp [hentry]
    | some .folder => simp [hentry]
    | some (.file none) => cases slash <;> simp [hentry]
    | some (.file (some t)) => cases slash <;> simp [hentry]

/-- Where a file can be read, there is something. -/
theorem holds_of_read (h : f.read path = .ok text) : f.holds path = true := by
  obtain ⟨place, hplace, hentry⟩ := read_eq_ok.1 h
  simp [holds, hplace, hentry]

/-- Writing does not change what paths name. -/
theorem locate_of_write (h : f.write path text = .ok g) (path' : String) (t : Target) :
    g.locate path' = .ok t ↔ f.locate path' = .ok t := by
  obtain ⟨place, -, hfolder, rfl⟩ := write_eq_ok.1 h
  exact locate_put_eq_ok hfolder path' t

/-- What is written is read. -/
theorem read_of_write (h : f.write path text = .ok g) : g.read path = .ok text := by
  obtain ⟨place, hplace, hfolder, rfl⟩ := write_eq_ok.1 h
  exact read_eq_ok.2 ⟨place, (locate_put_eq_ok hfolder path _).2 hplace,
    entry?_put_self _ (ne_nil_of_ne_folder hfolder)⟩

/-- What is read at another place is what was there. -/
theorem read_of_write_of_ne (h : f.write path text = .ok g)
    (hne : f.locate path' ≠ f.locate path) (hread : f.read path' = .ok text') :
    g.read path' = .ok text' := by
  obtain ⟨place, hplace, hfolder, rfl⟩ := write_eq_ok.1 h
  obtain ⟨place', hplace', hentry⟩ := read_eq_ok.1 hread
  have hother : place' ≠ place := by
    rintro rfl
    exact hne (hplace'.trans hplace.symm)
  exact read_eq_ok.2 ⟨place', (locate_put_eq_ok hfolder path' _).2 hplace',
    (entry?_put_of_ne _ hother).trans hentry⟩

/-- A file can be written at the path, whatever is to be in it. -/
def IsWritable (f : Folder) (path : String) : Prop := ∀ text, ∃ g, f.write path text = .ok g

theorem isWritable_of_locate (h : f.locate path = .ok (.named place false))
    (hfolder : f.entry? place ≠ some .folder) : f.IsWritable path :=
  fun _ => ⟨_, write_eq_ok.2 ⟨place, h, hfolder, rfl⟩⟩

/-- Where one text can be written, any text can. -/
theorem isWritable_of_write (h : f.write path text = .ok g) : f.IsWritable path := by
  obtain ⟨place, hplace, hfolder, -⟩ := write_eq_ok.1 h
  exact isWritable_of_locate hplace hfolder

/-- Writing a file leaves other paths writable. -/
theorem IsWritable.of_write (hw : f.write path text = .ok g) (h : f.IsWritable path') :
    g.IsWritable path' := by
  obtain ⟨_, hw'⟩ := h text
  obtain ⟨place', hplace', hfolder', -⟩ := write_eq_ok.1 hw'
  obtain ⟨place, -, hfolder, rfl⟩ := write_eq_ok.1 hw
  refine isWritable_of_locate ((locate_put_eq_ok hfolder path' _).2 hplace') ?_
  by_cases hsame : place' = place
  · rw [hsame, entry?_put_self _ (ne_nil_of_ne_folder hfolder)]
    simp
  · rwa [entry?_put_of_ne _ hsame]

end CancellationPolicy.Storage.Folder
