import CancellationPolicy.Csv
import Mathlib.Tactic.SplitIfs

/-!
# Tables are read as they are written

A reader of tables takes one character after the other (`Reading.step`).  What it
takes of a value that is written is the value (`foldl_step_value`), so it takes the
values of a row (`foldl_step_row`) and the rows of a table (`read?_join_row`).
-/

namespace CancellationPolicy.Csv

/-! ### The reader -/

/-- Where a reader is in a value. -/
inductive Mode where
  /-- In a value without quotes, or in front of one. -/
  | bare
  /-- Between quotes. -/
  | quoted
  /-- Behind a quote that ends the value, unless another one follows. -/
  | closed
  deriving DecidableEq

/-- What has been read of a table. -/
structure Reading where
  /-- The rows before this one. -/
  rows : List (List String)
  /-- The values of the row before this one. -/
  values : List String
  /-- The characters of the value. -/
  letters : List Char
  /-- Where the reader is in the value. -/
  mode : Mode
  deriving DecidableEq

namespace Reading

/-- Nothing has been read but rows. -/
def after (rows : List (List String)) : Reading := ⟨rows, [], [], .bare⟩

/-- The value ends. -/
def endValue (r : Reading) : Reading :=
  ⟨r.rows, r.values ++ [String.ofList r.letters], [], .bare⟩

/-- The row ends with the value. -/
def endRow (r : Reading) : Reading := after (r.rows ++ [r.endValue.values])

/-- The value goes on. -/
def push (r : Reading) (c : Char) : Reading := { r with letters := r.letters ++ [c] }

/-- Reads a character. -/
def step (r : Reading) (c : Char) : Reading :=
  if r.mode = .quoted then
    if c = '"' then { r with mode := .closed } else r.push c
  else if c = ',' then r.endValue
  else if c = '\n' then r.endRow
  else if c = '"' then { if r.mode = .closed then r.push c else r with mode := .quoted }
  else r.push c

end Reading

/-- The rows of a table, if the last one is complete. -/
def read? (text : String) : Option (List (List String)) :=
  let r := text.toList.foldl Reading.step (.after [])
  if r = .after r.rows then some r.rows else none

/-! ### Values -/

open Reading

/-- Without quotes, characters that are no marks stand for themselves. -/
theorem foldl_step_bare {cs : List Char} (h : cs.any isMark = false) (r : Reading)
    (hr : r.mode = .bare) : cs.foldl step r = { r with letters := r.letters ++ cs } := by
  induction cs generalizing r with
  | nil => simp
  | cons c cs ih =>
    simp only [List.any_cons, Bool.or_eq_false_iff, isMark, decide_eq_false_iff_not] at h
    obtain ⟨⟨⟨⟨hcomma, hquote⟩, hline⟩, -⟩, hcs⟩ := h
    have hstep : step r c = r.push c := by simp [step, hr, hcomma, hline, hquote]
    rw [List.foldl_cons, hstep, ih hcs (r.push c) hr]
    simp [push]

/-- Between quotes, two quotes stand for one, and any other character for itself. -/
theorem foldl_step_quoted (cs : List Char) (r : Reading) (hr : r.mode = .quoted) :
    (cs.flatMap fun c => if c = '"' then ['"', '"'] else [c]).foldl step r =
      { r with letters := r.letters ++ cs } := by
  induction cs generalizing r with
  | nil => simp
  | cons c cs ih =>
    have hstep : (if c = '"' then ['"', '"'] else [c]).foldl step r = r.push c := by
      split_ifs with hc
      · obtain ⟨rows, values, letters, mode⟩ := r
        subst hc hr
        rfl
      · simp [step, hr, hc]
    rw [List.flatMap_cons, List.foldl_append, hstep, ih (r.push c) hr]
    simp [push]

/-- At the end of a value the reader is not between quotes. -/
theorem foldl_step_value (s : String) (rows : List (List String)) (values : List String) :
    ∃ mode, mode ≠ .quoted ∧
      (value s).toList.foldl step ⟨rows, values, [], .bare⟩ = ⟨rows, values, s.toList, mode⟩ := by
  simp only [value]
  split_ifs with h
  · refine ⟨.closed, by decide, ?_⟩
    -- the value has a mark and stands between quotes
    have hopen : step ⟨rows, values, [], .bare⟩ '"' = ⟨rows, values, [], .quoted⟩ := rfl
    rw [String.toList_ofList, List.cons_append, List.foldl_cons, hopen, List.foldl_append,
      foldl_step_quoted _ _ rfl]
    rfl
  -- the value has no mark and stands as it is
  · refine ⟨.bare, by decide, ?_⟩
    rw [foldl_step_bare (by simpa using h) _ rfl]
    rfl

/-! ### Rows -/

/-- The values of a row are read up to the end of the line. -/
theorem foldl_step_values {vs : List String} (hvs : vs ≠ []) (rows : List (List String))
    (values : List String) :
    ((",".intercalate (vs.map value)).toList ++ ['\n']).foldl step ⟨rows, values, [], .bare⟩ =
      .after (rows ++ [values ++ vs]) := by
  -- each value is complete with the character behind it: a comma, or the end of the line
  induction vs generalizing values with
  | nil => exact absurd rfl hvs
  | cons v vs ih =>
    obtain ⟨mode, hmode, hvalue⟩ := foldl_step_value v rows values
    cases vs with
    | nil =>
      have hend : step ⟨rows, values, v.toList, mode⟩ '\n' = .after (rows ++ [values ++ [v]]) := by
        simp [step, hmode, endRow, endValue]
      rw [List.map_cons, List.map_nil, String.intercalate_singleton, List.foldl_append, hvalue]
      exact hend
    | cons w vs =>
      have hcomma : step ⟨rows, values, v.toList, mode⟩ ',' = ⟨rows, values ++ [v], [], .bare⟩ := by
        simp [step, hmode, endValue]
      have htail := ih (by simp) (values ++ [v])
      rw [List.append_assoc, List.singleton_append, List.map_cons] at htail
      rw [List.map_cons, List.map_cons, String.intercalate_cons_cons, String.toList_append,
        String.toList_append, List.append_assoc, List.append_assoc, List.foldl_append, hvalue]
      exact (congrArg (List.foldl step · _) hcomma).trans htail

/-- A row that is written is read behind the rows before it. -/
theorem foldl_step_row {vs : List String} (hvs : vs ≠ []) (rows : List (List String)) :
    (row vs).toList.foldl step (.after rows) = .after (rows ++ [vs]) := by
  rw [row, String.toList_append]
  exact foldl_step_values hvs rows []

/-- A table is read as its rows, whatever is in its values. -/
theorem read?_join_row {table : List (List String)} (h : ∀ vs ∈ table, vs ≠ []) :
    read? (String.join (table.map row)) = some table := by
  -- rows that have been read do not change, so the induction is for any number of them
  have hfold (rows : List (List String)) :
      (table.flatMap fun vs => (row vs).toList).foldl step (.after rows) =
        .after (rows ++ table) := by
    induction table generalizing rows with
    | nil => simp
    | cons vs table ih =>
      rw [List.flatMap_cons, List.foldl_append, foldl_step_row (h vs List.mem_cons_self),
        ih (fun x hx => h x (List.mem_cons_of_mem _ hx)), List.append_assoc,
        List.singleton_append]
  rw [read?, String.toList_join, List.flatMap_map, hfold, List.nil_append]
  exact if_pos rfl

end CancellationPolicy.Csv
