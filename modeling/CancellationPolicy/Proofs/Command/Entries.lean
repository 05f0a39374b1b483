import CancellationPolicy.Command.Batch
import CancellationPolicy.Proofs.Csv
import Mathlib.Order.Bounds.Defs

/-!
# The entries of a batch

Each record gives one entry (`getElem?_entries`), which is a report if the record has a
text and says what is wrong with it else (`toJson_of_text`, `toJson_of_lacking`, and the
same for its row in the table).  The first fault is that of the least place without text
(`isLeast_of_firstFault?`).  Entries with reports that can be used and entries of records
without text are different ones, so they are not more than all (`accepted_add_failed_le`).
-/

namespace CancellationPolicy.Command.Batch

variable {scheme : Report.Scheme} {field : String} {records : List Json} {record : Json}
  {t : String} {i : Nat} {f : Fault}

/-! ### Texts of records -/

/-- The text that a record has under a name. -/
def text? (field : String) (record : Json) : Option String :=
  match record.member? field with
  | some (.text t) => some t
  | _ => none

theorem textOf_eq_ok : textOf field record = .ok t ↔ text? field record = some t := by
  unfold textOf text?
  split <;> simp_all

theorem exists_fault (h : text? field record = none) : ∃ f, textOf field record = .error f := by
  match htext : textOf field record with
  | .error f => exact ⟨f, rfl⟩
  | .ok t => simp [textOf_eq_ok.1 htext] at h

theorem lacks_of_fault (h : textOf field record = .error f) : text? field record = none := by
  match htext : text? field record with
  | none => rfl
  | some t => simp [textOf_eq_ok.2 htext] at h

/-- The texts of the records in a document, if it is a list. -/
def texts? (field : String) : Json → Option (List (Option String))
  | .array records => some (records.map (text? field))
  | _ => none

/-- A document with texts is a list of records, whose texts they are. -/
theorem exists_of_texts? {document : Json} {ts : List (Option String)}
    (h : texts? field document = some ts) :
    ∃ records, document = .array records ∧ records.map (text? field) = ts := by
  unfold texts? at h
  split at h
  · exact ⟨_, rfl, Option.some.inj h⟩
  · simp at h

/-! ### Entries -/

@[simp] theorem length_entries : (entries scheme field records).length = records.length :=
  List.length_mapIdx

theorem getElem?_entries :
    (entries scheme field records)[i]? = records[i]?.map (Entry.ofRecord scheme field i) :=
  List.getElem?_mapIdx

namespace Entry

theorem ofRecord_of_text (h : text? field record = some t) :
    ofRecord scheme field i record = ⟨i, .ok (.ofText scheme t)⟩ := by
  rw [ofRecord, textOf_eq_ok.2 h]
  rfl

theorem ofRecord_of_fault (h : textOf field record = .error f) :
    ofRecord scheme field i record = ⟨i, .error f⟩ := by
  rw [ofRecord, h]
  rfl

theorem fault?_eq_none :
    (ofRecord scheme field i record).fault? = none ↔ (text? field record).isSome := by
  match h : textOf field record with
  | .ok t => simp [ofRecord_of_text (textOf_eq_ok.1 h), fault?, textOf_eq_ok.1 h]
  | .error f => simp [ofRecord_of_fault h, fault?, lacks_of_fault h]

theorem fault?_eq_some : (ofRecord scheme field i record).fault? = some f ↔
    textOf field record = .error f := by
  match h : textOf field record with
  | .ok t => simp [ofRecord_of_text (textOf_eq_ok.1 h), fault?]
  | .error g => simp [ofRecord_of_fault h, fault?]

end Entry

/-! ### Faults -/

/-- The first fault is that of the first record without text. -/
theorem isLeast_of_firstFault? (h : firstFault? (entries scheme field records) = some (i, f)) :
    (∃ r, records[i]? = some r ∧ textOf field r = .error f) ∧
      IsLeast {j | ∃ r, records[j]? = some r ∧ text? field r = none} i := by
  obtain ⟨before, e, behind, hes, he, hbefore⟩ := List.findSome?_eq_some_iff.1 h
  -- the entry that is found stands at its own place
  have hplace : (entries scheme field records)[before.length]? = some e := by
    simp [hes]
  obtain ⟨r, hr, rfl⟩ := Option.map_eq_some_iff.1 (getElem?_entries.symm.trans hplace)
  obtain ⟨f', hf', hif⟩ := Option.map_eq_some_iff.1 he
  obtain ⟨rfl, rfl⟩ := Prod.mk.inj hif
  have hfault := Entry.fault?_eq_some.1 hf'
  refine ⟨⟨r, hr, hfault⟩, ⟨r, hr, lacks_of_fault hfault⟩, fun j hj => Nat.le_of_not_lt ?_⟩
  rintro (hlt : j < before.length)
  obtain ⟨r', hr', hlacks⟩ := hj
  have hmem : Entry.ofRecord scheme field j r' ∈ before := by
    refine List.mem_of_getElem? (i := j) ?_
    rw [← List.getElem?_append_left hlt, ← hes, getElem?_entries, hr', Option.map_some]
  -- an entry before the one that is found has no fault, so its record has a text
  have hnone := Entry.fault?_eq_none.1 (Option.map_eq_none_iff.1 (hbefore _ hmem))
  simp [hlacks] at hnone

/-- No fault is found exactly if all records have texts. -/
theorem firstFault?_eq_none : firstFault? (entries scheme field records) = none ↔
    ∀ r ∈ records, (text? field r).isSome := by
  rw [firstFault?, List.findSome?_eq_none_iff]
  constructor
  · intro h r hr
    obtain ⟨i, hi⟩ := List.getElem?_of_mem hr
    have hentry : (entries scheme field records)[i]? = some (Entry.ofRecord scheme field i r) := by
      rw [getElem?_entries, hi, Option.map_some]
    exact Entry.fault?_eq_none.1 (Option.map_eq_none_iff.1 (h _ (List.mem_of_getElem? hentry)))
  · intro h e he
    obtain ⟨i, hi⟩ := List.getElem?_of_mem he
    obtain ⟨r, hr, rfl⟩ := Option.map_eq_some_iff.1 (getElem?_entries.symm.trans hi)
    exact Option.map_eq_none_iff.2 (Entry.fault?_eq_none.2 (h r (List.mem_of_getElem? hr)))

/-! ### Documents and rows -/

/-- The entry of a record in the document: a matter of the place of the record and of the
record alone. -/
def item (scheme : Report.Scheme) (field : String) (i : Nat) (record : Json) : Json :=
  (Entry.ofRecord scheme field i record).toJson

theorem item_of_text (h : text? field record = some t) : item scheme field i record =
    .object (("index", .nat i) ::
      ("result", .object (Report.ofText scheme t).extraction.members) ::
      (Report.ofText scheme t).judgement) := by
  rw [item, Entry.ofRecord_of_text h, Entry.toJson]

theorem item_of_fault (h : textOf field record = .error f) : item scheme field i record =
    .object [("index", .nat i), ("error", .text f.message)] := by
  rw [item, Entry.ofRecord_of_fault h, Entry.toJson]

/-- The document of the entries has the item of each record at its place. -/
theorem document_entries : document (entries scheme field records) =
    (Json.array (records.mapIdx (item scheme field))).pretty := by
  rw [document, entries, List.mapIdx_eq_zipIdx_map, List.map_map, List.mapIdx_eq_zipIdx_map]
  rfl

/-- A table is read as its columns and the rows of the entries. -/
theorem read?_tableText (es : List Entry) :
    Csv.read? (tableText es) = some (columns :: es.map Entry.row) := by
  refine Csv.read?_join_row fun vs hvs => ?_
  rcases List.mem_cons.1 hvs with rfl | hrow
  · exact List.cons_ne_nil _ _
  · obtain ⟨e, -, rfl⟩ := List.mem_map.1 hrow
    unfold Entry.row
    split <;> exact List.cons_ne_nil _ _

theorem exists_row_of_text (scheme : Report.Scheme) (i : Nat) (h : text? field record = some t) :
    ∃ rest, (Entry.ofRecord scheme field i record).row = toString i :: "success" :: rest := by
  rw [Entry.ofRecord_of_text h]
  exact ⟨_, rfl⟩

theorem exists_row_of_fault (scheme : Report.Scheme) (i : Nat)
    (h : textOf field record = .error f) :
    ∃ rest, (Entry.ofRecord scheme field i record).row = toString i :: "error" :: rest := by
  rw [Entry.ofRecord_of_fault h]
  exact ⟨_, rfl⟩

/-! ### Counts -/

/-- What is counted of the entries is counted of the records. -/
theorem countP_entries {p : Entry → Bool} {q : Json → Bool}
    (h : ∀ i r, p (Entry.ofRecord scheme field i r) = q r) :
    (entries scheme field records).countP p = records.countP q := by
  -- the places are forgotten, and what is left of them are the records
  have hp : p ∘ (fun x : Json × Nat => Entry.ofRecord scheme field x.2 x.1) = q ∘ Prod.fst :=
    funext fun x => h x.2 x.1
  have hrecords : records.zipIdx.map Prod.fst = records := List.zipIdx_map_fst 0 records
  rw [entries, List.mapIdx_eq_zipIdx_map, List.countP_map, hp, ← List.countP_map, hrecords]

/-- No entry is that of a usable report and that of a record without text. -/
theorem accepted_add_failed_le (es : List Entry) :
    (Counts.ofEntries es).accepted + (Counts.ofEntries es).failed ≤ es.length := by
  have hdisjoint : es.countP (·.fault?.isSome) ≤ es.countP (fun e => !e.isAccepted) := by
    refine List.countP_mono_left fun e _ he => ?_
    unfold Entry.fault? at he
    unfold Entry.isAccepted
    split at he
    · simp at he
    · simp_all
  have htotal := List.length_eq_countP_add_countP (fun e : Entry => e.isAccepted) (l := es)
  simp only [Counts.ofEntries]
  simp only [Bool.not_eq_true, Bool.decide_eq_false] at htotal
  omega

/-- Entries of a document, rows of a table and counts account for every record. -/
structure Accounts (scheme : Report.Scheme) (field : String) (records : List Json)
    (items : List Json) (rows : List (List String)) (c : Counts) : Prop where
  length_items : items.length = records.length
  length_rows : rows.length = records.length
  /-- A record with a text has the report of it. -/
  of_text : ∀ i r t, records[i]? = some r → text? field r = some t →
    items[i]? = some (Json.object (("index", .nat i) ::
      ("result", .object (Report.ofText scheme t).extraction.members) ::
      (Report.ofText scheme t).judgement)) ∧
    ∃ rest, rows[i]? = some (toString i :: "success" :: rest)
  /-- A record without text has what is wrong with it, and nothing else. -/
  of_lacking : ∀ i r, records[i]? = some r → text? field r = none →
    (∃ f, textOf field r = .error f ∧
      items[i]? = some (Json.object [("index", .nat i), ("error", .text f.message)])) ∧
    ∃ rest, rows[i]? = some (toString i :: "error" :: rest)
  accepted_eq : c.accepted = records.countP fun r =>
    (text? field r).any fun t => (Report.ofText scheme t).isAccepted
  failed_eq : c.failed = records.countP fun r => (text? field r).isNone
  /-- What is left of the records is not taken from less. -/
  accepted_add_failed_le : c.accepted + c.failed ≤ records.length
  add_eq_length : c.accepted + c.fallback + c.failed = records.length

/-- What is delivered of the entries accounts for every record. -/
theorem accounts_entries (scheme : Report.Scheme) (field : String) (records : List Json) :
    Accounts scheme field records (records.mapIdx (item scheme field))
      ((entries scheme field records).map Entry.row)
      (.ofEntries (entries scheme field records)) := by
  -- in the document as in the table, what is at a place is made of the record at that place
  have hitem {i : Nat} {r : Json} (hr : records[i]? = some r) :
      (records.mapIdx (item scheme field))[i]? = some (item scheme field i r) := by
    rw [List.getElem?_mapIdx, hr, Option.map_some]
  have hrow {i : Nat} {r : Json} (hr : records[i]? = some r) :
      ((entries scheme field records).map Entry.row)[i]? =
        some (Entry.ofRecord scheme field i r).row := by
    rw [List.getElem?_map, getElem?_entries, hr, Option.map_some, Option.map_some]
  have hle := accepted_add_failed_le (entries scheme field records)
  rw [length_entries] at hle
  constructor
  case length_items => exact List.length_mapIdx
  case length_rows => rw [List.length_map, length_entries]
  -- a record has a text or it has a fault, and item and row follow from which
  case of_text =>
    intro i r t hr ht
    obtain ⟨rest, hrest⟩ := exists_row_of_text scheme i ht
    rw [hitem hr, hrow hr, item_of_text ht, hrest]
    exact ⟨rfl, rest, rfl⟩
  case of_lacking =>
    intro i r hr hlacks
    obtain ⟨f, hf⟩ := exists_fault hlacks
    obtain ⟨rest, hrest⟩ := exists_row_of_fault scheme i hf
    rw [hitem hr, hrow hr, item_of_fault hf, hrest]
    exact ⟨⟨f, hf, rfl⟩, rest, rfl⟩
  -- counts of entries are counts of records, because an entry depends on no other record
  case accepted_eq =>
    refine countP_entries fun i r => ?_
    match h : textOf field r with
    | .ok t => simp [Entry.ofRecord_of_text (textOf_eq_ok.1 h), textOf_eq_ok.1 h, Entry.isAccepted]
    | .error f => simp [Entry.ofRecord_of_fault h, lacks_of_fault h, Entry.isAccepted]
  case failed_eq =>
    refine countP_entries fun i r => ?_
    match h : textOf field r with
    | .ok t => simp [Entry.ofRecord_of_text (textOf_eq_ok.1 h), textOf_eq_ok.1 h, Entry.fault?]
    | .error f => simp [Entry.ofRecord_of_fault h, lacks_of_fault h, Entry.fault?]
  case accepted_add_failed_le => exact hle
  -- the fallbacks are what accepted and failed entries leave of the records, and they leave no less
  -- than nothing
  case add_eq_length =>
    simp only [Counts.ofEntries, length_entries] at hle ⊢
    omega

end CancellationPolicy.Command.Batch
