import CancellationPolicy.Proofs.Json.Decoding
import CancellationPolicy.Proofs.Settings.Accepted

/-!
# Settings survive a save if they are finite

Settings that were read are read again from the text that is written for them if all their numbers
are finite; otherwise this text is not one of settings, since a number that is not finite is written
as missing (`Settings.read_write`).  The check of settings that are read does not ask for this: a
numeral beyond the largest number of 32 bits is read as infinite, and an infinite weight, penalty or
least coverage has no fault.
-/

namespace CancellationPolicy

open Json (Source areFinite_iff membersFinite_iff isFinite_single membersOf?_toSource required?_cons
  optional?_cons single?_toSource nat?_toSource text?_toSource texts_toSource listOf?_toSource
  keyed?_toSource optional?_induction nat?_lt keyed?_sorted)

/-! ### Parts of settings are read back -/

/-- A bucket is read back if its numbers are finite. -/
theorem Bucket.ofSource?_toJson (b : Bucket Single) :
    Bucket.ofSource? b.toJson.toSource =
      Option.guard (fun b => b.numbers.all Binary.isFinite) b := by
  rw [Bucket.ofSource?, Bucket.toJson, membersOf?_toSource (by decide) (by exact .refl _),
    Option.bind_eq_bind, Option.bind_some]
  simp only [List.map_cons, List.map_nil, required?_cons, String.reduceEq, ↓reduceIte,
    single?_toSource]
  ext y
  simp only [Option.bind_eq_bind, Option.bind_eq_some_iff, Option.guard_eq_some_iff]
  simp [Bucket.numbers]
  tauto

/-- Penalties are read back if they are finite. -/
theorem Penalties.ofSource?_toJson (p : Penalties Single) :
    Penalties.ofSource? p.toJson.toSource =
      Option.guard (fun p => p.numbers.all Binary.isFinite) p := by
  rw [Penalties.ofSource?, Penalties.toJson, membersOf?_toSource (by decide) (by exact .refl _),
    Option.bind_eq_bind, Option.bind_some]
  simp only [List.map_cons, List.map_nil, optional?_cons, String.reduceEq, ↓reduceIte,
    single?_toSource]
  ext y
  simp only [Option.bind_eq_bind, Option.bind_eq_some_iff, Option.guard_eq_some_iff]
  simp [Penalties.numbers]
  tauto

/-- Settings of the confidence are read back if their numbers are finite. -/
theorem Confidence.Settings.ofSource?_toJson {s : Confidence.Settings Single}
    (hweights : Keyed.Sorted s.weights) (hcount : s.minCritical < 2 ^ 64) :
    Confidence.Settings.ofSource? s.toJson.toSource =
      Option.guard (fun s => s.numbers.all Binary.isFinite) s := by
  rw [Confidence.Settings.ofSource?, Confidence.Settings.toJson,
    membersOf?_toSource (by decide) (by exact .refl _), Option.bind_eq_bind, Option.bind_some]
  simp only [List.map_cons, List.map_nil, optional?_cons, String.reduceEq, ↓reduceIte,
    single?_toSource, nat?_toSource hcount, texts_toSource,
    keyed?_toSource single?_toSource hweights, listOf?_toSource Bucket.ofSource?_toJson,
    Penalties.ofSource?_toJson]
  ext y
  simp only [Option.bind_eq_bind, Option.bind_eq_some_iff, Option.guard_eq_some_iff]
  simp [numbers]
  tauto

/-- Settings of the decision are read back if the least coverage is finite. -/
theorem Decision.Settings.ofSource?_toJson {s : Decision.Settings Single}
    (hcount : s.minSignals < 2 ^ 64) :
    Decision.Settings.ofSource? s.toJson.toSource =
      Option.guard (fun s => s.threshold.isFinite) s := by
  rw [Decision.Settings.ofSource?, Decision.Settings.toJson,
    membersOf?_toSource (by decide) (by exact .refl _), Option.bind_eq_bind, Option.bind_some]
  simp only [List.map_cons, List.map_nil, optional?_cons, String.reduceEq, ↓reduceIte,
    single?_toSource, nat?_toSource hcount, text?_toSource, texts_toSource]
  ext y
  simp only [Option.bind_eq_bind, Option.bind_eq_some_iff, Option.guard_eq_some_iff]
  simp
  tauto

namespace Settings

variable {s : Settings} {text : String}

/-- Where the rules come from is read back. -/
theorem rulesOfSource?_toJson (path : Option String) :
    rulesOfSource? (Json.object (path.map fun p => ("path", .text p)).toList).toSource =
      some path := by
  cases path with
  | none => rfl
  | some path => rfl

/-! ### What holds of settings that were read -/

/-- What holds of settings that were read. -/
structure Stored (s : Settings) : Prop where
  /-- The weights are in the order of their names. -/
  weights : Keyed.Sorted s.confidence.weights
  /-- The count of critical fields has 64 bits. -/
  minCritical : s.confidence.minCritical < 2 ^ 64
  /-- The count of signals has 64 bits. -/
  minSignals : s.decision.minSignals < 2 ^ 64

/-- The defaults are stored. -/
theorem stored_default (path : Option String) : Stored ⟨path, .default, .default⟩ where
  weights := Keyed.ofList_sorted _
  minCritical := show 2 < 2 ^ 64 by decide
  minSignals := show 2 < 2 ^ 64 by decide

/-- Settings of the confidence that are read have sorted weights and a minimum of 64 bits. -/
theorem confidence_of_ofSource? {x : Source} {c : Confidence.Settings Single}
    (h : Confidence.Settings.ofSource? x = some c) :
    Keyed.Sorted c.weights ∧ c.minCritical < 2 ^ 64 := by
  simp only [Confidence.Settings.ofSource?, Option.bind_eq_bind, Option.bind_eq_some_iff] at h
  obtain ⟨_, -, _, -, weights, hweights, _, -, _, -, _, -, count, hcount, _, -, _, -, _, -, hc⟩ := h
  obtain rfl := Option.some.inj hc
  have hdefault := stored_default none
  exact ⟨optional?_induction hdefault.weights (fun _ _ => keyed?_sorted) hweights,
    optional?_induction (P := (· < 2 ^ 64)) hdefault.minCritical (fun _ _ => nat?_lt) hcount⟩

/-- Settings of the decision that are read have a minimum of 64 bits. -/
theorem decision_of_ofSource? {x : Source} {d : Decision.Settings Single}
    (h : Decision.Settings.ofSource? x = some d) : d.minSignals < 2 ^ 64 := by
  simp only [Decision.Settings.ofSource?, Option.bind_eq_bind, Option.bind_eq_some_iff] at h
  obtain ⟨_, -, _, -, count, hcount, _, -, _, -, hd⟩ := h
  obtain rfl := Option.some.inj hd
  exact optional?_induction (P := (· < 2 ^ 64)) (stored_default none).minSignals
    (fun _ _ => nat?_lt) hcount

theorem stored_of_scoringOfSource? {x : Source} (path : Option String)
    {p : Confidence.Settings Single × Decision.Settings Single}
    (h : scoringOfSource? x = some p) : Stored ⟨path, p.1, p.2⟩ := by
  simp only [scoringOfSource?, Option.bind_eq_bind, Option.bind_eq_some_iff] at h
  obtain ⟨_, -, c, hc, d, hd, hp⟩ := h
  obtain rfl := Option.some.inj hp
  have hdefault := stored_default path
  obtain ⟨hweights, hcritical⟩ := optional?_induction ⟨hdefault.weights, hdefault.minCritical⟩
    (fun _ _ => confidence_of_ofSource?) hc
  exact ⟨hweights, hcritical, optional?_induction (P := fun d => d.minSignals < 2 ^ 64)
    hdefault.minSignals (fun _ _ => decision_of_ofSource?) hd⟩

/-- Settings that were read are stored. -/
theorem stored_of_ofSource? {x : Source} (h : ofSource? x = some s) : s.Stored := by
  simp only [ofSource?, Option.bind_eq_bind, Option.bind_eq_some_iff] at h
  obtain ⟨_, -, path, -, p, hp, hs⟩ := h
  obtain rfl := Option.some.inj hs
  exact optional?_induction (P := fun p => Stored ⟨path, p.1, p.2⟩) (stored_default path)
    (fun _ _ => stored_of_scoringOfSource? path) hp

/-! ### Settings are read back -/

theorem isFinite_iff : s.IsFinite ↔
    s.confidence.numbers.all Binary.isFinite = true ∧ s.decision.threshold.isFinite = true := by
  simp [IsFinite, numbers, or_imp, forall_and]

/-- Settings that were read are read back from their document if they are finite. -/
theorem ofSource?_toJson (hs : s.Stored) :
    ofSource? s.toJson.toSource = if s.IsFinite then some s else none := by
  -- each part is read back if its numbers are finite, and so are both together
  have hscoring : scoringOfSource? (Json.object [("confidence", s.confidence.toJson),
      ("decision", s.decision.toJson)]).toSource =
        if s.IsFinite then some (s.confidence, s.decision) else none := by
    rw [scoringOfSource?, membersOf?_toSource (by decide) (by exact .refl _), Option.bind_eq_bind,
      Option.bind_some]
    simp only [List.map_cons, List.map_nil, optional?_cons, String.reduceEq, ↓reduceIte,
      Confidence.Settings.ofSource?_toJson hs.weights hs.minCritical,
      Decision.Settings.ofSource?_toJson hs.minSignals]
    ext y
    simp only [Option.bind_eq_bind, Option.bind_eq_some_iff, Option.guard_eq_some_iff,
      Option.ite_none_right_eq_some, isFinite_iff]
    simp
    tauto
  rw [ofSource?, toJson, membersOf?_toSource (by decide) (by exact .refl _), Option.bind_eq_bind,
    Option.bind_some]
  simp only [List.map_cons, List.map_nil, optional?_cons, String.reduceEq, ↓reduceIte,
    rulesOfSource?_toJson, hscoring]
  split <;> rfl

/-- The document of settings has no numbers but finite ones, as others are missing. -/
theorem isFinite_toJson (s : Settings) : s.toJson.IsFinite := by
  -- a number that is not finite is written as null, so the document has none
  have hpath : ∀ m ∈ (s.rulesPath.map fun p => ("path", Json.text p)).toList, m.2.IsFinite := by
    cases s.rulesPath <;> simp [Json.IsFinite]
  have hweights : ∀ m ∈ s.confidence.weights.map fun w => (w.1, Json.single w.2),
      m.2.IsFinite := List.forall_mem_map.2 fun w _ => isFinite_single w.2
  have htexts (xs : List String) : (Json.texts xs).IsFinite :=
    areFinite_iff.2 (List.forall_mem_map.2 fun _ _ => trivial)
  have hbuckets : ∀ x ∈ s.confidence.buckets.map Bucket.toJson, x.IsFinite :=
    List.forall_mem_map.2 fun b _ => ⟨isFinite_single b.least, isFinite_single b.score, trivial⟩
  simp only [toJson, Confidence.Settings.toJson, Penalties.toJson, Decision.Settings.toJson,
    Json.IsFinite, Json.MembersFinite, Json.nat, Json.Number.IsFinite, isFinite_single, htexts,
    membersFinite_iff, areFinite_iff, true_and, and_true]
  exact ⟨hpath, hweights, hbuckets⟩

theorem read_eq_ok_iff : read text = .ok s ↔
    (Source.read? text).bind ofSource? = some s ∧ s.fault? = none := by
  rw [read]
  cases (Source.read? text).bind ofSource? with
  | none => simp
  | some t =>
    dsimp only
    cases ht : t.fault? with
    | none =>
      simp only [Except.ok.injEq, Option.some.injEq, iff_self_and]
      rintro rfl
      exact ht
    | some f =>
      simp only [reduceCtorEq, Option.some.injEq, false_iff, not_and]
      rintro rfl
      simp [ht]

/-- Finite settings are read back. -/
theorem read_write_of_isFinite (hs : s.Stored) (hfinite : s.IsFinite) (hfault : s.fault? = none) :
    read s.write = .ok s := by
  rw [read_eq_ok_iff, write, Json.read?_pretty (isFinite_toJson s), Option.bind_some,
    ofSource?_toJson hs, if_pos hfinite]
  exact ⟨rfl, hfault⟩

/-- Settings that are not finite are written as what cannot be read. -/
theorem read_write_of_not_isFinite (hs : s.Stored) (hfinite : ¬s.IsFinite) :
    read s.write = .error .unreadable := by
  rw [read, write, Json.read?_pretty (isFinite_toJson s), Option.bind_some, ofSource?_toJson hs,
    if_neg hfinite]

/-- **A save keeps settings that were read if and only if all their numbers are finite.**  The text
that is written for others is not one of settings. -/
theorem read_write (h : read text = .ok s) :
    read s.write = if s.IsFinite then .ok s else .error .unreadable := by
  obtain ⟨hread, hfault⟩ := read_eq_ok_iff.1 h
  obtain ⟨x, -, hx⟩ := Option.bind_eq_some_iff.1 hread
  have hs := stored_of_ofSource? hx
  split
  · rename_i hfinite
    exact read_write_of_isFinite hs hfinite hfault
  · rename_i hfinite
    exact read_write_of_not_isFinite hs hfinite

theorem read_write_path :
    read "\x7b\"rules\": \x7b\"path\": \"rules.json\"\x7d\x7d" =
        .ok { default with rulesPath := some "rules.json" } ∧
      read (write { default with rulesPath := some "rules.json" }) =
        .ok { default with rulesPath := some "rules.json" } := by
  have hread : read "\x7b\"rules\": \x7b\"path\": \"rules.json\"\x7d\x7d" =
      .ok { default with rulesPath := some "rules.json" } := by decide +kernel
  exact ⟨hread, (read_write hread).trans (if_pos (by decide))⟩

/-- A least coverage beyond the largest number of 32 bits is read as infinite and has no fault, but
does not survive a save. -/
theorem read_write_eq_error :
    read "\x7b\"scoring\": \x7b\"decision\": \x7b\"coverage_threshold\": 1e39\x7d\x7d\x7d" =
        .ok { default with decision.threshold := .infinity false } ∧
      read (write { default with decision.threshold := .infinity false }) =
        .error .unreadable := by
  have hread : read
      "\x7b\"scoring\": \x7b\"decision\": \x7b\"coverage_threshold\": 1e39\x7d\x7d\x7d" =
        .ok { default with decision.threshold := .infinity false } := by decide +kernel
  have hdefault := stored_default none
  exact ⟨hread, read_write_of_not_isFinite
    ⟨hdefault.weights, hdefault.minCritical, hdefault.minSignals⟩ (by decide)⟩

end Settings

end CancellationPolicy
