import CancellationPolicy.Proofs.Json.Content
import CancellationPolicy.Proofs.Record.Path
import CancellationPolicy.Proofs.Settings.RoundTrip

/-!
# Settings under their keys

Names lead through the document of settings to a value.  Joined by dots they are the key of the
value, but a key is cut at every dot.  So the value is found if no name has a dot itself
(`Settings.lookup?_intercalate`).  A name with a dot only stands for the weight of a field, and
nothing is found under the key of such a weight (`Settings.lookup?_intercalate_of_dot`).
-/

namespace CancellationPolicy

/-! ### Names with dots -/

namespace Json

variable {v w : Json} {names : List String}

/-- Whether an object in which a name has a dot has no objects as its members. -/
def DotsAtEnds (v : Json) : Prop :=
  v.All fun w => ∀ ms, w = object ms →
    (∀ m ∈ ms, '.' ∉ m.1.toList) ∨ ∀ m ∈ ms, ∀ ns, m.2 ≠ object ns

theorem flatMap_segments (h : ∀ name ∈ names, '.' ∉ name.toList) :
    names.flatMap Path.segments = names := by
  induction names with
  | nil => rfl
  | cons name names ih =>
    obtain ⟨hname, hnames⟩ := List.forall_mem_cons.1 h
    rw [List.flatMap_cons, Path.segments_of_not_mem hname, ih hnames, List.singleton_append]

/-- Two names lead nowhere if no member is an object. -/
theorem follow?_eq_none_of_ends (h : ∀ k u, v.member? k = some u → ∀ ns, u ≠ object ns)
    (a b : String) (names : List String) : v.follow? (a :: b :: names) = none := by
  rw [follow?_cons]
  cases hu : v.member? a with
  | none => rfl
  | some u =>
    rw [Option.bind_some, follow?_cons]
    cases u with
    | object ns => exact absurd rfl (h a _ hu ns)
    | _ => rfl

/-- Where names lead somewhere and one of them has a dot, their segments lead nowhere. -/
theorem follow?_segments_of_dot (hv : v.DotsAtEnds) (hw : v.follow? names = some w)
    (hdot : ∃ name ∈ names, '.' ∈ name.toList) :
    v.follow? (names.flatMap Path.segments) = none := by
  induction names generalizing v with
  | nil =>
    obtain ⟨_, hname, -⟩ := hdot
    cases hname
  | cons k names ih =>
    rw [follow?_cons] at hw
    obtain ⟨u, hu, hrest⟩ := Option.bind_eq_some_iff.1 hw
    rw [List.flatMap_cons]
    cases v with
    | object ms =>
      have hmem := Keyed.mem_of_find?_eq_some hu
      rcases hv.self ms rfl with hplain | hends
      · -- the name is cut nowhere, so that a later one has the dot
        have hk : '.' ∉ k.toList := hplain _ hmem
        rw [Path.segments_of_not_mem hk, List.singleton_append, follow?_cons, hu, Option.bind_some]
        refine ih (hv.member hu) hrest ?_
        obtain ⟨name, hname, hmemdot⟩ := hdot
        rcases List.mem_cons.1 hname with rfl | hname
        · exact absurd hmemdot hk
        · exact ⟨name, hname, hmemdot⟩
      · -- the name leads to an end, so that it has the dot
        cases names with
        | cons next names =>
          obtain ⟨ns, _, hns, -⟩ := exists_of_follow?_cons hrest
          exact absurd hns (hends _ hmem ns)
        | nil =>
          obtain ⟨name, hname, hmemdot⟩ := hdot
          obtain rfl := List.mem_singleton.1 hname
          obtain ⟨a, b, rest, hsegments⟩ := Path.exists_segments_of_mem hmemdot
          rw [hsegments, List.flatMap_nil, List.append_nil]
          apply follow?_eq_none_of_ends
          intro k u hu
          exact hends (k, u) (Keyed.mem_of_find?_eq_some hu)
    | _ => cases hu

end Json

/-! ### The document of settings -/

/-- Whether something holds of all values that are no objects, and of all objects with different
names without dots. -/
structure Json.HoldsOfPlain (p : Json → Prop) : Prop where
  /-- It holds of what is no object. -/
  simple : ∀ w, (∀ ms, w ≠ object ms) → p w
  /-- It holds of objects with names that are different and have no dots. -/
  object : ∀ ms, (ms.map Prod.fst).Nodup → (∀ m ∈ ms, '.' ∉ m.1.toList) → p (object ms)

namespace Json.HoldsOfPlain

variable {p : Json → Prop} (h : HoldsOfPlain p)

include h

theorem text (t : String) : (Json.text t).All p := h.simple (.text t) (by simp)

theorem nat (n : Nat) : (Json.nat n).All p := h.simple (.number (.int n)) (by simp)

theorem single (x : Single) : (Json.single x).All p := by
  unfold Json.single
  split
  · exact h.simple (.number _) (by simp)
  · exact h.simple .null (by simp)

theorem items {xs : List Json} (hxs : ∀ x ∈ xs, x.All p) : (array xs).All p := by
  rw [all_array]
  exact ⟨h.simple (.array xs) (by simp), hxs⟩

/-- An object with names that are different and have no dots is plain if its members are. -/
theorem members {ms : List (String × Json)} (names : List String)
    (hnames : names.Nodup ∧ ∀ name ∈ names, '.' ∉ name.toList) (hms : ms.map Prod.fst = names)
    (hall : ∀ m ∈ ms, m.2.All p) : (Json.object ms).All p := by
  subst hms
  obtain ⟨hnodup, hdots⟩ := hnames
  rw [List.forall_mem_map] at hdots
  rw [all_object]
  exact ⟨h.object ms hnodup hdots, hall⟩

theorem texts (ts : List String) : (Json.texts ts).All p := by
  apply h.items
  rw [List.forall_mem_map]
  intro t _
  exact h.text t

theorem bucket (b : Bucket Single) : b.toJson.All p := by
  apply h.members ["min", "score"] (by decide) rfl
  simp [h.single]

theorem buckets (bs : List (Bucket Single)) : (array (bs.map Bucket.toJson)).All p := by
  apply h.items
  rw [List.forall_mem_map]
  intro b _
  exact h.bucket b

theorem penalties (q : Penalties Single) : q.toJson.All p := by
  apply h.members ["bad_fee_amount", "malformed_numeric"] (by decide) rfl
  simp [h.single]

theorem rules (path : Option String) :
    (Json.object (path.map fun q => ("path", Json.text q)).toList).All p := by
  cases path with
  | none =>
    apply h.members [] (by decide) rfl
    simp
  | some path =>
    apply h.members ["path"] (by decide) rfl
    simp [h.text]

theorem decision (s : Decision.Settings Single) : s.toJson.All p := by
  apply h.members ["coverage_threshold", "min_critical_signals", "ignorable_chars",
    "boilerplate_tokens"] (by decide) rfl
  simp [h.single, h.nat, h.text, h.texts]

theorem confidence {s : Confidence.Settings Single}
    (hweights : p (.object (s.weights.map fun w => (w.1, .single w.2)))) : s.toJson.All p := by
  have hfields : (Json.object (s.weights.map fun w => (w.1, .single w.2))).All p := by
    rw [all_object, List.forall_mem_map]
    exact ⟨hweights, fun w _ => h.single w.2⟩
  apply h.members ["alpha", "field_weights", "critical_fields",
    "non_critical_strength", "coverage_to_score", "min_critical_signals", "low_critical_cap",
    "penalties", "accept_threshold"] (by decide) rfl
  simp [h.single, h.nat, h.texts, h.buckets, h.penalties, hfields]

/-- The parts of the document of settings are plain, but for the weights of the fields. -/
theorem settings {s : Settings}
    (hweights : p (.object (s.confidence.weights.map fun w => (w.1, .single w.2)))) :
    s.toJson.All p := by
  have hscoring : (Json.object
      [("confidence", s.confidence.toJson), ("decision", s.decision.toJson)]).All p := by
    apply h.members ["confidence", "decision"] (by decide) rfl
    simp [h.confidence hweights, h.decision]
  apply h.members ["rules", "scoring"] (by decide) rfl
  simp [h.rules, hscoring]

end Json.HoldsOfPlain

namespace Settings

variable {s : Settings} {names : List String} {v : Json}

/-- In the document of settings the names of each object are different. -/
theorem hasDistinctNames_toJson (hs : s.Stored) : s.toJson.HasDistinctNames := by
  apply Json.HoldsOfPlain.settings
  · refine ⟨fun w hw ms hms => absurd hms (hw ms), ?_⟩
    rintro ms hnodup - _ ⟨⟩
    exact hnodup
  · rintro _ ⟨⟩
    rw [List.map_map]
    exact Keyed.nodup_names hs.weights

/-- In the document of settings names with dots only stand for numbers. -/
theorem dotsAtEnds_toJson (s : Settings) : s.toJson.DotsAtEnds := by
  apply Json.HoldsOfPlain.settings
  · refine ⟨fun w hw ms hms => absurd hms (hw ms), ?_⟩
    rintro ms - hdots _ ⟨⟩
    exact .inl hdots
  · rintro _ ⟨⟩
    right
    rw [List.forall_mem_map]
    intro w _ ns
    unfold Json.single
    split <;> simp

/-! ### Keys -/

/-- A key is looked up segment by segment, and the value is widened. -/
theorem lookup?_intercalate_eq (hs : s.Stored) (hnames : names ≠ []) :
    s.lookup? (".".intercalate names) =
      (s.toJson.follow? (names.flatMap Path.segments)).map Json.widen := by
  rw [← Json.follow?_widen (hasDistinctNames_toJson hs), ← Path.segments_intercalate hnames]
  rfl

/-- What names without dots lead to is found under their key, in its wide form. -/
theorem lookup?_intercalate (hs : s.Stored) (hnames : names ≠ [])
    (hdots : ∀ name ∈ names, '.' ∉ name.toList) (hv : s.toJson.follow? names = some v) :
    s.lookup? (".".intercalate names) = some v.widen := by
  rw [lookup?_intercalate_eq hs hnames, Json.flatMap_segments hdots, hv]
  rfl

/-- What names lead to of which one has a dot is not found under their key. -/
theorem lookup?_intercalate_of_dot (hs : s.Stored) (hnames : names ≠ [])
    (hdot : ∃ name ∈ names, '.' ∈ name.toList) (hv : s.toJson.follow? names = some v) :
    s.lookup? (".".intercalate names) = none := by
  rw [lookup?_intercalate_eq hs hnames, Json.follow?_segments_of_dot (dotsAtEnds_toJson s) hv hdot]
  rfl

end Settings

end CancellationPolicy
