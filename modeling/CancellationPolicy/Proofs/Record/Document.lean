import CancellationPolicy.Proofs.Decimal.Integral
import CancellationPolicy.Proofs.Json.Entries
import CancellationPolicy.Proofs.Record.WellFormed
import CancellationPolicy.Proofs.Rule.FieldMap
import Mathlib.Data.List.Induction

/-!
# The document of a record

The values of a record are placed one after another in an object that is empty at first.  A value
is lost if its place is taken, or if a value that is no object lies on the way.  Neither happens if
there is room (`HasRoom`), and then the document gets one entry more (`memberEntries_place`).

In a record no path lies above another, so there is always room: the entries of the document are
the leaves of the record, under their segments (`memberEntries_membersOf`, `toJson_writeAll`).
-/

namespace CancellationPolicy.Record

open Json (entries memberEntries memberEntries_eq_flatMap memberEntries_perm entries_of_ne_object
  mem_entries_of_follow? follow?_cons Nested)

variable {v w : Json} {k : String} {names : List String} {ms inner : Keyed Json}

/-! ### Placing a value -/

/-- Below a first name, a value is put among the members that are there, or into a new object, and
is lost if there is anything else. -/
theorem place_cons_cases (hnames : names ≠ []) (v : Json) (k : String) (ms : Keyed Json) :
    (∃ inner, (Keyed.find? k ms = none ∧ inner = [] ∨ Keyed.find? k ms = some (.object inner)) ∧
        place v (k :: names) ms = Keyed.insert k (.object (place v names inner)) ms) ∨
      ∃ w, Keyed.find? k ms = some w ∧ (∀ inner, w ≠ .object inner) ∧
        place v (k :: names) ms = ms := by
  rw [place]
  · cases Keyed.find? k ms with
    | none => exact .inl ⟨[], .inl ⟨rfl, rfl⟩, rfl⟩
    | some w =>
      cases w with
      | object inner => exact .inl ⟨inner, .inr rfl, rfl⟩
      | _ => exact .inr ⟨_, rfl, nofun, rfl⟩
  · exact hnames

theorem place_ne_nil (hnames : names ≠ []) (v : Json) (ms : Keyed Json) :
    place v names ms ≠ [] := by
  cases names with
  | nil => exact absurd rfl hnames
  | cons k names =>
    by_cases hrest : names = []
    · rw [hrest]
      exact List.ne_nil_of_mem Keyed.mem_insert_self
    · rcases place_cons_cases hrest v k ms with ⟨inner, -, heq⟩ | ⟨w, hfind, -, heq⟩ <;> rw [heq]
      · exact List.ne_nil_of_mem Keyed.mem_insert_self
      · exact List.ne_nil_of_mem (Keyed.mem_of_find?_eq_some hfind)

/-- Members stay nested if a value is put among them that is no empty object. -/
theorem nested_insert (h : Nested ms) (hv : ∀ inner, v = .object inner → inner ≠ [] ∧ Nested inner)
    (k : String) : Nested (Keyed.insert k v ms) := by
  refine .intro (Keyed.insert_sorted h.sorted k v) ?_ ?_
  all_goals
    intro j inner hm
    rcases Keyed.mem_insert hm with heq | hm
  · exact (hv inner (Prod.mk.inj heq).2.symm).1
  · exact h.filled hm
  · exact (hv inner (Prod.mk.inj heq).2.symm).2
  · exact h.nested hm

/-- Placing a value keeps members nested. -/
theorem nested_place (hv : ∀ inner, v ≠ .object inner) (h : Nested ms) (names : List String) :
    Nested (place v names ms) := by
  induction names generalizing ms with
  | nil => exact h
  | cons k names ih =>
    by_cases hrest : names = []
    · rw [hrest]
      exact nested_insert h (fun inner heq => absurd heq (hv inner)) k
    · rcases place_cons_cases hrest v k ms with ⟨below, hbelow, heq⟩ | ⟨w, -, -, heq⟩ <;> rw [heq]
      · have hnested : Nested below := by
          rcases hbelow with ⟨-, rfl⟩ | hfind
          · exact Json.nested_nil
          · exact h.nested (Keyed.mem_of_find?_eq_some hfind)
        refine nested_insert h (fun inner hinner => ?_) k
        obtain rfl := Json.object.inj hinner
        exact ⟨place_ne_nil hrest v below, ih hnested⟩
      · exact h

/-! ### Room -/

/-- Whether a value can be placed under names without a loss. -/
structure HasRoom (names : List String) (ms : Keyed Json) : Prop where
  /-- Nothing is there yet. -/
  free : (Json.object ms).follow? names = none
  /-- All that lies on the way are objects. -/
  passable : ∀ front v, front <+: names → (Json.object ms).follow? front = some v →
    ∃ inner, v = .object inner

theorem hasRoom_nil (hnames : names ≠ []) : HasRoom names [] := by
  cases names with
  | nil => exact absurd rfl hnames
  | cons k names =>
    refine ⟨rfl, fun front v _ hv => ?_⟩
    cases front with
    | nil => exact ⟨[], (Option.some.inj hv).symm⟩
    | cons j front => cases hv

theorem follow?_object_cons (names : List String) (hfind : Keyed.find? k ms = some w) :
    (Json.object ms).follow? (k :: names) = w.follow? names := by
  rw [follow?_cons, Json.member?, hfind]
  rfl

theorem HasRoom.of_cons (h : HasRoom (k :: names) ms)
    (hfind : Keyed.find? k ms = some (.object inner)) : HasRoom names inner := by
  refine ⟨follow?_object_cons names hfind ▸ h.free, fun front v hfront hv => ?_⟩
  refine h.passable (k :: front) v (List.cons_prefix_cons.2 ⟨rfl, hfront⟩) ?_
  rw [follow?_object_cons front hfind, hv]

/-- There is room under names that neither start nor go on as those of an entry. -/
theorem hasRoom_of_entries (h : Nested ms) (hnames : names ≠ [])
    (hentries : ∀ e ∈ memberEntries ms, ¬e.1 <+: names ∧ ¬names <+: e.1) : HasRoom names ms := by
  constructor
  · rw [Option.eq_none_iff_forall_not_mem]
    intro w hw
    -- whatever is there has an entry, whose names go on behind the given ones
    obtain ⟨e, he⟩ := List.exists_mem_of_ne_nil _ (h.entries_ne_nil_of_follow? hnames hw)
    have hmem : (names ++ e.1, e.2) ∈ memberEntries ms := mem_entries_of_follow? hw he
    exact (hentries _ hmem).2 (List.prefix_append _ _)
  · intro front v hfront hv
    by_contra hobject
    -- a value that is no object is an entry itself, whose names start the given ones
    have hentry : ([], v) ∈ entries v := by
      rw [entries_of_ne_object (not_exists.1 hobject)]
      exact List.mem_singleton_self _
    have hmem : (front ++ [], v) ∈ memberEntries ms := mem_entries_of_follow? hv hentry
    rw [List.append_nil] at hmem
    exact (hentries _ hmem).1 hfront

/-! ### Entries -/

theorem filter_ne_of_find?_eq_none (hfind : Keyed.find? k ms = none) :
    ms.filter (·.1 ≠ k) = ms := by
  refine List.filter_eq_self.2 fun m hm => decide_eq_true fun heq => ?_
  exact Keyed.find?_eq_none_iff.1 hfind (heq ▸ Keyed.mem_names_of_mem hm)

/-- The entries of members are those of the object under a name, if there is one, and those under
other names. -/
theorem memberEntries_perm_of_find? (h : Nested ms)
    (hinner : Keyed.find? k ms = none ∧ inner = [] ∨ Keyed.find? k ms = some (.object inner)) :
    (memberEntries ms).Perm ((memberEntries inner).map (fun e => (k :: e.1, e.2)) ++
      memberEntries (ms.filter (·.1 ≠ k))) := by
  rcases hinner with ⟨hfind, rfl⟩ | hfind
  · rw [filter_ne_of_find?_eq_none hfind]
    exact .refl _
  · have hperm := memberEntries_perm (Keyed.perm_of_find? h.sorted hfind)
    rwa [memberEntries, entries] at hperm

/-- Where there is room, placing a value adds one entry to the document. -/
theorem memberEntries_place (hv : ∀ inner, v ≠ .object inner) (h : Nested ms)
    (hroom : HasRoom names ms) :
    (memberEntries (place v names ms)).Perm ((names, v) :: memberEntries ms) := by
  induction names generalizing ms with
  | nil => cases hroom.free
  | cons k names ih =>
    -- inserting replaces the member of the name, or adds one
    have hinsert (u : Json) := memberEntries_perm (Keyed.insert_perm h.sorted k u)
    by_cases hrest : names = []
    · subst hrest
      have hfind : Keyed.find? k ms = none := by
        cases hk : Keyed.find? k ms with
        | none => rfl
        | some w => cases (follow?_object_cons [] hk).symm.trans hroom.free
      refine (hinsert v).trans ?_
      rw [filter_ne_of_find?_eq_none hfind, memberEntries, entries_of_ne_object hv]
      exact .refl _
    · rcases place_cons_cases hrest v k ms with ⟨inner, hinner, heq⟩ | ⟨w, hfind, hw, -⟩
      -- below the name there is an object with room, or nothing yet
      · have hbelow : Nested inner ∧ HasRoom names inner := by
          rcases hinner with ⟨-, rfl⟩ | hfind
          · exact ⟨Json.nested_nil, hasRoom_nil hrest⟩
          · exact ⟨h.nested (Keyed.mem_of_find?_eq_some hfind), hroom.of_cons hfind⟩
        rw [heq]
        refine (hinsert _).trans ?_
        rw [memberEntries, entries]
        refine (((ih hbelow.1 hbelow.2).map _).append_right _).trans ?_
        exact (memberEntries_perm_of_find? h hinner).symm.cons _
      · -- on the way there are objects only
        obtain ⟨inner, rfl⟩ := hroom.passable [k] w (List.prefix_append [k] names)
          (follow?_object_cons [] hfind)
        exact absurd rfl (hw inner)

/-! ### All leaves -/

/-- The members of the document of leaves. -/
def membersOf (leaves : Keyed Value) : Keyed Json :=
  leaves.foldl (fun ms l => place l.2.toJson (Path.segments l.1) ms) []

theorem membersOf_append (leaves : Keyed Value) (l : String × Value) :
    membersOf (leaves ++ [l]) = place l.2.toJson (Path.segments l.1) (membersOf leaves) :=
  List.foldl_append

theorem toJson_eq (r : Record) : r.toJson = .object (membersOf r.leaves) := rfl

theorem segments_ne_nil (path : String) : Path.segments path ≠ [] := by
  rw [Path.segments, ne_eq, List.map_eq_nil_iff]
  exact Text.split_ne_nil _ _

theorem ne_object_of_toJson (x : Value) : ∀ inner, x.toJson ≠ .object inner := by
  intro inner h
  cases x with
  | text s => cases h
  | number n =>
    rw [Value.toJson] at h
    split at h <;> cases h

/-- The members of leaves are nested. -/
theorem nested_membersOf (leaves : Keyed Value) : Nested (membersOf leaves) := by
  induction leaves using List.reverseRecOn with
  | nil => exact Json.nested_nil
  | append_singleton leaves l ih =>
    rw [membersOf_append]
    exact nested_place (ne_object_of_toJson l.2) ih _

/-- Whether neither of two paths starts with all segments of the other. -/
def Diverge (p q : String) : Prop :=
  ¬Path.segments p <+: Path.segments q ∧ ¬Path.segments q <+: Path.segments p

/-- The entries of the document of leaves whose paths diverge are the leaves, and there is room for
a further one whose path diverges from all of them. -/
theorem memberEntries_membersOf {leaves : Keyed Value}
    (h : leaves.Pairwise fun l m => Diverge l.1 m.1) :
    (memberEntries (membersOf leaves)).Perm
        (leaves.map fun l => (Path.segments l.1, l.2.toJson)) ∧
      ∀ p, (∀ l ∈ leaves, Diverge l.1 p) → HasRoom (Path.segments p) (membersOf leaves) := by
  -- room is where no entry is on the way, and the entries are those of the leaves
  have hroom (leaves : Keyed Value) (hperm : (memberEntries (membersOf leaves)).Perm
      (leaves.map fun l => (Path.segments l.1, l.2.toJson))) (p : String)
      (hp : ∀ l ∈ leaves, Diverge l.1 p) : HasRoom (Path.segments p) (membersOf leaves) := by
    refine hasRoom_of_entries (nested_membersOf leaves) (segments_ne_nil p) fun e he => ?_
    obtain ⟨l, hl, rfl⟩ := List.mem_map.1 (hperm.mem_iff.1 he)
    exact hp l hl
  suffices hperm : (memberEntries (membersOf leaves)).Perm
      (leaves.map fun l => (Path.segments l.1, l.2.toJson)) from ⟨hperm, hroom leaves hperm⟩
  induction leaves using List.reverseRecOn with
  | nil => exact .refl _
  | append_singleton leaves l ih =>
    obtain ⟨hleaves, -, hl⟩ := List.pairwise_append.1 h
    have hperm := ih hleaves
    have hspace := hroom leaves hperm l.1 fun m hm => hl m hm l (List.mem_singleton_self l)
    rw [membersOf_append, List.map_append]
    refine (memberEntries_place (ne_object_of_toJson l.2) (nested_membersOf leaves) hspace).trans ?_
    refine (hperm.cons _).trans ?_
    exact (List.perm_append_singleton _ _).symm

/-! ### The document of a record -/

variable {r : Record}

/-- In a record that writes have built no path starts with all segments of another. -/
theorem WellFormed.pairwise_diverge (hr : r.WellFormed) :
    r.leaves.Pairwise fun l m => Diverge l.1 m.1 := by
  refine hr.sorted.imp_of_mem fun {l m} hl hm hlt => ?_
  have hne : Path.segments l.1 ≠ Path.segments m.1 := by
    intro heq
    rw [Path.segments_injective heq] at hlt
    exact String.lt_irrefl _ hlt
  exact ⟨fun h => hr.apart l hl m hm ⟨h, hne⟩, fun h => hr.apart m hm l hl ⟨h, hne.symm⟩⟩

/-- The entries of the document of a record are its leaves, under their segments. -/
theorem WellFormed.entries_toJson (hr : r.WellFormed) :
    r.toJson.entries.Perm (r.leaves.map fun l => (Path.segments l.1, l.2.toJson)) :=
  (memberEntries_membersOf hr.pairwise_diverge).1

/-- When a value is placed, there is room for it among those before. -/
theorem WellFormed.hasRoom (hr : r.WellFormed) {front back : Keyed Value} {l : String × Value}
    (h : r.leaves = front ++ l :: back) : HasRoom (Path.segments l.1) (membersOf front) := by
  have hdiverge := hr.pairwise_diverge
  rw [h] at hdiverge
  obtain ⟨hfront, -, hl⟩ := List.pairwise_append.1 hdiverge
  exact (memberEntries_membersOf hfront).2 l.1 fun m hm => hl m hm l List.mem_cons_self

/-- The document of a value is read as one field. -/
theorem exists_fieldsAt?_toJson (x : Value) :
    ∃ t, ∀ p, Rule.fieldsAt? p x.toJson = some [.ofTemplate p t] := by
  cases x with
  | text s => exact ⟨s, fun _ => rfl⟩
  | number n =>
    rw [Value.toJson]
    split
    · exact ⟨_, fun _ => rfl⟩
    · exact ⟨_, fun _ => rfl⟩

/-- As a map of fields, the document of a record gives the paths of the record. -/
theorem WellFormed.fieldsOf?_toJson (hr : r.WellFormed) :
    ∃ fs, Rule.fieldsOf? r.toJson = some fs ∧
      (fs.map Rule.Field.path).Perm (Keyed.names r.leaves) := by
  have hperm := hr.entries_toJson
  -- each entry is the value of a leaf, which is no object or list
  have hvalues : ∀ e ∈ r.toJson.entries,
      ∃ t, ∀ p, Rule.fieldsAt? p e.2 = some [.ofTemplate p t] := by
    intro e he
    obtain ⟨l, -, rfl⟩ := List.mem_map.1 (hperm.mem_iff.1 he)
    exact exists_fieldsAt?_toJson l.2
  obtain ⟨fs, hfs, hpaths⟩ := Rule.exists_entryFields? "" hvalues
  refine ⟨fs, (Rule.fieldsBelow?_eq "" _).trans hfs, ?_⟩
  rw [hpaths]
  refine (hperm.map _).trans (.of_eq ?_)
  rw [List.map_map, Keyed.names]
  refine List.map_congr_left fun l hl => ?_
  exact (Rule.foldl_pathBelow (hr.valid l hl).2).trans (Path.intercalate_segments l.1)

/-- The document of a record that writes have built loses nothing.  Its entries, with the names on
the way joined by dots, are the leaves of the record, each once, a number that is a whole one of 64
bits being that number at whatever scale it is held.  No object in it is empty.  When a value is
placed, nothing is there yet, and nothing but objects lies on the way.  As a map of fields, the
document gives the paths of the record. -/
theorem toJson_writeAll (fields : List (String × Value)) :
    let r := new.writeAll fields
    (r.toJson.entries.map fun e => (".".intercalate e.1, e.2)).Perm
        (r.leaves.map fun l => (l.1, l.2.toJson)) ∧
      (r.toJson.entries.map fun e => ".".intercalate e.1).Nodup ∧
      (∀ (x : Decimal) (i : Int), x.toRat = i → -2 ^ 63 ≤ i → i < 2 ^ 63 →
        (Value.number x).toJson = .number (.int i)) ∧
      (∃ ms, r.toJson = .object ms ∧ Nested ms) ∧
      (∀ front l back, r.leaves = front ++ l :: back →
        HasRoom (Path.segments l.1) (membersOf front)) ∧
      ∃ fs, Rule.fieldsOf? r.toJson = some fs ∧
        (fs.map Rule.Field.path).Perm (Keyed.names r.leaves) := by
  intro r
  have hr : r.WellFormed := wellFormed_new.writeAll fields
  have hentries : (r.toJson.entries.map fun e => (".".intercalate e.1, e.2)).Perm
      (r.leaves.map fun l => (l.1, l.2.toJson)) := by
    refine (hr.entries_toJson.map _).trans (.of_eq ?_)
    rw [List.map_map]
    exact List.map_congr_left fun l _ => congrArg (·, _) (Path.intercalate_segments l.1)
  -- the joined names are the paths, which are distinct
  have hnodup : (r.toJson.entries.map fun e => ".".intercalate e.1).Nodup := by
    have hnames := hentries.map Prod.fst
    rw [List.map_map, List.map_map] at hnames
    exact hnames.nodup_iff.2 (Keyed.nodup_names hr.sorted)
  exact ⟨hentries, hnodup, fun x i => Value.toJson_number, ⟨_, toJson_eq r, nested_membersOf _⟩,
    fun front l back => hr.hasRoom, hr.fieldsOf?_toJson⟩

example :
    let fields := [("fee.type", .text "fixed"), ("fee", .text "none"), ("fee.amount", .text "50")]
    (new.writeAll fields).toJson =
      .object [("fee", .object [("amount", .text "50"), ("type", .text "fixed")])] := by
  rfl

end CancellationPolicy.Record
