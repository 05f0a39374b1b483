import CancellationPolicy.Proofs.Json.Exact
import CancellationPolicy.Proofs.Json.Parts
import CancellationPolicy.Proofs.Json.Reading

/-!
# What a document says

Two texts may say the same in different ways: a number may be written with or without an exponent,
and the members of an object in any order.  The content of a text (`content?`) leaves out the way it
is written.

The text of a document whose numbers are finite has its content (`content?_pretty`), to the parts of
which the same names lead as in the document (`follow?_content`).  The wide form of a document has
the same content exactly if its numbers of 32 bits keep their decimals in 64 bits
(`content_widen_iff`).
-/

namespace CancellationPolicy.Json

/-- What is found in a document of finite numbers has finite numbers. -/
theorem IsFinite.follow? {v w : Json} {names : List String} (hv : v.IsFinite)
    (hw : v.follow? names = some w) : w.IsFinite := by
  induction names generalizing v with
  | nil =>
    obtain rfl : v = w := Option.some.inj hw
    exact hv
  | cons k names ih =>
    obtain ⟨ms, u, rfl, hu, hrest⟩ := exists_of_follow?_cons hw
    exact ih (membersFinite_iff.1 hv _ hu) hrest

/-! ### Contents -/

/-- What a document says.  Numbers are rationals, and the members of an object have no order. -/
inductive Content where
  /-- The missing value. -/
  | null
  /-- A truth value. -/
  | bool (value : Bool)
  /-- A number. -/
  | number (value : ℚ)
  /-- A text, if its escapes stand for characters. -/
  | text (value : Option String)
  /-- A list of values. -/
  | array (items : List Content)
  /-- The values that there are under names. -/
  | object (members : String → Option Content)

/-- The member under a name. -/
def Content.member? (name : String) : Content → Option Content
  | object members => members name
  | _ => none

/-- The content to which names lead. -/
def Content.follow? (names : List String) (c : Content) : Option Content :=
  names.foldlM (fun c name => c.member? name) c

mutual

/-- What a source says. -/
def Source.content : Source → Content
  | null => .null
  | bool b => .bool b
  | number n => .number n.exact
  | text s => .text s
  | array xs => .array (itemContents xs)
  | object ms => .object (memberContent? ms)

/-- What the items of an array say. -/
def Source.itemContents : List Source → List Content
  | [] => []
  | x :: xs => content x :: itemContents xs

/-- What the members of an object say; of two under one name the later counts. -/
def Source.memberContent? : List (Option String × Source) → String → Option Content
  | [], _ => none
  | (k, x) :: ms, name =>
    match memberContent? ms name with
    | some c => some c
    | none => if k = some name then some (content x) else none

end

/-- What a text says, if it is a document. -/
def content? (text : String) : Option Content := (Source.read? text).map Source.content

/-- What a value says. -/
def content (v : Json) : Content := v.toSource.content

variable {v w : Json} {xs : List Json} {ms : List (String × Json)}

/-- The text of a document of finite numbers says what the document says. -/
theorem content?_pretty (h : v.IsFinite) : content? v.pretty = some v.content := by
  unfold content?
  rw [read?_pretty h]
  rfl

theorem content_array (xs : List Json) : (array xs).content = .array (xs.map content) := by
  have hitems (xs : List Json) : Source.itemContents (toSources xs) = xs.map content := by
    induction xs with
    | nil => rfl
    | cons x xs ih =>
      rw [toSources, Source.itemContents, ih]
      rfl
  rw [content, toSource, Source.content, hitems]

/-- An object with distinct names says, for each name, what its member says. -/
theorem content_object (h : (ms.map Prod.fst).Nodup) :
    (object ms).content = .object fun name => (Keyed.find? name ms).map content := by
  -- when a name comes twice the last member counts, so the names have to be distinct
  have hmembers (name : String) :
      Source.memberContent? (toMembers ms) name = (Keyed.find? name ms).map content := by
    induction ms with
    | nil => rfl
    | cons m ms ih =>
      obtain ⟨k, v⟩ := m
      obtain ⟨hk, hnodup⟩ := List.nodup_cons.1 h
      rw [toMembers, Source.memberContent?, ih hnodup, Keyed.find?]
      by_cases hname : name = k
      · -- no later member has the name of the first
        subst hname
        rw [if_pos rfl, Keyed.find?_eq_none_iff.2 hk]
        simp [content]
      · have hne : ¬some k = some name := by
          intro heq
          exact hname (Option.some.inj heq).symm
        rw [if_neg hname, if_neg hne]
        cases Keyed.find? name ms <;> rfl
  rw [content, toSource, Source.content, funext hmembers]

theorem member?_content (hv : v.HasDistinctNames) (name : String) :
    v.content.member? name = (v.member? name).map content := by
  cases v with
  | object ms =>
    rw [content_object (hv.self ms rfl)]
    rfl
  | _ => rfl

/-- Names lead to the content of what they lead to. -/
theorem follow?_content (hv : v.HasDistinctNames) (names : List String) :
    v.content.follow? names = (v.follow? names).map content :=
  foldlM_eq_map_follow? (fun _ hv k => member?_content hv k) hv names

/-! ### The content of the wide form -/

/-- Whether the numbers of 32 bits in a document keep their decimals in 64 bits. -/
def KeepsDecimals (v : Json) : Prop :=
  v.All fun w => ∀ x, w = number (.single x) → x.KeepsDecimal

/-- Widening keeps numbers finite. -/
theorem isFinite_widen (hv : v.IsFinite) : v.widen.IsFinite := by
  induction v using induction with
  | number n =>
    cases n with
    | single x =>
      have hx := Binary.isFinite_convert_double hv
      rw [widen, double, if_pos hx]
      exact hx
    | _ => exact hv
  | array xs ih =>
    have hall := areFinite_iff.1 hv
    rw [widen, widenItems_eq_map]
    apply areFinite_iff.2
    rw [List.forall_mem_map]
    intro x hx
    exact ih x hx (hall x hx)
  | object ms ih =>
    have hall := membersFinite_iff.1 hv
    rw [widen_object]
    apply membersFinite_iff.2
    intro m hm
    obtain ⟨m', hm', rfl⟩ := List.mem_map.1 (Keyed.mem_of_mem_ofList hm)
    exact ih m' hm' (hall m' hm')
  | _ => exact hv

/-- A widened number says the same exactly if it keeps its decimal. -/
theorem content_widen_single {x : Single} (hx : x.isFinite = true) :
    (number (.single x)).widen.content = (number (.single x)).content ↔ x.KeepsDecimal := by
  have hwide := Binary.isFinite_convert_double hx
  rw [widen, double, if_pos hwide, ← Binary.exact_numeral_convert_iff hx]
  show Content.number _ = Content.number _ ↔ _
  rw [Content.number.injEq]
  rfl

/-- A widened array says the same exactly if all its items do. -/
theorem content_widen_array :
    (array xs).widen.content = (array xs).content ↔ ∀ x ∈ xs, x.widen.content = x.content := by
  rw [widen, widenItems_eq_map, content_array, content_array, Content.array.injEq, List.map_map,
    List.map_inj_left]
  rfl

/-- A widened object says the same exactly if all its members do. -/
theorem content_widen_object (h : (ms.map Prod.fst).Nodup) :
    (object ms).widen.content = (object ms).content ↔
      ∀ m ∈ ms, m.2.widen.content = m.2.content := by
  have hsorted := Keyed.nodup_names (Keyed.ofList_sorted (ms.map fun m => (m.1, m.2.widen)))
  rw [widen_object, content_object hsorted, content_object h, Content.object.injEq, funext_iff]
  simp only [find?_widen h, Option.map_map]
  constructor
  · intro hall m hm
    have hm' := hall m.1
    rw [(Keyed.find?_eq_some_iff_of_nodup h).2 hm] at hm'
    exact Option.some.inj hm'
  · intro hall name
    cases hfound : Keyed.find? name ms with
    | none => rfl
    | some u => exact congrArg some (hall (name, u) (Keyed.mem_of_find?_eq_some hfound))

/-- The wide form of a document says the same exactly if the numbers of 32 bits keep their
decimals. -/
theorem content_widen_iff (hfinite : v.IsFinite) (hv : v.HasDistinctNames) :
    v.widen.content = v.content ↔ v.KeepsDecimals := by
  induction v using induction with
  | number n =>
    cases n with
    | single x =>
      rw [content_widen_single hfinite]
      constructor
      · rintro hx _ ⟨⟩
        exact hx
      · intro h
        exact h x rfl
    | _ => exact iff_of_true rfl (by rintro _ ⟨⟩)
  | array xs ih =>
    -- an array is no number itself, so that only its items count
    rw [content_widen_array, KeepsDecimals, all_array]
    have hparts : ∀ x ∈ xs, x.widen.content = x.content ↔ x.KeepsDecimals := by
      intro x hx
      exact ih x hx (areFinite_iff.1 hfinite x hx) ((all_array.1 hv).2 x hx)
    constructor
    · intro h
      exact ⟨by rintro _ ⟨⟩, fun x hx => (hparts x hx).1 (h x hx)⟩
    · rintro ⟨-, h⟩ x hx
      exact (hparts x hx).2 (h x hx)
  | object ms ih =>
    rw [content_widen_object (hv.self ms rfl), KeepsDecimals, all_object]
    have hparts : ∀ m ∈ ms, m.2.widen.content = m.2.content ↔ m.2.KeepsDecimals := by
      intro m hm
      exact ih m hm (membersFinite_iff.1 hfinite m hm) ((all_object.1 hv).2 m hm)
    constructor
    · intro h
      exact ⟨by rintro _ ⟨⟩, fun m hm => (hparts m hm).1 (h m hm)⟩
    · rintro ⟨-, h⟩ m hm
      exact (hparts m hm).2 (h m hm)
  | _ => exact iff_of_true rfl (by rintro _ ⟨⟩)

end CancellationPolicy.Json
