import CancellationPolicy.Proofs.Expression
import CancellationPolicy.Proofs.Extraction.Replay
import CancellationPolicy.Proofs.Pattern.Numerals

/-!
# Fields that rules fill

Checks of a rule that say something about its evidence in any text:

* every occurrence gives a value for a field (`exists_evidence_of_alwaysFills`);
* the values for count fields are numbers, or texts with a digit that no amount is written with
  (`isCountIn_of_mem_evidence`).

A check looks at the expression of a field and at the groups of the pattern that the expression
refers to.
-/

namespace CancellationPolicy

open Expression

variable {text : String} {x : Occurrence} {term name s : String} {v : Value}

namespace Pattern

variable {p : Pattern}

/-! ### References -/

/-- Whether what is captured under a name is worth what it is: it is not empty and unmarked. -/
def keepsPlain (p : Pattern) (name : String) : Bool :=
  p.allGroups name fun body => !body.isNullable && body.avoids marks

/-- What is captured is not empty and has no marks, so it stands for itself. -/
theorem value?_of_keepsPlain (h : p.keepsPlain name = true) (hx : x ∈ p.occurrences text)
    (hs : Keyed.find? name x.captures = some s) :
    (Piece.reference name).value? x.captures = some s.toList ∧
      literalValue? s.toList = some (((Amount.parse? s).map Value.number).getD (.text s)) := by
  obtain ⟨body, j, hcheck, hbody, -⟩ := exists_body_of_capture h hx hs
  rw [Bool.and_eq_true, Bool.not_eq_true'] at hcheck
  have hne := ne_nil_of_describes hbody hcheck.1
  have hvalue := literalValue?_of_unmarked hne (not_mem_of_avoids hbody hcheck.2)
  have hempty : s ≠ "" := fun h => hne (by rw [h]; rfl)
  rw [String.ofList_toList] at hvalue
  refine ⟨?_, hvalue⟩
  rw [Piece.value?, hs]
  simp [hempty]

end Pattern

namespace Rule

variable {r : Rule} {path : String}

/-- Whether a term has a value that is not empty, whatever is captured. -/
def isFixed (term : String) : Bool := (termValue? [] term).any (!·.isEmpty)

/-- Whether every occurrence of the rule gives a value for a field. -/
def alwaysFills (r : Rule) (path : String) : Bool :=
  (r.fields.getD []).any fun f => f.path == path &&
    (f.expression.terms.any isFixed ||
      r.pattern.binds ((f.expression.terms.filterMap reference?).filter r.pattern.keepsPlain))

/-- An expression with a fixed term always has a value. -/
theorem exists_resolve?_of_isFixed {e : Expression} {captures : Captures}
    (h : e.terms.any isFixed = true) : ∃ v, e.resolve? captures = some v := by
  obtain ⟨term, hterm, hfixed⟩ := List.any_eq_true.1 h
  obtain ⟨v, hv, -⟩ := (Option.any_eq_true _ _).1 hfixed
  exact exists_resolve?_of_mem hterm (termValue?_of_nil hv)

/-- If one of the plain parts that an expression refers to is always there, then so is a value. -/
theorem exists_resolve?_of_binds {e : Expression} {p : Pattern}
    (h : p.binds ((e.terms.filterMap reference?).filter p.keepsPlain) = true)
    (hx : x ∈ p.occurrences text) : ∃ v, e.resolve? x.captures = some v := by
  obtain ⟨name, hname, s, hs⟩ := Pattern.exists_capture_of_binds h hx
  obtain ⟨hname, hplain⟩ := List.mem_filter.1 hname
  obtain ⟨term, hterm, href⟩ := List.mem_filterMap.1 hname
  obtain ⟨hvalue, hliteral⟩ := Pattern.value?_of_keepsPlain hplain hx hs
  have hv : termValue? x.captures term =
      some (((Amount.parse? s).map Value.number).getD (.text s)) := by
    rw [termValue?_of_reference href, hvalue, Option.bind_some, hliteral]
  exact exists_resolve?_of_mem hterm hv

/-- A rule that always fills a path has a field for it with a value wherever the rule matches. -/
theorem exists_field_of_alwaysFills (h : r.alwaysFills path = true) :
    ∃ fields ∈ r.fields, ∃ f ∈ fields, f.path = path ∧
      ∀ text, ∀ x ∈ r.pattern.occurrences text, ∃ v, f.expression.resolve? x.captures = some v := by
  obtain ⟨f, hf, hcheck⟩ := List.any_eq_true.1 h
  obtain ⟨hpath, hfills⟩ := Bool.and_eq_true_iff.1 hcheck
  cases hfields : r.fields with
  | none =>
    rw [hfields] at hf
    cases hf
  | some fields =>
    rw [hfields] at hf
    refine ⟨fields, rfl, f, hf, beq_iff_eq.1 hpath, fun text x hx => ?_⟩
    -- a term has a value without captures, or one of the references is always captured
    rcases Bool.or_eq_true _ _ ▸ hfills with hfixed | hbinds
    · exact exists_resolve?_of_isFixed hfixed
    · exact exists_resolve?_of_binds hbinds hx

/-- Every occurrence gives a value for a field that is always filled. -/
theorem exists_evidence_of_alwaysFills (h : r.alwaysFills path = true)
    (hx : x ∈ r.pattern.occurrences text) : ∃ v, (path, v) ∈ r.evidence text := by
  obtain ⟨fields, hfields, f, hf, hpath, hresolve⟩ := exists_field_of_alwaysFills h
  obtain ⟨v, hv⟩ := hresolve text x hx
  exact ⟨v, mem_evidence.2 ⟨fields, hfields, x, hx, f, hf, hpath, hv⟩⟩

/-! ### Counts -/

/-- Whether a value is a number, or a text of which no amount is made because it holds a foreign
digit that the given text holds as well. -/
def IsCountIn (text : String) (v : Value) : Prop :=
  (∃ n, v = .number n) ∨
    ∃ s, v = .text s ∧ s.toList <:+: text.toList ∧
      ∃ c ∈ s.toList, Unicode.isForeignDigit c = true

/-- Whether a piece of a term stands for no text with a closing parenthesis. -/
def staysOpen (p : Pattern) : Piece → Bool
  | .char c => c != ')'
  | .reference name => p.allGroups name (Pattern.avoids [')'.toNat])

/-- Whether the value of a term is a count, if it has one. -/
def readsCount (p : Pattern) (term : String) : Bool :=
  (termValue? [] term).any (·.number?.isSome) ||
    (reference? term).any (fun name =>
      p.keepsPlain name && p.allGroups name Pattern.isNumeral) ||
    (call? term).any fun inner => inner.all (staysOpen p)

/-- Whether the values of all count fields of the rule are counts. -/
def readsCounts (r : Rule) : Bool :=
  (r.fields.getD []).all fun f =>
    !Path.isCount f.path || f.expression.terms.all (readsCount r.pattern)

theorem isCountIn_of_reference {p : Pattern} (href : reference? term = some name)
    (hplain : p.keepsPlain name = true) (hnumeral : p.allGroups name Pattern.isNumeral = true)
    (hx : x ∈ p.occurrences text) (hv : termValue? x.captures term = some v) :
    IsCountIn text v := by
  rw [termValue?_of_reference href] at hv
  cases hs : Keyed.find? name x.captures with
  | none =>
    rw [Piece.value?, hs] at hv
    cases hv
  | some s =>
    obtain ⟨hvalue, hliteral⟩ := Pattern.value?_of_keepsPlain hplain hx hs
    obtain ⟨body, j, hcheck, hbody, hpart⟩ := Pattern.exists_body_of_capture hnumeral hx hs
    rw [hvalue, Option.bind_some, hliteral] at hv
    obtain rfl := Option.some.inj hv
    have hread := Pattern.isSome_parse?_or_exists_foreign hcheck hbody
    rw [String.ofList_toList] at hread
    -- a numeral without foreign digits is an amount
    rcases hread with hsome | hforeign
    · obtain ⟨n, hn⟩ := Option.isSome_iff_exists.1 hsome
      exact .inl ⟨n, by rw [hn]; rfl⟩
    · cases hn : Amount.parse? s with
      | none => exact .inr ⟨s, rfl, hpart, hforeign⟩
      | some n => exact .inl ⟨n, rfl⟩

theorem not_mem_of_staysOpen {p : Pattern} {piece : Piece} {w : List Char}
    (h : staysOpen p piece = true) (hx : x ∈ p.occurrences text)
    (hw : piece.value? x.captures = some w) : ')' ∉ w := by
  cases piece with
  | char c =>
    rw [← Option.some.inj hw, List.mem_singleton]
    exact Ne.symm (bne_iff_ne.1 h)
  | reference name =>
    rw [Piece.value?] at hw
    split at hw
    · rename_i s hs
      split at hw
      · cases hw
      · obtain ⟨body, j, hcheck, hbody, -⟩ := Pattern.exists_body_of_capture h hx hs
        rw [← Option.some.inj hw]
        exact fun hmem => Pattern.not_mem_of_avoids hbody hcheck _ hmem List.mem_cons_self
    · cases hw

theorem isCountIn_of_readsCount {p : Pattern} (h : readsCount p term = true)
    (hx : x ∈ p.occurrences text) (hv : termValue? x.captures term = some v) :
    IsCountIn text v := by
  unfold readsCount at h
  rw [Bool.or_eq_true, Bool.or_eq_true] at h
  -- the term is a number, a reference to a numeral, or a call
  rcases h with (hfixed | hreference) | hcall
  · obtain ⟨u, hu, hnumber⟩ := (Option.any_eq_true _ _).1 hfixed
    obtain rfl : u = v := Option.some.inj ((termValue?_of_nil hu).symm.trans hv)
    cases u with
    | number n => exact .inl ⟨n, rfl⟩
    | text s => cases hnumber
  · obtain ⟨name, hname, hcheck⟩ := (Option.any_eq_true _ _).1 hreference
    obtain ⟨hplain, hnumeral⟩ := Bool.and_eq_true_iff.1 hcheck
    exact isCountIn_of_reference hname hplain hnumeral hx hv
  · obtain ⟨inner, hinner, hcheck⟩ := (Option.any_eq_true _ _).1 hcall
    refine .inl (eq_number_of_call? hinner (fun piece hpiece w hw => ?_) hv)
    exact not_mem_of_staysOpen (List.all_eq_true.1 hcheck piece hpiece) hx hw

/-- The evidence of a rule for count fields is counts. -/
theorem isCountIn_of_mem_evidence (h : r.readsCounts = true) {e : String × Value}
    (he : e ∈ r.evidence text) (hcount : Path.isCount e.1 = true) : IsCountIn text e.2 := by
  obtain ⟨fields, hfields, x, hx, f, hf, hpath, hv⟩ := mem_evidence.1 he
  rw [readsCounts, hfields] at h
  have hcheck := List.all_eq_true.1 h f hf
  rw [hpath, hcount, Bool.not_true, Bool.false_or] at hcheck
  obtain ⟨term, hterm, hvalue⟩ := exists_term_of_resolve? hv
  exact isCountIn_of_readsCount (List.all_eq_true.1 hcheck term hterm) hx hvalue

end Rule

end CancellationPolicy
