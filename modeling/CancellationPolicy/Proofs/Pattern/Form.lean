import CancellationPolicy.Pattern.Form
import CancellationPolicy.Proofs.Pattern.Language
import CancellationPolicy.Proofs.Pattern.Ordered
import CancellationPolicy.Proofs.Traversal
import Mathlib.Algebra.BigOperators.Group.List.Basic
import Mathlib.Algebra.BigOperators.Ring.List
import Mathlib.Computability.Language

/-!
# Forms describe what patterns describe

A pattern and its form describe the same texts (`Pattern.language_form`), so that a program that is
made from the form is one for the pattern.  As in `Pattern.Describes`, conditions on places are left
aside, and so is which way to match is preferred.

A row describes the product of the languages of its parts, and a fork the sum of those of its
branches.  Gluing and flattening are associativity, and lifting what branches begin with is
distributivity.  That one set stands for several is true if their switches are in order, as they are
in every pattern that is read (`Pattern.language_form_of_parse?`).
-/

namespace CancellationPolicy

/-! ### Sets of one character -/

/-- The set of one code point holds its character. -/
theorem CharSet.holds_single {c : Char} (n : Nat) :
    (single n).holds c = true ↔ c.toNat = n := by
  simp only [holds, contains, single, range, Nat.le_refl, if_true, inside]
  by_cases hlt : c.toNat < n
  · simp only [hlt, if_true, Bool.false_eq_true, false_iff]
    omega
  · by_cases hle : c.toNat < n + 1
    · simp only [hlt, hle, if_false, if_true, Bool.not_false, true_iff]
      omega
    · simp only [hlt, hle, if_false, Bool.not_false, Bool.not_true, Bool.false_eq_true, false_iff]
      omega

namespace Pattern

/-! ### Languages -/

/-- The texts of one character of a set. -/
def single (s : CharSet) : Language Char := {w | ∃ c, s.holds c = true ∧ w = [c]}

/-- The texts of several rounds, as many as the bounds of a repetition allow. -/
def roundsOf (least : Nat) (most : Option Nat) (l : Language Char) : Language Char :=
  {w | ∃ n, least ≤ n ∧ (∀ m ∈ most, n ≤ max least m) ∧ w ∈ l ^ n}

/-- The texts that a pattern describes. -/
def language (p : Pattern) : Language Char := {w | ∃ k, p.Describes w k}

namespace Form

/-- The texts that a form describes. -/
def language : Form → Language Char
  | empty | assertion _ => 1
  | text cs => {w | w.map Char.toNat = cs}
  | set s => single s
  | group p => p.language
  | cat p q => p.language * q.language
  | alt p q => p.language + q.language
  | repeated least most _ p => roundsOf least most p.language

/-- Whether the switches of all sets of a form are in order. -/
def IsOrdered : Form → Prop
  | empty | assertion _ | text _ => True
  | set s => s.IsOrdered
  | group p | repeated _ _ _ p => p.IsOrdered
  | cat p q | alt p q => p.IsOrdered ∧ q.IsOrdered

end Form

theorem mem_single {s : CharSet} {w : List Char} :
    w ∈ single s ↔ ∃ c, s.holds c = true ∧ w = [c] := Iff.rfl

theorem single_empty : single ∅ = 0 := by
  ext w
  refine iff_of_false ?_ (Language.notMem_zero w)
  rintro ⟨c, hc, -⟩
  cases hc

theorem single_union {s t : CharSet} (hs : s.IsOrdered) (ht : t.IsOrdered) :
    single (s ∪ t) = single s + single t := by
  ext w
  simp only [Language.mem_add, mem_single, CharSet.holds_union hs ht, or_and_right, exists_or]

theorem single_single (n : Nat) : single (.single n) = (Form.text [n]).language := by
  ext w
  simp only [mem_single, CharSet.holds_single]
  constructor
  · rintro ⟨c, rfl, rfl⟩
    rfl
  · intro hw
    have hw : w.map Char.toNat = [n] := hw
    obtain ⟨c, rfl, hc⟩ := List.map_eq_singleton_iff.1 hw
    exact ⟨c, hc, rfl⟩

/-! ### What patterns describe, as languages -/

section Language

variable (p q : Pattern)

/-- The language of a pattern has the texts that it describes. -/
theorem mem_language {p : Pattern} {w : List Char} : w ∈ p.language ↔ ∃ k, p.Describes w k :=
  Iff.rfl

theorem language_empty : empty.language = 1 := by
  ext w
  simp [mem_language, Describes, Language.mem_one]

theorem language_assertion (a : Assertion) : (assertion a).language = 1 := by
  ext w
  simp [mem_language, Describes, Language.mem_one]

theorem language_chars (s : CharSet) : (chars s).language = single s := by
  ext w
  simp [mem_language, mem_single, Describes]

theorem language_group (name : Option String) : (group name p).language = p.language := by
  ext w
  constructor
  · rintro ⟨k, j, h, -⟩
    exact ⟨j, h⟩
  · rintro ⟨j, h⟩
    exact ⟨_, j, h, rfl⟩

/-- One behind another, languages are multiplied. -/
theorem language_cat : (cat p q).language = p.language * q.language := by
  ext w
  rw [Language.mem_mul]
  constructor
  · rintro ⟨k, v, j, v', j', hp, hq, rfl, -⟩
    exact ⟨v, ⟨j, hp⟩, v', ⟨j', hq⟩, rfl⟩
  · rintro ⟨v, ⟨j, hp⟩, v', ⟨j', hq⟩, rfl⟩
    exact ⟨_, v, j, v', j', hp, hq, rfl, rfl⟩

theorem language_alt : (alt p q).language = p.language + q.language := by
  ext w
  exact exists_or

/-- Rounds that are described one behind another are a power. -/
theorem mem_language_pow_iff {n : Nat} {w : List Char} :
    w ∈ p.language ^ n ↔ ∃ k, Iterated p.Describes n w k := by
  induction n generalizing w with
  | zero => simp [Iterated, Language.mem_one]
  | succ n ih =>
    rw [pow_succ, Language.mem_mul]
    constructor
    · rintro ⟨v, hv, v', ⟨j', hv'⟩, rfl⟩
      obtain ⟨j, hv⟩ := ih.1 hv
      exact ⟨_, v, j, v', j', hv, hv', rfl, rfl⟩
    · rintro ⟨k, v, j, v', j', hv, hv', rfl, -⟩
      exact ⟨v, ih.2 ⟨j, hv⟩, v', ⟨j', hv'⟩, rfl⟩

/-- A repetition has the texts of so many rounds. -/
theorem language_repeated (least : Nat) (most : Option Nat) (greedy : Bool) :
    (repeated least most greedy p).language = roundsOf least most p.language := by
  ext w
  constructor
  · rintro ⟨k, n, hleast, hmost, h⟩
    exact ⟨n, hleast, hmost, (mem_language_pow_iff p).2 ⟨k, h⟩⟩
  · rintro ⟨n, hleast, hmost, h⟩
    obtain ⟨k, h⟩ := (mem_language_pow_iff p).1 h
    exact ⟨k, n, hleast, hmost, h⟩

end Language

namespace Form

variable {p : Form} {ps bs : List Form} {l : Language Char}

/-! ### What is asked of forms -/

/-- Whether a form is in order and describes a language. -/
structure Is (p : Form) (l : Language Char) : Prop where
  /-- The sets are in order. -/
  ordered : p.IsOrdered
  /-- It describes the language. -/
  language_eq : p.language = l

/-- Whether forms are in order and describe a language one behind another. -/
structure AreRow (ps : List Form) (l : Language Char) : Prop where
  /-- The sets are in order. -/
  ordered : ∀ p ∈ ps, p.IsOrdered
  /-- One behind another, they describe the language. -/
  prod_eq : (ps.map language).prod = l

/-- Whether forms are in order and describe a language as alternatives. -/
structure AreFork (ps : List Form) (l : Language Char) : Prop where
  /-- The sets are in order. -/
  ordered : ∀ p ∈ ps, p.IsOrdered
  /-- Taken together, they describe the language. -/
  sum_eq : (ps.map language).sum = l

theorem is_language (h : p.IsOrdered) : p.Is p.language := ⟨h, rfl⟩

theorem areRow_nil : AreRow [] 1 := ⟨fun _ h => absurd h List.not_mem_nil, rfl⟩

theorem areRow_cons {m : Language Char} (hp : p.Is l) (hps : AreRow ps m) :
    AreRow (p :: ps) (l * m) := by
  refine ⟨?_, by rw [List.map_cons, List.prod_cons, hp.language_eq, hps.prod_eq]⟩
  rintro q (_ | ⟨_, hq⟩)
  · exact hp.ordered
  · exact hps.ordered q hq

theorem areFork_cons {m : Language Char} (hp : p.Is l) (hps : AreFork ps m) :
    AreFork (p :: ps) (l + m) := by
  refine ⟨?_, by rw [List.map_cons, List.sum_cons, hp.language_eq, hps.sum_eq]⟩
  rintro q (_ | ⟨_, hq⟩)
  · exact hp.ordered
  · exact hps.ordered q hq

/-! ### Rows -/

/-- The parts of a form are a row of its language. -/
theorem areRow_parts (h : p.IsOrdered) : AreRow p.parts p.language := by
  induction p with
  | empty => exact areRow_nil
  | cat p q _ ihq => exact areRow_cons (is_language h.1) (ihq h.2)
  | _ =>
    rw [← mul_one (language _)]
    exact areRow_cons (is_language h) areRow_nil

/-- The form of a row has its language. -/
theorem AreRow.ofParts (h : AreRow ps l) : (ofParts ps).Is l := by
  obtain ⟨hordered, rfl⟩ := h
  induction ps with
  | nil => exact ⟨trivial, rfl⟩
  | cons p ps ih =>
    have hp := hordered p List.mem_cons_self
    obtain ⟨hps, hlanguage⟩ := ih fun q hq => hordered q (List.mem_cons_of_mem _ hq)
    cases ps with
    | nil => exact ⟨hp, (mul_one _).symm⟩
    | cons q ps => exact ⟨⟨hp, hps⟩, by rw [List.map_cons, List.prod_cons, ← hlanguage]; rfl⟩

/-- The texts of code points behind one another. -/
theorem language_text_append (cs ds : List Nat) :
    (text (cs ++ ds)).language = (text cs).language * (text ds).language := by
  ext w
  rw [Language.mem_mul]
  constructor
  · intro hw
    obtain ⟨v, v', rfl, hv, hv'⟩ := List.map_eq_append_iff.1 hw
    exact ⟨v, hv, v', hv', rfl⟩
  · rintro ⟨v, hv, v', hv', rfl⟩
    have hv : v.map Char.toNat = cs := hv
    have hv' : v'.map Char.toNat = ds := hv'
    show (v ++ v').map Char.toNat = cs ++ ds
    rw [List.map_append, hv, hv']

/-- Gluing a form in front of a row puts its language in front. -/
theorem AreRow.glue (hps : AreRow ps l) (hp : p.IsOrdered) :
    AreRow (glue p ps) (p.language * l) := by
  unfold Form.glue
  split
  · rename_i cs ds ps
    obtain ⟨hordered, rfl⟩ := hps
    have hrest : AreRow ps _ := ⟨fun q hq => hordered q (List.mem_cons_of_mem _ hq), rfl⟩
    rw [List.map_cons, List.prod_cons, ← mul_assoc, ← language_text_append]
    exact areRow_cons (is_language trivial) hrest
  · exact areRow_cons (is_language hp) hps

/-- Gluing a row in front of another one, form by form. -/
theorem AreRow.foldr_glue (hps : AreRow ps l) {qs : List Form} {m : Language Char}
    (hqs : AreRow qs m) : AreRow (qs.foldr Form.glue ps) (m * l) := by
  obtain ⟨hordered, rfl⟩ := hqs
  induction qs with
  | nil =>
    rw [List.map_nil, List.prod_nil, one_mul]
    exact hps
  | cons q qs ih =>
    rw [List.map_cons, List.prod_cons, mul_assoc]
    exact (ih fun r hr => hordered r (List.mem_cons_of_mem _ hr)).glue
      (hordered q List.mem_cons_self)

theorem AreRow.before (hps : AreRow ps l) {m : Language Char} (hp : p.Is m) :
    AreRow (p.before ps) (m * l) := by
  rw [← hp.language_eq]
  exact hps.foldr_glue (areRow_parts hp.ordered)

/-! ### Forks -/

/-- The branches of a form are alternatives of its language. -/
theorem areFork_branches (h : p.IsOrdered) : AreFork p.branches p.language := by
  induction p with
  | alt p q _ ihq => exact areFork_cons (is_language h.1) (ihq h.2)
  | _ =>
    rw [← add_zero (language _)]
    exact areFork_cons (is_language h) ⟨fun _ h => absurd h List.not_mem_nil, rfl⟩

/-- The form of alternatives has their language. -/
theorem AreFork.ofBranches (h : AreFork bs l) : (ofBranches bs).Is l := by
  obtain ⟨hordered, rfl⟩ := h
  induction bs with
  | nil => exact ⟨CharSet.isOrdered_empty, single_empty⟩
  | cons p ps ih =>
    have hp := hordered p List.mem_cons_self
    obtain ⟨hps, hlanguage⟩ := ih fun q hq => hordered q (List.mem_cons_of_mem _ hq)
    cases ps with
    | nil => exact ⟨hp, (add_zero _).symm⟩
    | cons q ps => exact ⟨⟨hp, hps⟩, by rw [List.map_cons, List.sum_cons, ← hlanguage]; rfl⟩

/-- Alternatives that are forks are replaced by their branches. -/
theorem AreFork.flatMap_branches (h : AreFork ps l) : AreFork (ps.flatMap branches) l := by
  obtain ⟨hordered, rfl⟩ := h
  induction ps with
  | nil => exact ⟨fun _ h => absurd h List.not_mem_nil, rfl⟩
  | cons p ps ih =>
    obtain ⟨hps, hsum⟩ := ih fun q hq => hordered q (List.mem_cons_of_mem _ hq)
    obtain ⟨hp, hbranches⟩ := areFork_branches (hordered p List.mem_cons_self)
    refine ⟨fun q hq => ?_, ?_⟩
    · rcases List.mem_append.1 (List.flatMap_cons ▸ hq) with hq | hq
      · exact hp q hq
      · exact hps q hq
    · rw [List.flatMap_cons, List.map_append, List.sum_append, hbranches, hsum, List.map_cons,
        List.sum_cons]

/-! ### One set for several branches -/

/-- The form of a set describes its single characters. -/
theorem is_ofSet {s : CharSet} (h : s.IsOrdered) : (ofSet s).Is (single s) := by
  unfold ofSet
  split
  · rename_i lo hi hs
    split
    · rename_i hhi
      have hsingle : s = .single lo := by
        rw [CharSet.single, CharSet.range, if_pos (Nat.le_refl lo), ← hhi, ← hs]
      exact ⟨trivial, by rw [hsingle, single_single]⟩
    · exact ⟨h, rfl⟩
  · exact ⟨h, rfl⟩

/-- The union of sets that branches stand for is the fork of them. -/
theorem is_ofSet_foldl {f : Form → Option CharSet}
    (hf : ∀ {p s}, f p = some s → p.IsOrdered → s.IsOrdered ∧ p.language = single s)
    {ss : List CharSet} (hbs : AreFork bs l) (hss : bs.mapM f = some ss) :
    (ofSet (ss.foldl (· ∪ ·) ∅)).Is l := by
  obtain ⟨hordered, rfl⟩ := hbs
  have hall := mapM_eq_some_iff.1 hss
  -- the union so far is generalized, since it grows along the branches
  have hfold (s : CharSet) (hs : s.IsOrdered) :
      (ss.foldl (· ∪ ·) s).IsOrdered ∧
        single (ss.foldl (· ∪ ·) s) = single s + (bs.map language).sum := by
    clear hss
    induction hall generalizing s with
    | nil => exact ⟨hs, (add_zero _).symm⟩
    | @cons p t ps ts hp _ ih =>
      obtain ⟨ht, hlanguage⟩ := hf hp (hordered p List.mem_cons_self)
      obtain ⟨hunion, hsingle⟩ := ih (fun q hq => hordered q (List.mem_cons_of_mem _ hq))
        (s ∪ t) (hs.union ht)
      refine ⟨hunion, ?_⟩
      rw [List.foldl_cons, hsingle, single_union hs ht, List.map_cons, List.sum_cons, hlanguage,
        add_assoc]
  obtain ⟨hunion, hsingle⟩ := hfold ∅ CharSet.isOrdered_empty
  rw [← zero_add (bs.map language).sum, ← single_empty, ← hsingle]
  exact is_ofSet hunion

/-- Alternatives that are merged into one set have its language. -/
theorem is_of_merged? (hbs : AreFork bs l) (h : merged? bs = some p) : p.Is l := by
  obtain ⟨ss, hss, rfl⟩ := Option.map_eq_some_iff.1 h
  rcases (Option.orElse_eq_some _ _ _).1 hss with hss | ⟨-, hss⟩
  · refine is_ofSet_foldl (fun {p s} hp _ => ?_) hbs hss
    unfold single? at hp
    split at hp
    · obtain rfl := Option.some.inj hp
      exact ⟨CharSet.isOrdered_single _, (single_single _).symm⟩
    · cases hp
  · refine is_ofSet_foldl (fun {p s} hp hordered => ?_) hbs hss
    unfold set? at hp
    split at hp
    · obtain rfl := Option.some.inj hp
      exact ⟨hordered, rfl⟩
    · cases hp

/-- A fork that is not simplified further has the language of its alternatives. -/
theorem is_plainFork (h : AreFork ps l) : (plainFork ps).Is l := by
  have hbs := h.flatMap_branches
  unfold plainFork
  dsimp only
  cases hmerged : merged? (ps.flatMap branches) with
  | none => exact hbs.ofBranches
  | some p => exact is_of_merged? hbs hmerged

/-! ### What branches begin with -/

/-- What two rows have in common starts both. -/
theorem common_isPrefix (ps qs : List Form) : common ps qs <+: ps ∧ common ps qs <+: qs := by
  induction ps generalizing qs with
  | nil => exact ⟨List.nil_prefix, List.nil_prefix⟩
  | cons p ps ih =>
    cases qs with
    | nil => exact ⟨List.nil_prefix, List.nil_prefix⟩
    | cons q qs =>
      rw [common]
      split
      · rename_i h
        obtain ⟨rfl, -⟩ := h
        exact ⟨List.cons_prefix_cons.2 ⟨rfl, (ih qs).1⟩, List.cons_prefix_cons.2 ⟨rfl, (ih qs).2⟩⟩
      · exact ⟨List.nil_prefix, List.nil_prefix⟩

/-- What all rows have in common starts each of them. -/
theorem foldl_common_isPrefix (row : List Form) (rows : List (List Form)) :
    ∀ ps ∈ row :: rows, rows.foldl common row <+: ps := by
  induction rows generalizing row with
  | nil => simp
  | cons next rows ih =>
    obtain ⟨hrow, hnext⟩ := common_isPrefix row next
    have hfold := ih (common row next)
    rintro ps (_ | ⟨_, _ | ⟨_, hps⟩⟩)
    · exact (hfold _ List.mem_cons_self).trans hrow
    · exact (hfold _ List.mem_cons_self).trans hnext
    · exact hfold ps (List.mem_cons_of_mem _ hps)

/-- The row of an alternative has its language. -/
theorem areRow_of_row? {row : List Form} (h : row? p = some row) (hp : p.IsOrdered) :
    AreRow row p.language := by
  unfold row? at h
  split at h
  · obtain rfl := Option.some.inj h
    exact areRow_parts hp
  · cases h

/-- Rows that begin with the same parts are these parts in front of a fork of the rests. -/
theorem areFork_rests {front : List Form} {rows : List (List Form)}
    (hfront : ∀ ps ∈ rows, front <+: ps) (hordered : ∀ ps ∈ rows, ∀ p ∈ ps, p.IsOrdered) :
    ∃ m, AreFork (rows.map fun ps => ofParts (ps.drop front.length)) m ∧
      (front.map language).prod * m = (rows.map fun ps => (ps.map language).prod).sum := by
  induction rows with
  | nil => exact ⟨0, ⟨fun _ h => absurd h List.not_mem_nil, rfl⟩, mul_zero _⟩
  | cons ps rows ih =>
    obtain ⟨m, hm, hsum⟩ := ih (fun qs hqs => hfront qs (List.mem_cons_of_mem _ hqs))
      fun qs hqs => hordered qs (List.mem_cons_of_mem _ hqs)
    obtain ⟨rest, rfl⟩ := hfront ps List.mem_cons_self
    have hrest : AreRow rest _ :=
      ⟨fun p hp => hordered _ List.mem_cons_self p (List.mem_append_right _ hp), rfl⟩
    refine ⟨(rest.map language).prod + m, areFork_cons ?_ hm, ?_⟩
    · show (ofParts ((front ++ rest).drop front.length)).Is _
      rw [List.drop_left]
      exact hrest.ofParts
    · rw [mul_add, hsum, List.map_cons, List.sum_cons, List.map_append, List.prod_append]

/-- The languages of rows, one after another. -/
theorem map_language_of_rows {rows : List (List Form)}
    (hrows : List.Forall₂ (fun p row => row? p = some row) bs rows)
    (hordered : ∀ p ∈ bs, p.IsOrdered) :
    bs.map language = rows.map fun ps => (ps.map language).prod := by
  induction hrows with
  | nil => rfl
  | cons hp _ ih =>
    obtain ⟨hhead, htail⟩ := List.forall_mem_cons.1 hordered
    rw [List.map_cons, List.map_cons, ih htail, (areRow_of_row? hp hhead).prod_eq]

/-- Alternatives whose common start is lifted have the same language. -/
theorem is_of_lifted? (hbs : AreFork bs l) (h : lifted? bs = some p) : p.Is l := by
  obtain ⟨hordered, rfl⟩ := hbs
  unfold lifted? at h
  split at h
  · rename_i row rows hrows
    have hall : List.Forall₂ _ bs (row :: rows) := mapM_eq_some_iff.1 hrows
    have hrow : ∀ ps ∈ row :: rows, ∀ p ∈ ps, p.IsOrdered := fun ps hps => by
      obtain ⟨p, hp, hps⟩ := exists_mem_of_forall₂ hall.flip hps
      exact (areRow_of_row? hps (hordered p hp)).ordered
    split at h
    · cases h
    · obtain rfl := Option.some.inj h
      -- the language is distributive, so the common factor may stand in front of the sum
      have hbegins := foldl_common_isPrefix row rows
      obtain ⟨m, hrests, hprod⟩ := areFork_rests hbegins hrow
      have hfront : AreRow (rows.foldl common row) _ :=
        ⟨fun p hp => hrow row List.mem_cons_self p ((hbegins _ List.mem_cons_self).subset hp), rfl⟩
      rw [map_language_of_rows hall hordered, ← hprod, ← mul_one m]
      exact ((areRow_nil.before (is_plainFork hrests)).foldr_glue hfront).ofParts
  · cases h

/-- A fork has the language of its alternatives. -/
theorem is_fork (h : AreFork ps l) : (fork ps).Is l := by
  have hbs := h.flatMap_branches
  unfold fork
  dsimp only
  cases hmerged : merged? (ps.flatMap branches) with
  | some p => exact is_of_merged? hbs hmerged
  | none =>
    cases hlifted : lifted? (ps.flatMap branches) with
    | some p => exact is_of_lifted? hbs hlifted
    | none => exact hbs.ofBranches

end Form

/-! ### Forms of patterns -/

/-- Whether what comes of a pattern describes what the pattern does: in front of other parts, and
beside other branches. -/
structure IsKept (p : Pattern) : Prop where
  /-- In front of other parts. -/
  row {ps : List Form} {l : Language Char} (h : Form.AreRow ps l) :
    Form.AreRow (p.forms .row ps) (p.language * l)
  /-- Beside other branches. -/
  fork {ps : List Form} {l : Language Char} (h : Form.AreFork ps l) :
    Form.AreFork (p.forms .fork ps) (p.language + l)

variable {p q : Pattern}

/-- The form that stands for a pattern as a whole. -/
theorem IsKept.is_form (h : p.IsKept) : (Form.ofParts (p.forms .row [])).Is p.language := by
  rw [← mul_one p.language]
  exact (h.row Form.areRow_nil).ofParts

/-- A pattern with one form of its language keeps it wherever it is joined. -/
theorem isKept_of_join {f : Form} (hf : f.Is p.language)
    (h : ∀ joint ps, p.forms joint ps = Form.join joint f ps) : p.IsKept where
  row hps := by
    rw [h]
    exact hps.before hf
  fork hps := by
    rw [h]
    exact Form.areFork_cons hf hps

theorem IsKept.cat (hp : p.IsKept) (hq : q.IsKept) : (cat p q).IsKept where
  row hps := by
    rw [language_cat, mul_assoc]
    exact hp.row (hq.row hps)
  fork hps := by
    refine Form.areFork_cons (Form.AreRow.ofParts ?_) hps
    rw [language_cat, ← mul_one q.language]
    exact hp.row (hq.row Form.areRow_nil)

theorem IsKept.alt (hp : p.IsKept) (hq : q.IsKept) : (alt p q).IsKept where
  row hps := by
    rw [language_alt]
    refine hps.before (Form.is_fork (hp.fork ?_))
    rw [← add_zero q.language]
    exact Form.areFork_cons hq.is_form ⟨fun _ h => absurd h List.not_mem_nil, rfl⟩
  fork hps := by
    rw [language_alt, add_assoc]
    exact hp.fork (Form.areFork_cons hq.is_form hps)

/-- All patterns with sets in order keep their languages. -/
theorem isKept (h : p.IsOrdered) : p.IsKept := by
  induction p with
  | empty => exact isKept_of_join (f := .empty) ⟨trivial, language_empty.symm⟩ fun _ _ => rfl
  | chars s =>
    refine isKept_of_join (f := .ofSet s) ?_ fun _ _ => rfl
    rw [language_chars]
    exact Form.is_ofSet h
  | assertion a =>
    exact isKept_of_join (f := .assertion a) ⟨trivial, (language_assertion a).symm⟩ fun _ _ => rfl
  -- a group has one form, around the form of what is inside, and so has a repetition
  | group name p ih =>
    have hp := (ih h).is_form
    refine isKept_of_join (f := .group _) ⟨hp.ordered, ?_⟩ fun _ _ => rfl
    rw [language_group]
    exact hp.language_eq
  | cat p q ihp ihq => exact (ihp h.1).cat (ihq h.2)
  | alt p q ihp ihq => exact (ihp h.1).alt (ihq h.2)
  | repeated least most greedy p ih =>
    have hp := (ih h).is_form
    refine isKept_of_join (f := .repeated least most greedy _) ⟨hp.ordered, ?_⟩ fun _ _ => rfl
    rw [language_repeated]
    exact congrArg (roundsOf least most) hp.language_eq

/-- A pattern and its form describe the same texts, if the switches of all sets are in order. -/
theorem language_form (h : p.IsOrdered) : p.form.language = p.language :=
  (isKept h).is_form.language_eq

/-- A pattern that is read and its form describe the same texts. -/
theorem language_form_of_parse? {m : Mode} {text : String} (h : parse? m text = some p) :
    p.form.language = p.language :=
  language_form (isOrdered_of_parse? h)

end Pattern

end CancellationPolicy
