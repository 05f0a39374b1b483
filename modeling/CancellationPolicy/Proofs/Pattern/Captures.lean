import CancellationPolicy.Proofs.Keyed
import CancellationPolicy.Proofs.Pattern.Language

/-!
# What is captured

Checks of patterns that say something about all texts and parts that a pattern describes.  Each is a
recursion over the pattern that can be evaluated, with a theorem on what it shows:

* a text that is described comes with one of several named parts (`exists_mem_of_binds`);
* every part is described by the body of a group of its name (`exists_group_of_mem`);
* a text holds none of some code points (`not_mem_of_avoids`);
* a text is not empty (`ne_nil_of_describes`).

So the captures of an occurrence include one of several names (`exists_capture_of_binds`), and what
is captured under a name is described by a group of that name (`exists_body_of_capture`).
-/

namespace CancellationPolicy.Pattern

variable {p : Pattern} {w : List Char} {k : Kept} {D : List Char → Kept → Prop} {n : Nat}

/-! ### Rounds -/

/-- If there is a round at all, some round lies in the text. -/
theorem Iterated.exists_round (h : Iterated D n w k) (hn : n ≠ 0) :
    ∃ v j, D v j ∧ v <:+: w ∧ j ⊆ k := by
  cases n with
  | zero => exact absurd rfl hn
  | succ n =>
    obtain ⟨v, j, v', j', -, hround, rfl, rfl⟩ := h
    exact ⟨v', j', hround, (List.suffix_append v v').isInfix, List.subset_append_right j j'⟩

/-- Every character belongs to a round. -/
theorem Iterated.exists_round_of_mem {c : Char} (h : Iterated D n w k) (hc : c ∈ w) :
    ∃ v j, D v j ∧ c ∈ v := by
  induction n generalizing w k with
  | zero =>
    obtain ⟨rfl, -⟩ := h
    cases hc
  | succ n ih =>
    obtain ⟨v, j, v', j', hbefore, hround, rfl, -⟩ := h
    rcases List.mem_append.1 hc with hc | hc
    · exact ih hbefore hc
    · exact ⟨v', j', hround, hc⟩

/-- Every part belongs to a round. -/
theorem Iterated.exists_round_of_part {e : String × String} (h : Iterated D n w k) (he : e ∈ k) :
    ∃ v j, D v j ∧ v <:+: w ∧ e ∈ j := by
  induction n generalizing w k with
  | zero =>
    obtain ⟨-, rfl⟩ := h
    cases he
  | succ n ih =>
    obtain ⟨v, j, v', j', hbefore, hround, rfl, rfl⟩ := h
    rcases List.mem_append.1 he with he | he
    · obtain ⟨u, i, hround, hu, hi⟩ := ih hbefore he
      exact ⟨u, i, hround, hu.trans (List.prefix_append v v').isInfix, hi⟩
    · exact ⟨v', j', hround, (List.suffix_append v v').isInfix, he⟩

/-! ### Parts that are surely there -/

/-- Whether every text that the pattern describes comes with one of the named parts. -/
def binds (names : List String) : Pattern → Bool
  | empty | chars _ | assertion _ => false
  | group name p => name.any names.contains || binds names p
  | cat p q => binds names p || binds names q
  | alt p q => binds names p && binds names q
  | repeated least _ _ p => least != 0 && binds names p

/-- A pattern that binds names captures a part under one of them. -/
theorem exists_mem_of_binds {names : List String} (h : p.Describes w k)
    (hbinds : p.binds names = true) : ∃ e ∈ k, e.1 ∈ names := by
  induction p generalizing w k with
  | empty | chars | assertion => cases hbinds
  | group name p ih =>
    obtain ⟨j, hbody, rfl⟩ := h
    rcases Bool.or_eq_true _ _ ▸ hbinds with hname | hbinds
    · obtain ⟨n, rfl, hn⟩ := (Option.any_eq_true _ _).1 hname
      exact ⟨(n, String.ofList w), List.mem_append_right _ (by simp), by simpa using hn⟩
    · obtain ⟨e, he, hmem⟩ := ih hbody hbinds
      exact ⟨e, List.mem_append_left _ he, hmem⟩
  | cat p q ihp ihq =>
    obtain ⟨v, j, v', j', hp, hq, rfl, rfl⟩ := h
    rcases Bool.or_eq_true _ _ ▸ hbinds with hbinds | hbinds
    · obtain ⟨e, he, hmem⟩ := ihp hp hbinds
      exact ⟨e, List.mem_append_left _ he, hmem⟩
    · obtain ⟨e, he, hmem⟩ := ihq hq hbinds
      exact ⟨e, List.mem_append_right _ he, hmem⟩
  | alt p q ihp ihq =>
    obtain ⟨hbindsp, hbindsq⟩ := Bool.and_eq_true_iff.1 hbinds
    exact h.elim (fun hp => ihp hp hbindsp) fun hq => ihq hq hbindsq
  | repeated least most greedy p ih =>
    obtain ⟨n, hleast, -, hiterated⟩ := h
    obtain ⟨hne, hbinds⟩ := Bool.and_eq_true_iff.1 hbinds
    have hn : n ≠ 0 := by
      have hne : least ≠ 0 := by simpa using hne
      omega
    obtain ⟨v, j, hround, -, hsub⟩ := hiterated.exists_round hn
    obtain ⟨e, he, hmem⟩ := ih hround hbinds
    exact ⟨e, hsub he, hmem⟩

/-! ### Where parts come from -/

/-- The named groups of a pattern, with their bodies. -/
def groups : Pattern → List (String × Pattern)
  | empty | chars _ | assertion _ => []
  | group name p => (name.map fun n => (n, p)).toList ++ groups p
  | cat p q | alt p q => groups p ++ groups q
  | repeated _ _ _ p => groups p

/-- A part is a part of the text, and described by the body of a group of its name. -/
theorem exists_group_of_mem {e : String × String} (h : p.Describes w k) (he : e ∈ k) :
    ∃ g ∈ p.groups, g.1 = e.1 ∧ (∃ j, g.2.Describes e.2.toList j) ∧ e.2.toList <:+: w := by
  induction p generalizing w k with
  | empty | assertion =>
    obtain ⟨-, rfl⟩ := h
    cases he
  | chars set =>
    obtain ⟨-, -, -, rfl⟩ := h
    cases he
  | group name p ih =>
    obtain ⟨j, hbody, rfl⟩ := h
    rcases List.mem_append.1 he with he | he
    · obtain ⟨g, hg, hrest⟩ := ih hbody he
      exact ⟨g, List.mem_append_right _ hg, hrest⟩
    · cases name with
      | none => cases he
      | some n =>
        obtain rfl := List.mem_singleton.1 he
        rw [String.toList_ofList]
        exact ⟨(n, p), List.mem_append_left _ List.mem_cons_self, rfl, ⟨j, hbody⟩,
          List.infix_refl w⟩
  | cat p q ihp ihq =>
    obtain ⟨v, j, v', j', hp, hq, rfl, rfl⟩ := h
    rcases List.mem_append.1 he with he | he
    · obtain ⟨g, hg, hname, hbody, hpart⟩ := ihp hp he
      exact ⟨g, List.mem_append_left _ hg, hname, hbody,
        hpart.trans (List.prefix_append v v').isInfix⟩
    · obtain ⟨g, hg, hname, hbody, hpart⟩ := ihq hq he
      exact ⟨g, List.mem_append_right _ hg, hname, hbody,
        hpart.trans (List.suffix_append v v').isInfix⟩
  | alt p q ihp ihq =>
    rcases h with hp | hq
    · obtain ⟨g, hg, hrest⟩ := ihp hp he
      exact ⟨g, List.mem_append_left _ hg, hrest⟩
    · obtain ⟨g, hg, hrest⟩ := ihq hq he
      exact ⟨g, List.mem_append_right _ hg, hrest⟩
  | repeated least most greedy p ih =>
    obtain ⟨n, -, -, hiterated⟩ := h
    obtain ⟨v, j, hround, hv, he⟩ := hiterated.exists_round_of_part he
    obtain ⟨g, hg, hname, hbody, hpart⟩ := ih hround he
    exact ⟨g, hg, hname, hbody, hpart.trans hv⟩

/-! ### Characters of a text -/

/-- Whether no text that the pattern describes holds one of the code points. -/
def avoids (cs : List Nat) : Pattern → Bool
  | empty | assertion _ => true
  | chars set => cs.all fun c => !set.contains c
  | group _ p | repeated _ _ _ p => avoids cs p
  | cat p q | alt p q => avoids cs p && avoids cs q

/-- A text that a pattern describes has no character that the pattern avoids. -/
theorem not_mem_of_avoids {cs : List Nat} (h : p.Describes w k) (havoids : p.avoids cs = true) :
    ∀ c ∈ w, c.toNat ∉ cs := by
  intro c hc hmem
  induction p generalizing w k with
  | empty | assertion =>
    obtain ⟨rfl, -⟩ := h
    cases hc
  | chars set =>
    obtain ⟨d, hd, rfl, -⟩ := h
    obtain rfl := List.mem_singleton.1 hc
    have hnot := List.all_eq_true.1 havoids _ hmem
    rw [Bool.not_eq_true'] at hnot
    exact Bool.false_ne_true (hnot.symm.trans hd)
  | group name p ih =>
    obtain ⟨j, hbody, -⟩ := h
    exact ih hbody havoids hc
  | cat p q ihp ihq =>
    obtain ⟨v, j, v', j', hp, hq, rfl, -⟩ := h
    obtain ⟨havoidsp, havoidsq⟩ := Bool.and_eq_true_iff.1 havoids
    exact (List.mem_append.1 hc).elim (ihp hp havoidsp) (ihq hq havoidsq)
  | alt p q ihp ihq =>
    obtain ⟨havoidsp, havoidsq⟩ := Bool.and_eq_true_iff.1 havoids
    exact h.elim (fun hp => ihp hp havoidsp hc) fun hq => ihq hq havoidsq hc
  | repeated least most greedy p ih =>
    obtain ⟨n, -, -, hiterated⟩ := h
    obtain ⟨v, j, hround, hv⟩ := hiterated.exists_round_of_mem hc
    exact ih hround havoids hv

/-- A pattern that does not match the empty text does not describe it. -/
theorem ne_nil_of_describes (h : p.Describes w k) (hp : p.isNullable = false) : w ≠ [] := by
  induction p generalizing w k with
  | empty | assertion => cases hp
  | chars set =>
    obtain ⟨c, -, rfl, -⟩ := h
    exact List.cons_ne_nil _ _
  | group name p ih =>
    obtain ⟨j, hbody, -⟩ := h
    exact ih hbody hp
  | cat p q ihp ihq =>
    obtain ⟨v, j, v', j', hdescribesp, hdescribesq, rfl, -⟩ := h
    rcases Bool.and_eq_false_iff.1 hp with hp | hq
    · exact List.append_ne_nil_of_left_ne_nil (ihp hdescribesp hp) _
    · exact List.append_ne_nil_of_right_ne_nil _ (ihq hdescribesq hq)
  | alt p q ihp ihq =>
    obtain ⟨hp, hq⟩ := Bool.or_eq_false_iff.1 hp
    exact h.elim (fun h => ihp h hp) fun h => ihq h hq
  | repeated least most greedy p ih =>
    obtain ⟨n, hleast, -, hiterated⟩ := h
    obtain ⟨hne, hp⟩ := Bool.or_eq_false_iff.1 hp
    have hn : n ≠ 0 := by
      have hne : least ≠ 0 := by simpa using hne
      omega
    obtain ⟨v, j, hround, hv, -⟩ := hiterated.exists_round hn
    exact fun hnil => ih hround hp (List.infix_nil.1 (hnil ▸ hv))

/-! ### Captures -/

variable {text : String} {x : Occurrence}

/-- An occurrence of a pattern that binds names has a capture under one of them. -/
theorem exists_capture_of_binds {names : List String} (hbinds : p.binds names = true)
    (hx : x ∈ p.occurrences text) : ∃ name ∈ names, ∃ s, Keyed.find? name x.captures = some s := by
  obtain ⟨w, k, hdescribes, hcaptures, -⟩ := exists_describes_of_mem_occurrences hx
  obtain ⟨e, he, hname⟩ := exists_mem_of_binds hdescribes hbinds
  obtain ⟨s, hs, -⟩ := Keyed.exists_find?_ofList he
  exact ⟨e.1, hname, s, hcaptures ▸ hs⟩

/-- Whether the bodies of all groups of a name pass a check. -/
def allGroups (p : Pattern) (name : String) (check : Pattern → Bool) : Bool :=
  p.groups.all fun g => g.1 != name || check g.2

/-- What is captured under a name is a part of the text, and described by a body that passes what
the bodies of all groups of the name pass. -/
theorem exists_body_of_capture {name s : String} {check : Pattern → Bool}
    (hcheck : p.allGroups name check = true) (hx : x ∈ p.occurrences text)
    (hs : Keyed.find? name x.captures = some s) :
    ∃ body j, check body = true ∧ body.Describes s.toList j ∧ s.toList <:+: text.toList := by
  obtain ⟨w, k, hdescribes, hcaptures, hw⟩ := exists_describes_of_mem_occurrences hx
  rw [hcaptures] at hs
  have hpart : (name, s) ∈ k := Keyed.mem_of_mem_ofList (Keyed.mem_of_find?_eq_some hs)
  obtain ⟨g, hg, hname, ⟨j, hbody⟩, hwithin⟩ := exists_group_of_mem hdescribes hpart
  have hg := List.all_eq_true.1 hcheck g hg
  rw [Bool.or_eq_true, bne_iff_ne] at hg
  exact ⟨g.2, j, hg.resolve_left fun hne => hne hname, hbody, hwithin.trans hw⟩

end CancellationPolicy.Pattern
