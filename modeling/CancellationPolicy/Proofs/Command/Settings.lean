import CancellationPolicy.Command.Settings
import CancellationPolicy.Proofs.Command.Loading
import CancellationPolicy.Proofs.Settings.Lookup

/-!
# Settings that are shown and fetched

Settings are shown as one document (`run_showScript`), and a single one is fetched by its key and
printed in its wide form (`run_getScript_of_some`).  Under the key of names without dots the value
is fetched to which the names lead in what is shown, and it says the same if the numbers in it keep
their decimals in 64 bits; nothing is fetched under a key of names of which one has a dot
(`getScript_of_shown`).
-/

namespace CancellationPolicy.Command.Settings

open Script

variable {f : Storage.Folder} {path key : String} {σ : Session} {s : Settings}
  {names : List String} {v : Json}

/-! ### Settings that are loaded -/

/-- Settings that are loaded have been read or are the defaults. -/
theorem stored_of_settingsOrDefault (h : (settingsOrDefault path).answer f = .ok s) :
    s.Stored := by
  rw [answer_settingsOrDefault] at h
  split at h
  · obtain ⟨text, -, hread⟩ := answer_settingsAt_eq_ok_iff.1 h
    obtain ⟨hsource, -⟩ := Settings.read_eq_ok_iff.1 hread
    obtain ⟨x, -, hx⟩ := Option.bind_eq_some_iff.1 hsource
    exact Settings.stored_of_ofSource? hx
  · obtain rfl := Except.ok.inj h
    exact Settings.stored_default none

/-! ### Runs -/

theorem run_getScript_of_some (hs : (settingsOrDefault path).answer σ.folder = .ok s)
    (hv : s.lookup? key = some v) :
    (getScript path key).run σ = ({ σ with printed := σ.printed ++ [v.pretty] }, .ok ()) := by
  unfold getScript
  rw [run_bind_of_ok ((onlyReads_settingsOrDefault path).run_of_answer hs), hv]
  rfl

theorem run_getScript_of_none (hs : (settingsOrDefault path).answer σ.folder = .ok s)
    (hnone : s.lookup? key = none) :
    (getScript path key).run σ = (σ, .error (.keyMissing key)) := by
  unfold getScript
  rw [run_bind_of_ok ((onlyReads_settingsOrDefault path).run_of_answer hs), hnone]
  rfl

/-- Showing the settings prints their document. -/
theorem run_showScript (hs : (settingsOrDefault path).answer σ.folder = .ok s) :
    ((showScript path).run σ).2 = .ok () ∧
      ((showScript path).run σ).1.printed = σ.printed ++ [s.write] := by
  -- a note that defaults are shown changes neither the files nor what is printed
  obtain ⟨σ', hfolder, hprinted, hrun⟩ : ∃ σ' : Session, σ'.folder = σ.folder ∧
      σ'.printed = σ.printed ∧ (showScript path).run σ =
        (do let a ← settingsOrDefault path; printLine a.write).run σ' := by
    unfold showScript
    cases hholds : σ.folder.holds path with
    | true => exact ⟨σ, rfl, rfl, by simp [run_bind, isThere, run, hholds]⟩
    | false =>
      exact ⟨{ σ with noted := σ.noted ++ ["ℹ No config file found, showing defaults."] }, rfl, rfl,
        by simp [run_bind, isThere, run, hholds]⟩
  rw [hrun, run_bind_of_ok ((onlyReads_settingsOrDefault path).run_of_answer (hfolder ▸ hs)),
    ← hprinted]
  exact ⟨rfl, rfl⟩

/-! ### What is shown and what is fetched -/

/-- Names lead from what is shown to the content of what they lead to. -/
theorem follow?_content?_write (hs : s.Stored) :
    (Json.content? s.write).bind (Json.Content.follow? names) =
      (s.toJson.follow? names).map Json.content := by
  rw [Settings.write,
    Json.content?_pretty (Settings.isFinite_toJson s), Option.bind_some]
  exact Json.follow?_content (Settings.hasDistinctNames_toJson hs) names

/-- **A setting is fetched as it is shown if no name has a dot and its numbers keep their
decimals.**  If names lead from the document that is shown to a value, the key of the names is not
found if one of them has a dot.  Otherwise a document is printed that says the same as the value
exactly if each number of 32 bits in it is the number of 64 bits that is nearest to the decimal that
is shown. -/
theorem getScript_of_shown {w : Json.Content}
    (hs : (settingsOrDefault path).answer σ.folder = .ok s) (hnames : names ≠ [])
    (hw : (Json.content? s.write).bind (Json.Content.follow? names) = some w) :
    ((showScript path).run σ).2 = .ok () ∧
    ((showScript path).run σ).1.printed = σ.printed ++ [s.write] ∧
    ∃ v, s.toJson.follow? names = some v ∧ v.content = w ∧
      ((∃ name ∈ names, '.' ∈ name.toList) →
        (getScript path (".".intercalate names)).run σ =
          (σ, .error (.keyMissing (".".intercalate names)))) ∧
      ((∀ name ∈ names, '.' ∉ name.toList) → ∃ text,
        (getScript path (".".intercalate names)).run σ =
          ({ σ with printed := σ.printed ++ [text] }, .ok ()) ∧
        (Json.content? text = some w ↔ v.KeepsDecimals)) := by
  have hstored := stored_of_settingsOrDefault hs
  have hfinite := Settings.isFinite_toJson s
  have hdistinct := Settings.hasDistinctNames_toJson hstored
  obtain ⟨hok, hprinted⟩ := run_showScript hs
  rw [follow?_content?_write hstored, Option.map_eq_some_iff] at hw
  obtain ⟨v, hv, rfl⟩ := hw
  refine ⟨hok, hprinted, v, hv, rfl, ?_, ?_⟩
  · intro hdot
    apply run_getScript_of_none hs
    exact Settings.lookup?_intercalate_of_dot hstored hnames hdot hv
  · intro hdots
    refine ⟨v.widen.pretty, ?_, ?_⟩
    · apply run_getScript_of_some hs
      exact Settings.lookup?_intercalate hstored hnames hdots hv
    · rw [Json.content?_pretty (Json.isFinite_widen (hfinite.follow? hv)), Option.some.injEq]
      exact Json.content_widen_iff (hfinite.follow? hv) (hdistinct.follow? hv)

/-- The weight of the average is shown and fetched as the same number. -/
theorem getScript_of_shown_alpha :
    let σ := Session.start ⟨"/", []⟩ ""
    (settingsOrDefault "c.json").answer σ.folder = .ok .default ∧
      (Json.content? Settings.default.write).bind
        (Json.Content.follow? ["scoring", "confidence", "alpha"]) = some (.number (3 / 4)) ∧
      ∃ text, (getScript "c.json" "scoring.confidence.alpha").run σ =
          ({ σ with printed := [text] }, .ok ()) ∧
        Json.content? text = some (.number (3 / 4)) := by
  intro σ
  have hs : (settingsOrDefault "c.json").answer σ.folder = .ok .default :=
    answer_settingsOrDefault_of_absent (by decide +kernel)
  have hv : Settings.default.toJson.follow? ["scoring", "confidence", "alpha"] =
      some (.number (.single (hundredths 75))) := rfl
  -- the number is written 0.75, and its content is what these digits say
  have hcontent : (Json.number (.single (hundredths 75))).content = .number (3 / 4) := by
    have hnumeral : (hundredths 75).numeral .shortDocument =
        ⟨false, ['0'], some ['7', '5'], none⟩ := by decide +kernel
    show Json.Content.number ((hundredths 75).numeral .shortDocument).exact = _
    rw [hnumeral]
    show Json.Content.number (Binary.signed false ((75 : ℕ) * 10 ^ (-2 : ℤ))) = _
    norm_num [Binary.signed]
  have hstored : Settings.default.Stored := Settings.stored_default none
  have hw : (Json.content? Settings.default.write).bind
      (Json.Content.follow? ["scoring", "confidence", "alpha"]) = some (.number (3 / 4)) := by
    rw [follow?_content?_write hstored, hv, Option.map_some, hcontent]
  obtain ⟨-, -, v, hv', -, -, hget⟩ := getScript_of_shown hs (by decide) hw
  obtain ⟨text, hrun, hiff⟩ := hget (by decide)
  obtain rfl := Option.some.inj (hv.symm.trans hv')
  refine ⟨hs, hw, text, hrun, hiff.2 ?_⟩
  -- three quarters have few binary places, so they keep their decimals when widened
  rintro _ ⟨⟩
  decide +kernel

/-- By default, the weight of `fee.percent` is shown but is not found under its key, and the
confidence from which on a record is trusted is fetched as another number than the one shown. -/
theorem getScript_default :
    let σ := Session.start ⟨"/", []⟩ ""
    (∃ v, Settings.default.toJson.follow?
        ["scoring", "confidence", "field_weights", "fee.percent"] = some v ∧ v.pretty = "0.1") ∧
      (getScript "c.json" "scoring.confidence.field_weights.fee.percent").run σ =
        (σ, .error (.keyMissing "scoring.confidence.field_weights.fee.percent")) ∧
      (∃ v, Settings.default.toJson.follow?
        ["scoring", "confidence", "accept_threshold"] = some v ∧ v.pretty = "0.8") ∧
      (getScript "c.json" "scoring.confidence.accept_threshold").run σ =
        ({ σ with printed := ["0.800000011920929"] }, .ok ()) := by
  intro σ
  have hs : (settingsOrDefault "c.json").answer σ.folder = .ok .default :=
    answer_settingsOrDefault_of_absent (by decide +kernel)
  refine ⟨⟨_, rfl, ?_⟩, ?_, ⟨_, rfl, ?_⟩, ?_⟩
  · decide +kernel
  · exact run_getScript_of_none hs rfl
  · decide +kernel
  · rw [run_getScript_of_some hs rfl]
    refine Prod.ext (congrArg (fun lines => { σ with printed := lines }) ?_) rfl
    decide +kernel

end CancellationPolicy.Command.Settings
