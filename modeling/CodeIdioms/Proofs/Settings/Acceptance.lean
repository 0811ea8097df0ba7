import CodeIdioms.Proofs.Lookup
import CodeIdioms.Proofs.Settings.Decoding
import CodeIdioms.Proofs.Settings.Validity

/-! # Accepted settings

What settings must be like, requirement by requirement in the order in which they are checked
(`requirements`).  The check goes through them and refuses settings for the first one that they do
not meet (`invalidOption?_eq_some`); it looks at the settings only, so it does not matter which
options a document gives and which ones are defaults (`exists_outcome`). -/

namespace CodeIdioms.Settings

open Document Lookup

/-- A requirement: the written name of the option that it is about, what it asks for, and how
settings that do not meet it are refused. -/
structure Requirement where
  option : String
  Meets : Settings → Prop
  refusal : Settings → InvalidOption

/-- All requirements, in the order in which they are checked. -/
def requirements : List Requirement := [
  ⟨"detect.min_confidence",
    fun s => 0.0 ≤ s.detect.minConfidence ∧ s.detect.minConfidence ≤ 1.0,
    fun s => .minConfidence s.detect.minConfidence⟩,
  ⟨"detect.rule_size_limit", fun s => 0 < s.detect.ruleSizeLimit, fun _ => .ruleSizeLimit⟩,
  ⟨"narrative.target_language",
    fun s => ∃ c ∈ s.narrative.targetLanguage.toList, Text.isBlank c = false,
    fun _ => .targetLanguage⟩,
  ⟨"scan.max_file_bytes", fun s => 0 < s.scan.maxFileBytes, fun _ => .maxFileBytes⟩,
  ⟨"scan.max_parallel_jobs", fun s => s.scan.maxJobs ≠ some 0, fun _ => .maxJobs⟩,
  ⟨"scan.file_extensions", fun s => s.scan.extensions ≠ [], fun _ => .extensions⟩]

/-- Settings are refused for the first of some requirements that they do not meet. -/
def Refuses (rs : List Requirement) (s : Settings) (o : InvalidOption) : Prop :=
  ∃ r, First (fun r => ¬ r.Meets s) rs r ∧ o = r.refusal s

variable {s : Settings}

/-- A requirement is checked before others. -/
theorem ite_eq_some_iff_refuses {c : Prop} [Decidable c] {r : Requirement} {x : InvalidOption}
    {rs : List Requirement} {rest : Option InvalidOption} (hc : c ↔ ¬ r.Meets s)
    (hx : x = r.refusal s) (hrest : ∀ o, rest = some o ↔ Refuses rs s o) (o : InvalidOption) :
    (if c then some x else rest) = some o ↔ Refuses (r :: rs) s o := by
  unfold Refuses
  simp only [first_cons_iff]
  by_cases h : c
  · rw [if_pos h, Option.some_inj, hx]
    constructor
    · rintro rfl
      exact ⟨r, .inl ⟨hc.1 h, rfl⟩, rfl⟩
    · rintro ⟨_, ⟨-, rfl⟩ | ⟨hmeets, -⟩, rfl⟩
      · rfl
      · exact absurd (hc.1 h) hmeets
  · rw [if_neg h, hrest]
    have hnot : ¬ ¬ r.Meets s := fun hmeets => h (hc.2 hmeets)
    constructor
    · rintro ⟨r', hfirst, rfl⟩
      exact ⟨r', .inr ⟨hnot, hfirst⟩, rfl⟩
    · rintro ⟨r', ⟨hmeets, -⟩ | ⟨-, hfirst⟩, rfl⟩
      · exact absurd hmeets hnot
      · exact ⟨r', hfirst, rfl⟩

theorem isBlankText_iff {text : String} :
    Text.isBlankText text = true ↔ ¬ ∃ c ∈ text.toList, Text.isBlank c = false := by
  simp [Text.isBlankText]

theorem invalidOption?_eq_some (o : InvalidOption) :
    s.invalidOption? = some o ↔ Refuses requirements s o := by
  have hconfidence : (!(decide (0.0 ≤ s.detect.minConfidence) &&
      decide (s.detect.minConfidence ≤ 1.0))) = true ↔
        ¬ (0.0 ≤ s.detect.minConfidence ∧ s.detect.minConfidence ≤ 1.0) := by
    simp only [Bool.not_eq_true', Bool.and_eq_false_iff, decide_eq_false_iff_not, not_and_or]
  have hzero : ∀ {n : UInt64}, n = 0 ↔ ¬ 0 < n := by
    intro n
    rw [UInt64.pos_iff_ne_zero, not_not]
  have hempty : s.scan.extensions.isEmpty = true ↔ ¬ s.scan.extensions ≠ [] := by
    rw [List.isEmpty_iff, not_not]
  have hnone : ∀ o, (none : Option InvalidOption) = some o ↔ Refuses [] s o :=
    fun o => ⟨nofun, fun ⟨_, h, _⟩ => nomatch h.mem⟩
  unfold invalidOption? requirements
  refine ite_eq_some_iff_refuses ?_ ?_ ?_ o
  · exact hconfidence
  · rfl
  refine ite_eq_some_iff_refuses ?_ ?_ ?_
  · exact hzero
  · rfl
  refine ite_eq_some_iff_refuses ?_ ?_ ?_
  · exact isBlankText_iff
  · rfl
  refine ite_eq_some_iff_refuses ?_ ?_ ?_
  · exact hzero
  · rfl
  refine ite_eq_some_iff_refuses ?_ ?_ ?_
  · exact not_not.symm
  · rfl
  refine ite_eq_some_iff_refuses ?_ ?_ ?_
  · exact hempty
  · rfl
  exact hnone

theorem invalidOption?_eq_none_iff_meets :
    s.invalidOption? = none ↔ ∀ r ∈ requirements, r.Meets s := by
  constructor
  · intro h r hr
    by_contra hmeets
    obtain ⟨r', hfirst⟩ := exists_first (P := fun r => ¬ r.Meets s) hr hmeets
    have hrefused := (invalidOption?_eq_some _).2 ⟨r', hfirst, rfl⟩
    rw [h] at hrefused
    cases hrefused
  · intro h
    refine Option.eq_none_iff_forall_ne_some.2 fun o ho => ?_
    obtain ⟨r, hfirst, -⟩ := (invalidOption?_eq_some o).1 ho
    exact hfirst.found (h r hfirst.mem)

/-- What comes of a document: settings are read from it, they have its values and otherwise the
defaults, and its text is accepted if they meet all requirements, and else refused for the first one
that they do not meet. -/
structure Outcome (t : Tree) (s : Settings) : Prop where
  read : codec.read t = .ok s
  decodes : ∀ s', Decodes t s' ↔ s' = s
  accepted : ∀ text, Source.read text = ⟨t, false⟩ →
    ∀ s', ofText text = .ok s' ↔ s' = s ∧ ∀ r ∈ requirements, r.Meets s
  refused : ∀ text, Source.read text = ⟨t, false⟩ →
    ∀ e, ofText text = .error e ↔
      ∃ r, First (fun r => ¬ r.Meets s) requirements r ∧ e = .invalid (r.refusal s)
  named : ∀ r ∈ requirements, (r.refusal s).option = r.option

theorem ofText_eq_checked {t : Tree} (hs : codec.read t = .ok s) {text : String}
    (htext : Source.read text = ⟨t, false⟩) : ofText text = s.checked := by
  unfold ofText
  rw [codec.readText_eq_read htext, hs]

/-- **Settings of a document.**  For every document of settings, whatever options it gives, there
are settings with this outcome. -/
theorem exists_outcome {t : Tree} (h : IsDocument t) : ∃ s, Outcome t s := by
  obtain ⟨s, hs, hdecodes⟩ := exists_read_of_isDocument h
  refine ⟨s, hs, hdecodes, fun text htext s' => ?_, fun text htext e => ?_, ?_⟩
  · rw [ofText_eq_checked hs htext, ← invalidOption?_eq_none_iff_meets, checked_eq_ok,
      ← invalidOption?_eq_none, and_comm]
  · have hrefuses : s.checked = .error e ↔ ∃ o, s.invalidOption? = some o ∧ e = .invalid o := by
      unfold checked
      cases s.invalidOption? <;> simp [eq_comm]
    rw [ofText_eq_checked hs htext, hrefuses]
    simp only [invalidOption?_eq_some]
    constructor
    · rintro ⟨_, ⟨r, hfirst, rfl⟩, rfl⟩
      exact ⟨r, hfirst, rfl⟩
    · rintro ⟨r, hfirst, rfl⟩
      exact ⟨_, ⟨r, hfirst, rfl⟩, rfl⟩
  · simp only [requirements, List.forall_mem_cons]
    exact ⟨rfl, rfl, rfl, rfl, rfl, rfl, nofun⟩

/-- A document whose parts are out of order, among one that is not known.  It asks for files without
a byte and for a blank target. -/
def blankTarget : Tree := .object (keyed [
  ("scan", .object (keyed [("max_file_bytes", .number (some (.natural 0))),
    ("max_parallel_jobs", .null)]) none),
  ("version", .number none),
  ("narrative", .object (keyed [("target_language", .string (some " "))]) none)]) none

/-- It is refused for the target, which is checked first. -/
theorem exists_outcome_blankTarget :
    ∃ s, Outcome blankTarget s ∧ s.detect.ruleSizeLimit = 1048576 ∧ s.scan.maxFileBytes = 0 ∧
      s.scan.maxJobs = none ∧
      Source.read
        "\x7b\"scan\":\x7b\"max_file_bytes\":0,\"max_parallel_jobs\":null\x7d,\"version\":1e400,\"narrative\":\x7b\"target_language\":\" \"\x7d\x7d"
        = ⟨blankTarget, false⟩ ∧
      ∀ text, Source.read text = ⟨blankTarget, false⟩ →
        ofText text = .error (.invalid .targetLanguage) := by
  have hdocument : IsDocument blankTarget := by
    refine ⟨.object (by decide) (by simp [Tree.skipFault?]), ?_⟩
    simp only [parts, List.forall_mem_cons, List.not_mem_nil, IsEmpty.forall_iff, implies_true,
      and_true]
    refine ⟨?_, ?_, ?_⟩
    · rintro _ ⟨⟩
    · rintro _ ⟨⟩
      refine ⟨.object (by decide) (by simp), ?_⟩
      simp only [List.forall_mem_cons, List.not_mem_nil, IsEmpty.forall_iff, implies_true, and_true]
      refine ⟨?_, ?_, ?_⟩ <;> rintro _ ⟨⟩
      exact ⟨_, rfl⟩
    · rintro _ ⟨⟩
      refine ⟨.object (by decide) (by simp), ?_⟩
      simp only [List.forall_mem_cons, List.not_mem_nil, IsEmpty.forall_iff, implies_true, and_true]
      refine ⟨?_, ?_, ?_, ?_, ?_⟩ <;> rintro _ ⟨⟩
      · exact ⟨_, rfl⟩
      · exact ⟨_, .inl ⟨rfl, rfl⟩⟩
  obtain ⟨s, h⟩ := exists_outcome hdocument
  have hvalues := (h.decodes s).2 rfl
  unfold Decodes at hvalues
  simp only [parts, List.forall_mem_cons] at hvalues
  obtain ⟨⟨hconfidence, hsize, -⟩, ⟨htarget, -⟩, ⟨-, -, hbytes, hjobs, -⟩, -⟩ := hvalues
  have hconfidence : s.detect.minConfidence = 0.0 := hconfidence
  have hsize : s.detect.ruleSizeLimit = 1048576 := hsize
  have htarget : s.narrative.targetLanguage = " " :=
    (Option.some.inj (Tree.string.inj htarget)).symm
  have hbytes : s.scan.maxFileBytes = 0 :=
    (Number.natural.inj (Option.some.inj (Tree.number.inj hbytes))).symm
  have hjobs : s.scan.maxJobs = none := by
    obtain ⟨-, hnone⟩ | ⟨_, hnull, -⟩ := hjobs
    · exact hnone
    · cases hnull
  refine ⟨s, h, hsize, hbytes, hjobs, rfl, fun text htext => (h.refused text htext _).2 ?_⟩
  refine ⟨_, first_cons_iff.2 (.inr ⟨not_not.2 ?_, first_cons_iff.2 (.inr ⟨not_not.2 ?_,
    first_cons_iff.2 (.inl ⟨?_, rfl⟩)⟩)⟩), rfl⟩
  · show 0.0 ≤ s.detect.minConfidence ∧ s.detect.minConfidence ≤ 1.0
    rw [hconfidence]
    decide
  · show 0 < s.detect.ruleSizeLimit
    rw [hsize]
    decide
  · refine isBlankText_iff.1 ?_
    rw [htarget]
    decide

end CodeIdioms.Settings
