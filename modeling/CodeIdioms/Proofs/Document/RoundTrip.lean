import CodeIdioms.Catalog.Statistics
import CodeIdioms.Detection.Finding
import CodeIdioms.Explain.Template
import CodeIdioms.Glyph
import CodeIdioms.Proofs.Document.Rearrangement
import CodeIdioms.Proofs.Settings.Validity
import CodeIdioms.Scan.Counters

/-! # Round trips

Every value of a written type is read back from the document that is written for it and from every
rearrangement of that document (`documents_keep_values`).  The text of a document counts by what is
read of it: any text that is read as the document will do. -/

namespace CodeIdioms

open Document

/-! ### Named values -/

theorem Category.faithful_codec (c : Category) : (Vocabulary.codec : Codec Category).Faithful c := by
  cases c <;> rfl

theorem Difficulty.faithful_codec (d : Difficulty) :
    (Vocabulary.codec : Codec Difficulty).Faithful d := by
  cases d <;> rfl

theorem Concept.faithful_codec (c : Concept) : (Vocabulary.codec : Codec Concept).Faithful c := by
  cases c <;> rfl

/-! ### Records -/

theorem faithful_strings (xs : List String) : (Codec.list Codec.string).Faithful xs :=
  Codec.faithful_list fun x _ => Codec.faithful_string x

theorem DetectSettings.faithful_codec (s : DetectSettings) : codec.Faithful s :=
  Codec.faithful_record (by decide) rfl
    ⟨Codec.faithful_float _, Codec.faithful_word _ _, Codec.faithful_word _ _, trivial⟩

theorem NarrativeSettings.faithful_codec (s : NarrativeSettings) : codec.Faithful s :=
  Codec.faithful_record (by decide) rfl
    ⟨Codec.faithful_string _, Codec.faithful_string _, Codec.faithful_bool _, trivial⟩

theorem ScanSettings.faithful_codec (s : ScanSettings) : codec.Faithful s :=
  Codec.faithful_record (by decide) rfl
    ⟨faithful_strings _, faithful_strings _, Codec.faithful_word _ _,
      Codec.faithful_option fun n _ => ⟨Codec.faithful_word _ n, nofun⟩, Codec.faithful_bool _, trivial⟩

theorem Settings.faithful_codec (s : Settings) : codec.Faithful s :=
  Codec.faithful_record (by decide) rfl
    ⟨DetectSettings.faithful_codec _, NarrativeSettings.faithful_codec _,
      ScanSettings.faithful_codec _, trivial⟩

theorem Narrative.faithful_codec (n : Narrative) : codec.Faithful n :=
  Codec.faithful_record (by decide) rfl
    ⟨Codec.faithful_string _, Codec.faithful_string _, Codec.faithful_string _,
      Codec.faithful_string _, Codec.faithful_string _, trivial⟩

theorem Glyph.faithful_codec (g : Glyph) : codec.Faithful g :=
  Codec.faithful_record (by decide) rfl
    ⟨Codec.faithful_string _, Codec.faithful_string _, Codec.faithful_string _,
      Concept.faithful_codec _, Codec.faithful_string _, trivial⟩

theorem Idiom.faithful_codec (p : Idiom) : codec.Faithful p :=
  Codec.faithful_record (by decide) rfl
    ⟨Codec.faithful_string _, Codec.faithful_string _, Category.faithful_codec _,
      Difficulty.faithful_codec _, Codec.faithful_string _, Codec.faithful_float _,
      Codec.faithful_string _, Codec.faithful_string _, Narrative.faithful_codec _,
      faithful_strings _, Codec.faithful_stringSet _, faithful_strings _, faithful_strings _,
      faithful_strings _, faithful_strings _, trivial⟩

theorem Span.faithful_codec (s : Span) : codec.Faithful s :=
  Codec.faithful_record (by decide) rfl
    ⟨Codec.faithful_word _ _, Codec.faithful_word _ _, Codec.faithful_word _ _,
      Codec.faithful_word _ _, trivial⟩

/-- A suggestion that is left out comes back as none. -/
theorem Record.faithful_codec (r : Record) : codec.Faithful r := by
  have hsuggestion : (if r.suggestion.isNone then some none = some r.suggestion
      else (Codec.option Codec.string).Faithful r.suggestion) := by
    cases r.suggestion with
    | none => rfl
    | some text => rfl
  exact Codec.faithful_record (by decide) rfl
    ⟨Codec.faithful_string _, Codec.faithful_string _, Codec.faithful_word _ _,
      Codec.faithful_word _ _, Codec.faithful_float _, hsuggestion, trivial⟩

theorem Bundle.faithful_codec (b : Bundle) : codec.Faithful b :=
  Codec.faithful_record (by decide) rfl
    ⟨faithful_strings _, faithful_strings _, faithful_strings _, faithful_strings _, trivial⟩

theorem Counters.faithful_codec (c : Counters) : codec.Faithful c :=
  Codec.faithful_record (by decide) rfl
    ⟨Codec.faithful_word _ _, Codec.faithful_word _ _, Codec.faithful_word _ _,
      Codec.faithful_word _ _, Codec.faithful_word _ _, trivial⟩

theorem Statistics.faithful_codec (s : Statistics) : codec.Faithful s :=
  Codec.faithful_record (by decide) rfl
    ⟨Codec.faithful_word _ _,
      Codec.faithful_table Category.mem_all Category.faithful_codec fun _ n _ =>
        Codec.faithful_word _ n,
      Codec.faithful_table Difficulty.mem_all Difficulty.faithful_codec fun _ n _ =>
        Codec.faithful_word _ n, trivial⟩

/-! ### Documents and their rearrangements -/

/-- A value is read from all rearrangements of the document that is written for it, and from all
texts that are read as one of them. -/
structure Document.Codec.Keeps {α : Type} (c : Codec α) (x : α) : Prop where
  read : ∀ v, c.Rearranged (c.write x) v → c.read v.tree = .ok x
  readText : ∀ v text, c.Rearranged (c.write x) v → Source.read text = ⟨v.tree, false⟩ →
    c.readText text = .ok x

theorem Document.Codec.Faithful.keeps {α : Type} {c : Codec α} {x : α} (h : c.Faithful x) :
    c.Keeps x := by
  have hread : ∀ v, c.Rearranged (c.write x) v → c.read v.tree = .ok x :=
    fun _ hv => Codec.read_of_rearranged hv h
  refine ⟨hread, fun v text hv htext => ?_⟩
  rw [c.readText_eq_read htext]
  exact hread v hv

/-- **Round trips.**  Settings, narratives, glyphs, idioms, spans, records, bundles, counters and
statistics are read back from what is written for them, in whatever order the members of its objects
come and whatever members of other names its records have.  A suggestion that is none is not written
at all, and a number of jobs that is none is written as `null`.  Valid settings are accepted when they
are read back. -/
theorem documents_keep_values :
    (∀ s, Settings.codec.Keeps s) ∧ (∀ n, Narrative.codec.Keeps n) ∧ (∀ g, Glyph.codec.Keeps g) ∧
    (∀ p, Idiom.codec.Keeps p) ∧ (∀ s, Span.codec.Keeps s) ∧ (∀ r, Record.codec.Keeps r) ∧
    (∀ b, Bundle.codec.Keeps b) ∧ (∀ c, Counters.codec.Keeps c) ∧ (∀ s, Statistics.codec.Keeps s) ∧
    (∀ r, r.suggestion = none →
      (Record.codec.write r).member? "suggestedTransformation" = none) ∧
    (∀ s, s.scan.maxJobs = none →
      ((Settings.codec.write s).member? "scan").bind (·.member? "max_parallel_jobs")
        = some .null) ∧
    ∀ s v text, s.Valid → Settings.codec.Rearranged (Settings.codec.write s) v →
      Source.read text = ⟨v.tree, false⟩ → Settings.ofText text = .ok s := by
  refine ⟨fun s => s.faithful_codec.keeps, fun n => n.faithful_codec.keeps,
    fun g => g.faithful_codec.keeps, fun p => p.faithful_codec.keeps,
    fun s => s.faithful_codec.keeps, fun r => r.faithful_codec.keeps,
    fun b => b.faithful_codec.keeps, fun c => c.faithful_codec.keeps,
    fun s => s.faithful_codec.keeps, ?_, ?_, ?_⟩
  · rintro ⟨id, text, startLine, endLine, confidence, suggestion⟩ rfl
    rfl
  · rintro ⟨detect, narrative, extensions, dirs, bytes, jobs, links⟩ rfl
    rfl
  · intro s v text hvalid hv htext
    have hread := s.faithful_codec.keeps.readText v text hv htext
    unfold Settings.ofText
    rw [hread]
    exact Settings.checked_eq_ok.2 ⟨hvalid, rfl⟩

/-- A span with its fields in another order and a member that is no field, and the default
settings. -/
theorem documents_keep_values_span :
    Span.codec.readText
        "\x7b\"start_line\": 1, \"end_line\": 2, \"kind\": [], \"start_offset\": 0, \"end_offset\": 9\x7d"
      = .ok ⟨0, 9, 1, 2⟩ ∧
    ∀ text, Source.read text = ⟨(Settings.codec.write {}).tree, false⟩ →
      Settings.ofText text = .ok {} := by
  have hwritten : Span.codec.Rearranged (Span.codec.write ⟨0, 9, 1, 2⟩)
      (.object [("start_line", .ofNat 1), ("end_line", .ofNat 2), ("kind", .array []),
        ("start_offset", .ofNat 0), ("end_offset", .ofNat 9)]) := by
    refine .trans (.unknown (.array []) (k := "kind") (by decide)) (.members ?_)
    exact (List.perm_append_comm : ([_, _, _] ++ [_, _]).Perm _)
  obtain ⟨-, -, -, -, hspan, -, -, -, -, -, -, hsettings⟩ := documents_keep_values
  refine ⟨(hspan ⟨0, 9, 1, 2⟩).readText _ _ hwritten rfl, fun text htext => ?_⟩
  exact hsettings {} _ text Settings.valid_default (.refl _ _) htext

end CodeIdioms
