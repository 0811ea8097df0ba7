import CodeIdioms.Proofs.Document.Completeness
import CodeIdioms.Proofs.Settings.Reading

/-! # Settings of documents

The options of settings, part by part: the name of each, the parts of documents that stand for its
values, its default, and where settings keep it (`parts`).  A document of settings gives any of the
options, in any order and among anything else that can be skipped (`IsDocument`).

Such a document is always read, and what is read is the one choice of all options that has the value
of the document for every option that it gives, and the default for every other one
(`exists_read_of_isDocument`). -/

namespace CodeIdioms

namespace Document.Tree

/-- A number stands for the double nearest to it. -/
def IsNumber (t : Tree) (x : Float) : Prop := ∃ n, t = .number (some n) ∧ x = n.toDouble

/-- A natural number below `2 ^ 64`. -/
def IsNatural (t : Tree) (n : UInt64) : Prop := t = .number (some (.natural n))

/-- A text. -/
def IsText (t : Tree) (s : String) : Prop := t = .string (some s)

/-- A truth value. -/
def IsFlag (t : Tree) (b : Bool) : Prop := t = .bool b

/-- A complete sequence of texts. -/
def IsTexts (t : Tree) (ss : List String) : Prop :=
  t = .array (ss.map fun s => .string (some s)) none

/-- A natural number below `2 ^ 64`, or `null` for none. -/
def IsNaturalOrNull (t : Tree) (o : Option UInt64) : Prop :=
  (t = .null ∧ o = none) ∨ ∃ n, t.IsNatural n ∧ o = some n

/-- A value is the one that a part of a document stands for, or the default if there is no such
part. -/
def Stands {α : Type} (Means : Tree → α → Prop) (given : Option Tree) (default x : α) : Prop :=
  match given with
  | some t => Means t x
  | none => x = default

end Document.Tree

namespace Settings

open Document

/-- An option: its name, the parts of documents that stand for its values, its default, and its
value in settings. -/
structure Choice where
  name : String
  {Value : Type}
  Means : Tree → Value → Prop
  fallback : Value
  value : Settings → Value

/-- A part of settings: its name and its options. -/
structure Part where
  name : String
  choices : List Choice

/-- All parts of settings. -/
def parts : List Part := [
  ⟨"detect", [
    ⟨"min_confidence", Tree.IsNumber, 0.0, (·.detect.minConfidence)⟩,
    ⟨"rule_size_limit", Tree.IsNatural, 1048576, (·.detect.ruleSizeLimit)⟩,
    ⟨"rule_dfa_size_limit", Tree.IsNatural, 2097152, (·.detect.ruleCacheLimit)⟩]⟩,
  ⟨"narrative", [
    ⟨"target_language", Tree.IsText, "Rust", (·.narrative.targetLanguage)⟩,
    ⟨"default_format", Tree.IsText, "markdown", (·.narrative.layout)⟩,
    ⟨"variety_mode", Tree.IsFlag, false, (·.narrative.variety)⟩]⟩,
  ⟨"scan", [
    ⟨"file_extensions", Tree.IsTexts, ["js", "jsx", "mjs", "cjs", "ts", "tsx"],
      (·.scan.extensions)⟩,
    ⟨"skip_dirs", Tree.IsTexts, [], (·.scan.skipDirs)⟩,
    ⟨"max_file_bytes", Tree.IsNatural, 1048576, (·.scan.maxFileBytes)⟩,
    ⟨"max_parallel_jobs", Tree.IsNaturalOrNull, none, (·.scan.maxJobs)⟩,
    ⟨"follow_links", Tree.IsFlag, false, (·.scan.followLinks)⟩]⟩]

/-- A document gives a part: every option at most once, with a value. -/
structure Part.IsGiven (part : Part) (t : Tree) : Prop where
  once : t.GivesOnce (part.choices.map (·.name))
  means : ∀ choice ∈ part.choices, ∀ given, t.member? choice.name = some given →
    ∃ x, choice.Means given x

/-- A document of settings: it gives every part at most once. -/
structure IsDocument (t : Tree) : Prop where
  once : t.GivesOnce (parts.map (·.name))
  given : ∀ part ∈ parts, ∀ t', t.member? part.name = some t' → part.IsGiven t'

/-- What a document gives for an option. -/
def given? (t : Tree) (part : Part) (choice : Choice) : Option Tree :=
  (t.member? part.name).bind (·.member? choice.name)

/-- Settings that have the values of a document for the options that it gives, and the defaults for
all others. -/
def Decodes (t : Tree) (s : Settings) : Prop :=
  ∀ part ∈ parts, ∀ choice ∈ part.choices,
    Tree.Stands choice.Means (given? t part choice) choice.fallback (choice.value s)

/-! ### Reading the parts -/

section
variable {α : Type} {c : Codec α} {Means : Tree → α → Prop} {given : Option Tree} {d x : α}

theorem settles_iff (hc : ∀ {t x}, c.read t = .ok x ↔ Means t x) :
    c.Settles given d x ↔ Tree.Stands Means given d x := by
  cases given with
  | none => exact Iff.rfl
  | some t => exact hc

theorem exists_reads (name : String) (d : α) (hc : ∀ {t x}, c.read t = .ok x ↔ Means t x)
    (h : ∀ t, given = some t → ∃ x, Means t x) :
    ∃ x, (defaulting name c d).Reads given x :=
  Field.exists_reads_defaulting fun t ht => (h t ht).imp fun _ => hc.2

end

theorem read_naturalOrNull_iff (wanted : String) {t : Tree} {o : Option UInt64} :
    (Codec.option (Codec.word wanted)).read t = .ok o ↔ t.IsNaturalOrNull o := by
  rw [Codec.read_option_iff]
  simp only [Codec.read_word_iff]
  refine or_congr Iff.rfl ⟨fun h => h.2, ?_⟩
  rintro ⟨n, rfl, rfl⟩
  exact ⟨nofun, n, rfl, rfl⟩

/-- What is given for each option of all parts means something. -/
theorem IsDocument.exists_read {t : Tree} (h : IsDocument t) : ∃ s, codec.read t = .ok s := by
  obtain ⟨once, given⟩ := h
  simp only [parts, List.forall_mem_cons] at given
  obtain ⟨hdetect, hnarrative, hscan, -⟩ := given
  refine Codec.exists_read_record (by decide) once
    ⟨Field.exists_reads_defaulting fun t' ht => ?_, Field.exists_reads_defaulting fun t' ht => ?_,
      Field.exists_reads_defaulting fun t' ht => ?_, trivial⟩
  · obtain ⟨once, means⟩ := hdetect t' ht
    simp only [List.forall_mem_cons] at means
    obtain ⟨hconfidence, hsize, hcache, -⟩ := means
    exact Codec.exists_read_record (by decide) once
      ⟨exists_reads _ _ Codec.read_float_iff hconfidence,
        exists_reads _ _ (Codec.read_word_iff _) hsize,
        exists_reads _ _ (Codec.read_word_iff _) hcache, trivial⟩
  · obtain ⟨once, means⟩ := hnarrative t' ht
    simp only [List.forall_mem_cons] at means
    obtain ⟨htarget, hlayout, hvariety, -⟩ := means
    exact Codec.exists_read_record (by decide) once
      ⟨exists_reads _ _ Codec.read_string_iff htarget,
        exists_reads _ _ Codec.read_string_iff hlayout,
        exists_reads _ _ Codec.read_bool_iff hvariety, trivial⟩
  · obtain ⟨once, means⟩ := hscan t' ht
    simp only [List.forall_mem_cons] at means
    obtain ⟨hextensions, hdirs, hbytes, hjobs, hlinks, -⟩ := means
    exact Codec.exists_read_record (by decide) once
      ⟨exists_reads _ _ Codec.read_strings_iff hextensions,
        exists_reads _ _ Codec.read_strings_iff hdirs,
        exists_reads _ _ (Codec.read_word_iff _) hbytes,
        exists_reads _ _ (read_naturalOrNull_iff _) hjobs,
        exists_reads _ _ Codec.read_bool_iff hlinks, trivial⟩

/-! ### The values that are read -/

section
variable {t : Tree} (h : IsDocument t)
include h

theorem IsDocument.option?_eq {part : Part} (hpart : part ∈ parts) (i : Nat) (choice : Choice)
    (j : Nat) : option? (some t) part.name i choice.name j = given? t part choice := by
  show (t.part? part.name i).bind _ = _
  rw [h.once.part?_eq]
  unfold given?
  cases hgiven : t.member? part.name with
  | none => rfl
  | some t' => exact (h.given part hpart t' hgiven).once.part?_eq choice.name j

theorem IsDocument.stands {part : Part} (hpart : part ∈ parts) {choice : Choice}
    {c : Codec choice.Value} (hc : ∀ {t x}, c.read t = .ok x ↔ choice.Means t x) {i j : Nat}
    {x : choice.Value}
    (hx : c.Settles (option? (some t) part.name i choice.name j) choice.fallback x) :
    Tree.Stands choice.Means (given? t part choice) choice.fallback x := by
  rw [h.option?_eq hpart] at hx
  exact (settles_iff hc).1 hx

/-- Every option is read from what is given for it. -/
theorem IsDocument.decodes_of_isRead {s : Settings} (hs : s.IsRead (some t)) : Decodes t s := by
  have hparts : ∀ part ∈ parts, part ∈ parts := fun _ => id
  unfold Decodes
  simp only [parts, List.forall_mem_cons] at hparts ⊢
  obtain ⟨hdetect, hnarrative, hscan, -⟩ := hparts
  refine ⟨⟨?_, ?_, ?_, nofun⟩, ⟨?_, ?_, ?_, nofun⟩, ⟨?_, ?_, ?_, ?_, ?_, nofun⟩, nofun⟩
  · exact h.stands hdetect Codec.read_float_iff hs.minConfidence
  · exact h.stands hdetect (Codec.read_word_iff _) hs.ruleSizeLimit
  · exact h.stands hdetect (Codec.read_word_iff _) hs.ruleCacheLimit
  · exact h.stands hnarrative Codec.read_string_iff hs.targetLanguage
  · exact h.stands hnarrative Codec.read_string_iff hs.layout
  · exact h.stands hnarrative Codec.read_bool_iff hs.variety
  · exact h.stands hscan Codec.read_strings_iff hs.extensions
  · exact h.stands hscan Codec.read_strings_iff hs.skipDirs
  · exact h.stands hscan (Codec.read_word_iff _) hs.maxFileBytes
  · exact h.stands hscan (read_naturalOrNull_iff _) hs.maxJobs
  · exact h.stands hscan Codec.read_bool_iff hs.followLinks

end

/-! ### One choice of all options -/

/-- The parts are all of settings. -/
theorem eq_of_values {s s' : Settings}
    (h : ∀ part ∈ parts, ∀ choice ∈ part.choices, choice.value s = choice.value s') : s = s' := by
  obtain ⟨⟨_, _, _⟩, ⟨_, _, _⟩, ⟨_, _, _, _, _⟩⟩ := s
  obtain ⟨⟨_, _, _⟩, ⟨_, _, _⟩, ⟨_, _, _, _, _⟩⟩ := s'
  simp only [parts, List.forall_mem_cons] at h
  obtain ⟨⟨rfl, rfl, rfl, -⟩, ⟨rfl, rfl, rfl, -⟩, ⟨rfl, rfl, rfl, rfl, rfl, -⟩, -⟩ := h
  rfl

/-- A part of a document stands for at most one value of an option. -/
theorem eq_of_means : ∀ part ∈ parts, ∀ choice ∈ part.choices, ∀ {t : Tree} {x y : choice.Value},
    choice.Means t x → choice.Means t y → x = y := by
  have hcodec : ∀ {α : Type} {c : Codec α} {Means : Tree → α → Prop},
      (∀ {t x}, c.read t = .ok x ↔ Means t x) → ∀ {t x y}, Means t x → Means t y → x = y :=
    fun hc _ _ _ hx hy => Except.ok.inj ((hc.2 hx).symm.trans (hc.2 hy))
  simp only [parts, List.forall_mem_cons]
  exact ⟨⟨hcodec Codec.read_float_iff, hcodec (Codec.read_word_iff "usize"),
    hcodec (Codec.read_word_iff "usize"), nofun⟩,
    ⟨hcodec Codec.read_string_iff, hcodec Codec.read_string_iff, hcodec Codec.read_bool_iff, nofun⟩,
    ⟨hcodec Codec.read_strings_iff, hcodec Codec.read_strings_iff,
      hcodec (Codec.read_word_iff "u64"),
      hcodec (read_naturalOrNull_iff "usize"), hcodec Codec.read_bool_iff, nofun⟩, nofun⟩

theorem Decodes.eq {t : Tree} {s s' : Settings} (h : Decodes t s) (h' : Decodes t s') : s = s' := by
  refine eq_of_values fun part hpart choice hchoice => ?_
  have hs := h part hpart choice hchoice
  have hs' := h' part hpart choice hchoice
  unfold Tree.Stands at hs hs'
  cases hgiven : given? t part choice with
  | none =>
    rw [hgiven] at hs hs'
    exact hs.trans hs'.symm
  | some t' =>
    rw [hgiven] at hs hs'
    exact eq_of_means part hpart choice hchoice hs hs'

/-- **Decoding.**  A document of settings is read, and as the only settings that have its values and
otherwise the defaults. -/
theorem exists_read_of_isDocument {t : Tree} (h : IsDocument t) :
    ∃ s, codec.read t = .ok s ∧ ∀ s', Decodes t s' ↔ s' = s := by
  obtain ⟨s, hs⟩ := h.exists_read
  have hdecodes : Decodes t s := h.decodes_of_isRead (isRead_of_settles hs)
  refine ⟨s, hs, fun s' => ⟨fun hs' => hs'.eq hdecodes, ?_⟩⟩
  rintro rfl
  exact hdecodes

end Settings

end CodeIdioms
