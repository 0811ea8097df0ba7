import CodeIdioms.Detection.Detector
import CodeIdioms.Proofs.Detection.Compilation
import CodeIdioms.Proofs.Explain.Builtin
import CodeIdioms.Proofs.Span.Standing

/-! # Detection does not fail

Three steps of detection may fail: taking the idiom at the position of a rule, locating what the rule
finds, and cutting its text out of the source.  Here they are steps of a computation that ends without
a result where one of them fails (`detect?`).  The first never does, since positions come from the
catalog; the second never does for a source of a length that occurs; and the third fails if and only if
an offset of the located span lies inside a character, which is never so for offsets that rules report
(`Detector.detect_safe_and_faithful`). -/

namespace CodeIdioms

/-- The finding of an idiom at a range of offsets, where a step that fails ends without a result. -/
def Finding.checked? (p : Idiom) (source : String) (start stop : UInt64) : Option Finding := do
  let span ← Span.locate? source start stop
  let text ← span.text? source
  return { idiom := p, text, span, confidence := p.confidence, suggestion := p.suggestion }

/-- A finding stands in a source between what is before and what is after it, and so does its record. -/
structure Finding.StandsBetween (f : Finding) (source before after : String) : Prop where
  startOffset : before.utf8ByteSize = f.span.startOffset.toNat
  size : f.span.startOffset.toNat + f.text.utf8ByteSize = f.span.endOffset.toNat
  placed : Text.IsPlaced source before f.text after f.span.startLine f.span.endLine
  record_placed : Text.IsPlaced source before f.record.text after f.record.startLine f.record.endLine

namespace Detector

section
variable {E : RuleEngine} (d : Detector E) (source : String)

/-- What a rule reports, where a step that fails ends without a result. -/
def findRule? (r : CompiledRule E) : Option (Option Finding) :=
  (d.catalog.idioms[r.index]?).bind fun p =>
    if p.confidence < d.minConfidence then some none
    else match E.find r.program source with
      | none => some none
      | some (start, stop) => (Finding.checked? p source start stop).map some

/-- The findings in a text, where a step that fails ends without a result. -/
def detect? : Option (List Finding) :=
  (d.ruleSet.rules.mapM (d.findRule? source)).map fun found => found.reduceOption.mergeSort ranked

end

/-- Steps of which none fails give what they give one by one. -/
theorem mapM_eq_some_map {α β : Type} {f : α → Option β} {g : α → β} {l : List α}
    (h : ∀ a ∈ l, f a = some (g a)) : l.mapM f = some (l.map g) := by
  induction l with
  | nil => rfl
  | cons a l ih =>
    obtain ⟨ha, hl⟩ := List.forall_mem_cons.1 h
    rw [List.mapM_cons, ha, ih hl]
    rfl

/-! ### One finding -/

section
variable {source : String}

theorem span_of_at? {p : Idiom} {start stop : UInt64} {f : Finding}
    (hf : Finding.at? p source start stop = some f) : f.span = Span.locate source start stop := by
  obtain ⟨text, -, rfl⟩ := Option.map_eq_some_iff.1 hf
  rfl

variable (h : source.utf8ByteSize < 2 ^ 63)
include h

theorem checked?_eq_at? (p : Idiom) (start stop : UInt64) :
    Finding.checked? p source start stop = Finding.at? p source start stop := by
  unfold Finding.checked? Finding.at?
  rw [Span.locate?_eq_some h, Option.bind_eq_bind, Option.bind_some]
  dsimp only
  cases (Span.locate source start stop).text? source <;> rfl

theorem at?_eq_none_iff (p : Idiom) (start stop : UInt64) :
    Finding.at? p source start stop = none ↔
      ¬ Text.IsBoundary source (Span.locate source start stop).startOffset ∨
        ¬ Text.IsBoundary source (Span.locate source start stop).endOffset := by
  unfold Finding.at?
  rw [Option.map_eq_none_iff]
  exact Span.text?_eq_none_iff (Span.marks_locate h start stop).startOffset_le

/-- Offsets between characters have a finding, also where the range is empty or inverted. -/
theorem exists_at?_of_isBoundary (p : Idiom) {start stop : UInt64}
    (hstart : Text.IsBoundary source start) (hstop : Text.IsBoundary source stop) :
    ∃ f, Finding.at? p source start stop = some f := by
  have hm := Span.marks_locate h start stop
  have hle : start.toNat ≤ source.utf8ByteSize := hstart.le_utf8ByteSize
  have hle' : stop.toNat ≤ source.utf8ByteSize := hstop.le_utf8ByteSize
  have hfirst : (Span.locate source start stop).startOffset = start := by
    rw [← UInt64.toNat_inj, hm.startOffset, Nat.min_eq_left hle]
  have hlast : (Span.locate source start stop).endOffset.toNat = max start.toNat stop.toNat := by
    rw [hm.endOffset, hfirst, Nat.min_eq_left hle']
  rw [← Option.ne_none_iff_exists', ne_eq, at?_eq_none_iff h, hfirst, not_or, not_not, not_not]
  refine ⟨hstart, ?_⟩
  unfold Text.IsBoundary
  rw [hlast]
  obtain hmax | hmax := max_choice start.toNat stop.toNat
  · rw [hmax]
    exact hstart
  · rw [hmax]
    exact hstop

theorem standsBetween_of_at? {p : Idiom} {start stop : UInt64} {f : Finding}
    (hf : Finding.at? p source start stop = some f) :
    ∃ before after, f.StandsBetween source before after := by
  have hm := Span.marks_locate h start stop
  obtain ⟨text, htext, rfl⟩ := Option.map_eq_some_iff.1 hf
  obtain ⟨before, after, hsource, hstart, hend⟩ := (Span.text?_eq_some_iff hm.startOffset_le).1 htext
  have hplaced := Span.isPlaced_of_marks hm hsource hstart hend
  refine ⟨before, after, hstart, ?_, hplaced, hplaced⟩
  rw [← hend, String.utf8ByteSize_append, hstart]

/-! ### All findings -/

variable {E : RuleEngine} {c : Catalog} {s : DetectSettings}

theorem findRule?_eq_some {r : CompiledRule E} (hr : r ∈ (new E c s).ruleSet.rules) :
    (new E c s).findRule? source r = some ((new E c s).findRule source r) := by
  obtain ⟨p, hp, -⟩ := RuleSet.getElem?_of_mem_rules hr
  have hp : (new E c s).catalog.idioms[r.index]? = some p := hp
  unfold findRule? findRule
  simp only [hp, Option.bind_eq_bind, Option.bind_some]
  split
  · rfl
  · cases hfind : E.find r.program source with
    | none => rfl
    | some range =>
      have hrange := E.find_isRange hfind
      obtain ⟨f, hf⟩ := exists_at?_of_isBoundary h p hrange.start_valid hrange.stop_valid
      simp only [checked?_eq_at? h, hf, Option.bind_some, Option.map_some]

theorem detect?_eq_some (E : RuleEngine) (c : Catalog) (s : DetectSettings) :
    (new E c s).detect? source = some ((new E c s).detect source) := by
  unfold detect? detect
  rw [mapM_eq_some_map fun r hr => findRule?_eq_some h hr, Option.map_some, List.reduceOption, List.filterMap_map]
  rfl

omit h in
theorem exists_at?_of_mem_detect {f : Finding} (hf : f ∈ (new E c s).detect source) :
    ∃ p start stop, Finding.at? p source start stop = some f := by
  obtain ⟨r, -, hr⟩ := List.mem_filterMap.1 (List.mem_mergeSort.1 hf)
  obtain ⟨p, -, hr⟩ := Option.bind_eq_some_iff.1 hr
  split at hr
  · cases hr
  · obtain ⟨range, -, hat⟩ := Option.bind_eq_some_iff.1 hr
    exact ⟨p, range.1, range.2, hat⟩

end

/-- **Safety of detection.**  A range has a finding unless an offset of its span lies inside a
character, so it has one if its own offsets lie between characters; and a finding stands where its span
and its record say.  For every rule engine, no step of detection fails, and all findings stand so. -/
theorem detect_safe_and_faithful {source : String} (h : source.utf8ByteSize < 2 ^ 63) :
    (∀ (p : Idiom) (start stop : UInt64),
      Finding.checked? p source start stop = Finding.at? p source start stop ∧
      (Finding.at? p source start stop = none ↔
        ¬ Text.IsBoundary source (Span.locate source start stop).startOffset ∨
          ¬ Text.IsBoundary source (Span.locate source start stop).endOffset) ∧
      (Text.IsBoundary source start → Text.IsBoundary source stop →
        ∃ f, Finding.at? p source start stop = some f) ∧
      ∀ f, Finding.at? p source start stop = some f →
        f.span = Span.locate source start stop ∧ ∃ before after, f.StandsBetween source before after) ∧
    ∀ (E : RuleEngine) (c : Catalog) (s : DetectSettings),
      (new E c s).detect? source = some ((new E c s).detect source) ∧
      ∀ f ∈ (new E c s).detect source, ∃ before after, f.StandsBetween source before after := by
  refine ⟨fun p start stop => ⟨checked?_eq_at? h p start stop, at?_eq_none_iff h p start stop,
    exists_at?_of_isBoundary h p, fun f hf => ⟨span_of_at? hf, standsBetween_of_at? h hf⟩⟩, fun E c s => ⟨detect?_eq_some h E c s, ?_⟩⟩
  intro f hf
  obtain ⟨p, start, stop, hat⟩ := exists_at?_of_mem_detect hf
  exact standsBetween_of_at? h hat

/-- A range that begins inside a character, and one that is inverted and lies beyond the end. -/
theorem detect_safe_and_faithful_accented :
    "aé\nb".utf8ByteSize < 2 ^ 63 ∧
      ¬ Text.IsBoundary "aé\nb" (Span.locate "aé\nb" 2 4).startOffset ∧
      Finding.at? Builtin.esModuleImport "aé\nb" 2 4 = none ∧
      (∃ f before after, Finding.at? Builtin.esModuleImport "aé\nb" 9 2 = some f ∧
        f.StandsBetween "aé\nb" before after) ∧
      ∃ r c, Builtin.catalog r = .ok c ∧
        (new .standard c {}).detect? "aé\nb" = some ((new .standard c {}).detect "aé\nb") := by
  have hsize : "aé\nb".utf8ByteSize < 2 ^ 63 := by decide
  obtain ⟨hfinding, hdetect⟩ := detect_safe_and_faithful hsize
  have hinside : ¬ Text.IsBoundary "aé\nb" (Span.locate "aé\nb" 2 4).startOffset := by
    unfold Text.IsBoundary
    decide +kernel
  have hsome : (Finding.at? Builtin.esModuleImport "aé\nb" 9 2).isSome = true := by decide +kernel
  obtain ⟨f, hf⟩ := Option.isSome_iff_exists.1 hsome
  obtain ⟨before, after, hstands⟩ := ((hfinding _ _ _).2.2.2 f hf).2
  obtain ⟨r, -⟩ := Builtin.exists_registry
  obtain ⟨c, hc⟩ := Builtin.exists_catalog r
  exact ⟨hsize, hinside, (hfinding _ _ _).2.1.2 (.inl hinside), ⟨f, before, after, hf, hstands⟩,
    r, c, hc, (hdetect _ c _).1⟩

end Detector

end CodeIdioms
