import CodeIdioms.Proofs.Catalog.Construction
import CodeIdioms.Proofs.Detection.Leftmost
import CodeIdioms.Proofs.Explain.Builtin

/-! # Where built-in findings begin

A finding is reported at the line on which its text begins, and that should be the line of the
construct.  For all built-in idioms but one it is: their rules match no empty stretch and nothing that
begins with a blank (`Builtin.beginsVisibly_of_mem`).  The rule for imports begins with blanks from the
start of a line on (`Builtin.core_importExpr`), and blanks may end lines; since a search finds the match
that begins leftmost, the text of an import begins with all blank lines above it, and it is reported at
the first of them (`Detector.begins_of_mem_detect`). -/

namespace CodeIdioms

open Rule Text

/-! ### Built-in rules -/

namespace Builtin

/-- Whether no match of the rule of an idiom is empty or begins with a blank. -/
def beginsVisibly (p : Idiom) : Bool :=
  (Expr.ofRule? p.rule).all fun e => e.core.visible && !e.core.nullable

theorem beginsVisibly_nullCheckBasic : beginsVisibly nullCheckBasic = true := by
  -- A bracketed set is sorted when it is read, and `decide` does not unfold sorting.
  obtain ⟨rest, hrule⟩ : ∃ rest, Expr.ofRule? nullCheckBasic.rule
      = some (.seq (.chars (Ranges.ofChar '!' ++ Ranges.ofChar '=').normalize) rest) := ⟨_, rfl⟩
  have hset : (Ranges.ofChar '!' ++ Ranges.ofChar '=').normalize = [(0x21, 0x21), (0x3d, 0x3d)] := by
    cbv
  unfold beginsVisibly
  rw [hrule, hset]
  rfl

theorem beginsVisibly_of_mem {p : Idiom} (hp : p ∈ idioms) (hid : p.id ≠ esModuleImport.id) :
    beginsVisibly p = true := by
  have hrest : (idioms.tail.all fun p => p.id == esModuleImport.id || beginsVisibly p) = true := by
    decide +kernel
  rcases List.mem_cons.1 (show p ∈ nullCheckBasic :: idioms.tail from hp) with rfl | hp
  · exact beginsVisibly_nullCheckBasic
  · rcases Bool.or_eq_true_iff.1 (List.all_eq_true.1 hrest p hp) with heq | hvisible
    · exact absurd (eq_of_beq heq) hid
    · exact hvisible

/-- The characters with which what is imported may begin. -/
def importedStarts : Ranges := (wordRanges ++ Ranges.ofChar '\x7b' ++ Ranges.ofChar '*').normalize

/-- The characters that do not end a statement. -/
def unfinished : Ranges := (Ranges.ofChar ';').normalize.complement

/-- The characters that begin the name of a module. -/
def quotes : Ranges := (Ranges.ofChar '\x22' ++ Ranges.ofChar '\x27').normalize

/-- The expressions of the characters of a word. -/
def letters (word : String) : List Expr := word.toList.map fun c => .chars (Ranges.ofChar c)

/-- The expression of the rule for imports. -/
def importExpr : Expr := Expr.concat <|
  [Expr.empty, Expr.look .lineStart, Expr.rep (.chars blankRanges) 0 none true] ++
  letters "import" ++ [Expr.rep (.chars blankRanges) 1 none true, Expr.chars importedStarts,
    Expr.rep (.chars unfinished) 0 none true, Expr.look (.word true .edge)] ++
  letters "from" ++ [Expr.rep (.chars blankRanges) 1 none true, Expr.chars quotes]

/-- What follows the word of an import. -/
def importTail : Core :=
  .seq (.plus (.chars blankRanges) true) <| .seq (.chars importedStarts) <|
  .seq (.opt (.plus (.chars unfinished) true) true) <| .seq (.look (.word true .edge)) <|
  .spelled "from".toList <| .seq (.plus (.chars blankRanges) true) (.chars quotes)

theorem ofRule?_esModuleImport : Expr.ofRule? esModuleImport.rule = some importExpr := by rfl

theorem core_importExpr : importExpr.core = .indented "import".toList importTail := by rfl

theorem cost_letters (word : String) : ((letters word).map Expr.cost).sum ≤ 89 * word.toList.length := by
  unfold letters
  rw [List.map_map]
  induction word.toList with
  | nil => exact Nat.le_refl _
  | cons c cs ih =>
    have hchar : Expr.setCost (Ranges.ofChar c) ≤ 32 + 57 * 1 := Expr.setCost_le (Nat.le_refl _)
    rw [List.map_cons, List.sum_cons, List.length_cons]
    show Expr.setCost (Ranges.ofChar c) + _ ≤ _
    omega

theorem length_importedStarts_le : importedStarts.length ≤ 1000 :=
  Nat.le_trans (Ranges.length_normalize_le _) (by decide +kernel)

theorem length_unfinished_le : unfinished.length ≤ 2 :=
  Nat.le_trans (Ranges.length_complement_le _) (Nat.succ_le_succ (Ranges.length_normalize_le _))

theorem cost_importExpr_le : importExpr.cost ≤ 1048576 := by
  have hstarts := Expr.setCost_le length_importedStarts_le
  have hunfinished := Expr.setCost_le length_unfinished_le
  have hquotes : Expr.setCost quotes ≤ 32 + 57 * 2 := Expr.setCost_le (Ranges.length_normalize_le _)
  have hblanks : Expr.setCost blankRanges ≤ 32 + 57 * 10 := Expr.setCost_le (Nat.le_refl 10)
  have himport : ((letters "import").map Expr.cost).sum ≤ 89 * 6 := cost_letters "import"
  have hfrom : ((letters "from").map Expr.cost).sum ≤ 89 * 4 := cost_letters "from"
  refine Nat.le_trans (Expr.cost_concat_le _) ?_
  simp only [List.map_append, List.sum_append, List.map_cons, List.map_nil, List.sum_cons,
    List.sum_nil, Expr.cost, Nat.zero_max, Nat.max_self, Nat.one_mul]
  -- What is left is linear in the sizes of the parts, whatever sets they are.
  generalize Expr.setCost importedStarts = starts at *
  generalize Expr.setCost unfinished = middle at *
  generalize Expr.setCost quotes = ends at *
  generalize Expr.setCost blankRanges = blanks at *
  generalize ((letters "import").map Expr.cost).sum = word at *
  generalize ((letters "from").map Expr.cost).sum = word' at *
  omega

theorem rule_eq_of_id_eq {p : Idiom} (hp : p ∈ idioms) (hid : p.id = esModuleImport.id) :
    p.rule = esModuleImport.rule := by
  have hall : ∀ p ∈ idioms, p.id = esModuleImport.id → p.rule = esModuleImport.rule := by decide
  exact hall p hp hid

end Builtin

/-! ### Lines -/

/-- The line on which what follows a text begins. -/
def lineAfter (before : String) : Nat := 1 + Span.lineEnds (Span.bytesOf before)

theorem lineAfter_append (before middle : String) :
    lineAfter (before ++ middle) = lineAfter before + Span.lineEnds (Span.bytesOf middle) := by
  unfold lineAfter
  rw [Span.bytesOf_append, Span.lineEnds_append, Nat.add_assoc]

/-- A finding begins after a part of its source: first come blanks, and then a construct that begins
with no blank.  The finding is reported at the line of the former. -/
structure Finding.BeginsAfter (f : Finding) (source before indentation construct : String) :
    Prop where
  source_eq : ∃ after, source = before ++ f.text ++ after
  text_eq : f.text = indentation ++ construct
  indentation_blank : isBlankText indentation = true
  construct_visible : ∃ c cs, construct.toList = c :: cs ∧ isBlank c = false
  startOffset : f.span.startOffset.toNat = before.utf8ByteSize
  startLine : f.span.startLine.toNat = lineAfter before
  constructLine : lineAfter (before ++ indentation)
    = f.span.startLine.toNat + Span.lineEnds (Span.bytesOf indentation)

theorem Finding.Reports.beginsAfter {f : Finding} {p : Idiom}
    {source before indentation construct after : String} {start stop : UInt64}
    (h : f.Reports p source start stop) (hsource : source = before ++ f.text ++ after)
    (hbefore : before.utf8ByteSize = start.toNat) (hend : (before ++ f.text).utf8ByteSize = stop.toNat)
    (htext : f.text = indentation ++ construct) (hblank : isBlankText indentation = true)
    (hvisible : ∃ c cs, construct.toList = c :: cs ∧ isBlank c = false) :
    f.BeginsAfter source before indentation construct := by
  have hlong : start.toNat + 1 < UInt64.size := by
    obtain ⟨c, cs, hconstruct, -⟩ := hvisible
    have hne : construct.utf8ByteSize ≠ 0 := by
      intro hzero
      rw [String.utf8ByteSize_eq_zero_iff.1 hzero] at hconstruct
      cases hconstruct
    have hstop : stop.toNat < UInt64.size := stop.toNat_lt
    rw [htext, String.utf8ByteSize_append, String.utf8ByteSize_append, hbefore] at hend
    omega
  have hline : f.span.startLine.toNat = lineAfter before := by
    rw [h.span, hsource, String.append_assoc]
    exact Span.toNat_startLine_locate hbefore hlong
  exact ⟨⟨after, hsource⟩, htext, hblank, hvisible, by rw [h.startOffset, hbefore], hline,
    by rw [hline, lineAfter_append]⟩

namespace Detector

/-- **Where built-in findings begin.**  What a detector over the built-in catalog finds begins with
blanks, if any, and then a construct that begins with no blank; the construct lies as many lines below
the start line as the blanks have line ends.  There are no blanks before any construct but an import,
so all others are reported at their own lines.  An import is reported at the first of the blank lines
above it. -/
theorem begins_of_mem_detect {r : Registry} {c : Catalog} (hc : Builtin.catalog r = .ok c)
    (s : DetectSettings) (source : String) {f : Finding}
    (hf : f ∈ (new .standard c s).detect source) :
    ∃ before indentation construct, f.BeginsAfter source before indentation construct ∧
      (f.idiom.id ≠ Builtin.esModuleImport.id → indentation = "") ∧
      (f.idiom.id = Builtin.esModuleImport.id → "import".toList <+: construct.toList ∧
        StartsLine before ∧
        ∀ x y, before = x ++ y → StartsLine x → isBlankText y = true → y = "") := by
  obtain ⟨p, hp, start, stop, hfires, hreports⟩ := exists_fires_of_mem_detect hf
  obtain ⟨e, before, after, he, hsource, hbefore, hend, hfirst⟩ :=
    exists_isFirst_of_fires hfires hreports
  rw [(Catalog.ofIdioms_eq_ok.1 hc).2] at hp
  obtain ⟨q, hq, rfl⟩ := List.mem_map.1 hp
  have hid : f.idiom.id = q.id := by
    rw [hreports.idiom]
    rfl
  replace he : Expr.ofRule? q.rule = some e := he
  by_cases himport : q.id = Builtin.esModuleImport.id
  · rw [Builtin.rule_eq_of_id_eq hq himport, Builtin.ofRule?_esModuleImport] at he
    obtain rfl := Option.some.inj he
    rw [Builtin.core_importExpr] at hfirst
    obtain ⟨indentation, construct, htext, hblank, hword, hline, habove⟩ :=
      hfirst.exists_indentation
    have hvisible : ∃ c cs, construct.toList = c :: cs ∧ isBlank c = false := by
      obtain ⟨cs, hcs⟩ := hword
      exact ⟨'i', _, hcs.symm, by decide⟩
    exact ⟨before, indentation, construct,
      hreports.beginsAfter hsource hbefore hend htext hblank hvisible,
      fun hne => absurd (hid.trans himport) hne, fun _ => ⟨hword, hline, habove⟩⟩
  · have hrule := Builtin.beginsVisibly_of_mem hq himport
    unfold Builtin.beginsVisibly at hrule
    rw [he, Option.all_some, Bool.and_eq_true, Bool.not_eq_true'] at hrule
    have hvisible := hfirst.exists_visible hrule.1 hrule.2
    exact ⟨before, "", f.text,
      hreports.beginsAfter hsource hbefore hend String.empty_append.symm rfl hvisible,
      fun _ => rfl, fun heq => absurd (hid.symm.trans heq) himport⟩

/-- An import below two lines that are blank. -/
def spacedImport : String := "\n\nimport a from 'b';"

theorem matches_spacedImport :
    Builtin.importExpr.core.Matches spacedImport.toList.toArray 0 17 := by
  let text := spacedImport.toList.toArray
  have hblank : Core.BlankBetween text 0 2 := by
    intro k _ hk
    obtain rfl | rfl : k = 0 ∨ k = 1 := by omega
    · exact ⟨'\n', rfl, by decide⟩
    · exact ⟨'\n', rfl, by decide⟩
  have hspace {i : Nat} (h : text[i]? = some ' ') :
      (Core.plus (.chars blankRanges) true).Matches text i (i + 1) :=
    .once (.chars h (by decide))
  have hstart : Builtin.importedStarts.hasChar 'a' = true :=
    (Ranges.contains_normalize _ _).2 ⟨(0x61, 0x7a), by decide, by decide, by decide⟩
  have hmiddle : Builtin.unfinished.hasChar ' ' = true := by cbv
  have hquote : Builtin.quotes.hasChar '\x27' = true := by cbv
  have hname : (Core.seq (.plus (.chars blankRanges) true) (.chars Builtin.quotes)).Matches text 15 17 :=
    .seq (hspace rfl) (.chars rfl hquote)
  have hfrom : (Core.spelled "from".toList
      (.seq (.plus (.chars blankRanges) true) (.chars Builtin.quotes))).Matches text 11 17 :=
    Core.matches_spelled_iff.2 ⟨by decide, hname⟩
  have htail : Builtin.importTail.Matches text 8 17 :=
    .seq (hspace rfl) <| .seq (.chars rfl hstart) <|
    .seq (.take (.once (.chars rfl hmiddle))) <| .seq (.look (by decide)) hfrom
  rw [Builtin.core_importExpr]
  exact Core.matches_indented_iff.2 ⟨rfl, 2, ⟨by decide, hblank⟩,
    Core.matches_spelled_iff.2 ⟨by decide, htail⟩⟩

/-- The import is found, and its text is the source from the first blank line on. -/
theorem exists_mem_detect_spacedImport : ∃ r c f, Builtin.catalog r = .ok c ∧
    f ∈ (new .standard c {}).detect spacedImport ∧ f.idiom.id = Builtin.esModuleImport.id ∧
    f.text.toList.head? = some '\n' := by
  obtain ⟨r, -⟩ := Builtin.exists_registry
  obtain ⟨c, hc⟩ := Builtin.exists_catalog r
  let p := Builtin.esModuleImport.withGlyphs r
  have hp : p ∈ c.idioms := by
    rw [(Catalog.ofIdioms_eq_ok.1 hc).2]
    refine List.mem_map_of_mem ?_
    simp only [Builtin.idioms, List.mem_cons, true_or, or_true]
  have hrule : Expr.ofRule? p.rule = some Builtin.importExpr := Builtin.ofRule?_esModuleImport
  have htrusted : ¬ p.confidence < ({} : DetectSettings).minConfidence := by
    show ¬ (0.9 : Float) < 0.0
    decide
  obtain ⟨start, stop, hfires⟩ := exists_fires_of_matches (s := {}) hrule
    Builtin.cost_importExpr_le matches_spacedImport (Nat.zero_le _) (by decide) htrusted
  obtain ⟨f, hf, hreports⟩ := exists_mem_detect_of_fires hp hfires
  refine ⟨r, c, f, hc, hf, by rw [hreports.idiom]; rfl, ?_⟩
  obtain ⟨e, before, after, he, hsource, -, -, hfirst⟩ := exists_isFirst_of_fires hfires hreports
  obtain rfl := Option.some.inj (hrule.symm.trans he)
  have hmatch := matches_spacedImport
  rw [hsource] at hmatch
  obtain ⟨d, ds, htext⟩ := hfirst.exists_cons (by rw [Builtin.core_importExpr]; rfl)
  have hhead : (before.toList ++ f.text.toList ++ after.toList).head? = some '\n' := by
    rw [← String.toList_append, ← String.toList_append, ← hsource]
    rfl
  rw [hfirst.before_eq_nil hmatch, htext] at hhead
  rw [htext]
  exact hhead

theorem begins_of_mem_detect_spacedImport :
    ∃ r c f, Builtin.catalog r = .ok c ∧ f ∈ (new .standard c {}).detect spacedImport ∧
      f.text.toList.head? = some '\n' ∧
      ∃ before indentation construct, f.BeginsAfter spacedImport before indentation construct ∧
        "import".toList <+: construct.toList ∧ StartsLine before ∧
        ∀ x y, before = x ++ y → StartsLine x → isBlankText y = true → y = "" := by
  obtain ⟨r, c, f, hc, hf, hid, hhead⟩ := exists_mem_detect_spacedImport
  obtain ⟨before, indentation, construct, hbegins, -, himport⟩ :=
    begins_of_mem_detect hc {} spacedImport hf
  exact ⟨r, c, f, hc, hf, hhead, before, indentation, construct, hbegins, himport hid⟩

/-- The text of a built-in finding may begin with a blank. -/
theorem not_visible_spacedImport :
    ¬ ∀ (r : Registry) (c : Catalog) (source : String) (f : Finding),
      Builtin.catalog r = .ok c → f ∈ (new .standard c {}).detect source →
      ∃ d ds, f.text.toList = d :: ds ∧ isBlank d = false := by
  intro hclaim
  obtain ⟨r, c, f, hc, hf, -, hhead⟩ := exists_mem_detect_spacedImport
  obtain ⟨d, ds, htext, hvisible⟩ := hclaim r c spacedImport f hc hf
  rw [htext] at hhead
  obtain rfl := Option.some.inj hhead
  exact absurd hvisible (by decide)

end Detector

end CodeIdioms
