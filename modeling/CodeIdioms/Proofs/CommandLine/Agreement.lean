import CodeIdioms.Proofs.CommandLine.Silence
import CodeIdioms.Proofs.Detection.Exactness
import CodeIdioms.Proofs.Document.RoundTrip
import CodeIdioms.Proofs.Scan.Listing

/-! # Outputs that agree

A scan prints its report as text or as a document, and the findings of one file can be had from
`detect` as well.  What a reader sees of the findings of a report is its overview: the files with
findings and the records of these, and the counters.  The document is read as the overview
(`read_reportValue`), and the text is rendered from it (`reportLines_eq`), so neither shows a file or a
finding that the other does not.  For every file of the overview, `detect` prints the document of the
same records (`outcome_detect`), since it is run with settings that find the same, and the path of a
scanned file is never taken for standard input (`ne_hyphen_of_takes`). -/

namespace CodeIdioms

open Document

/-- What is seen of the findings of a scan. -/
structure Overview where
  files : List (String × List Record)
  counters : Counters

namespace Overview

/-- The codec of the records of all findings in one text. -/
def recordsCodec : Codec (List Record) := Codec.list Record.codec

/-- The codec of a file and its records. -/
def fileCodec : Codec (String × List Record) :=
  Codec.record "struct FileEntry"
    (.cons (required "path" Codec.string) <| .cons (required "matches" recordsCodec) .nil)
    (fun (path, records, _) => (path, records))
    fun f => (f.1, f.2, ())

/-- The codec of overviews; it passes over whatever else a report tells. -/
def codec : Codec Overview :=
  Codec.record "struct Report"
    (.cons (required "stats" Counters.codec) <|
     .cons (required "files" (Codec.list fileCodec)) .nil)
    (fun (counters, files, _) => ⟨files, counters⟩)
    fun o => (o.counters, o.files, ())

theorem faithful_recordsCodec (records : List Record) : recordsCodec.Faithful records :=
  Codec.faithful_list fun r _ => r.faithful_codec

theorem faithful_fileCodec (f : String × List Record) : fileCodec.Faithful f :=
  Codec.faithful_record (by decide) rfl
    ⟨Codec.faithful_string _, faithful_recordsCodec _, trivial⟩

theorem faithful_codec (o : Overview) : codec.Faithful o :=
  Codec.faithful_record (by decide) rfl
    ⟨Counters.faithful_codec _, Codec.faithful_list fun f _ => faithful_fileCodec f, trivial⟩

end Overview

/-- The overview of a report: the files with at least one finding, in order, each with the records of
its findings, in order, and the counters. -/
def Report.overview (r : Report) : Overview :=
  { files := (r.files.filter fun f => !f.findings.isEmpty).map fun f =>
      (f.path, f.findings.map Finding.record)
    counters := r.counters }

namespace CommandLine

open Text

/-! ### The two forms of a report -/

/-- The line of a record: the id of the idiom, the confidence and the line on which it starts. -/
def recordLine (r : Record) : String :=
  "  " ++ padRight 22 r.idiomId ++ " " ++ Decimal.fixed 2 r.confidence ++ "  line "
    ++ toString r.startLine.toNat

/-- The lines of an overview: every file with a line for each of its records, then the counters. -/
def overviewLines (o : Overview) : List String :=
  (o.files.flatMap fun f => f.1 :: f.2.map recordLine) ++ counterLines o.counters

theorem reportLines_eq (r : Report) :
    reportLines r = overviewLines r.overview ++ mostCommonLines r := by
  have hfile : fileLines = fun f => f.path :: (f.findings.map Finding.record).map recordLine := by
    funext f
    unfold fileLines
    rw [List.map_map]
    rfl
  unfold reportLines overviewLines Report.overview Report.hits
  rw [List.flatMap_map, hfile]

/-- The document of a report is that of its overview, with two members more. -/
theorem exists_reportValue_eq (r : Report) : ∃ counts errors, reportValue r = .object [
    ("stats", Counters.codec.write r.counters), ("patternCounts", counts),
    ("files", (Codec.list Overview.fileCodec).write r.overview.files), ("errors", errors)] := by
  have hfiles : (Codec.list Overview.fileCodec).write r.overview.files
      = .array (r.hits.map fun f => .object [("path", .string f.path),
          ("matches", .array (f.findings.map fun x => Record.codec.write x.record))]) := by
    show Value.array ((r.hits.map _).map _) = _
    rw [List.map_map]
    refine congrArg Value.array (List.map_congr_left fun f _ => ?_)
    show Value.object [_, ("matches", .array (List.map _ _))] = .object [_, ("matches", .array _)]
    rw [List.map_map]
    rfl
  exact ⟨_, _, by rw [hfiles]; rfl⟩

theorem read_reportValue (r : Report) :
    Overview.codec.read (reportValue r).tree = .ok r.overview := by
  obtain ⟨counts, errors, hvalue⟩ := exists_reportValue_eq r
  have hrearranged : Overview.codec.Rearranged (Overview.codec.write r.overview)
      (reportValue r) := by
    rw [hvalue]
    refine .trans (.unknown counts (k := "patternCounts") (by decide)) ?_
    refine .trans (.unknown errors (k := "errors") (by decide)) (.members ?_)
    exact (List.perm_append_comm : ([_] ++ [_, _, _]).Perm _).trans (.swap ..)
  exact Codec.read_of_rearranged hrearranged r.overview.faithful_codec

theorem files_reportValue (r : Report) :
    (reportValue r).member? "files"
      = some ((Codec.list Overview.fileCodec).write r.overview.files) := by
  obtain ⟨_, _, hvalue⟩ := exists_reportValue_eq r
  rw [hvalue]
  rfl

/-! ### Scanned paths -/

theorem length_le_of_mem_intercalate {s : String} {l : List String} {x : String} (h : x ∈ l) :
    x.length ≤ (s.intercalate l).length := by
  rw [← String.length_toList, ← String.length_toList, String.toList_intercalate]
  have hx : x.toList ∈ l.map String.toList := List.mem_map_of_mem h
  generalize l.map String.toList = parts at hx
  induction parts with
  | nil => cases hx
  | cons part parts ih =>
    cases parts with
    | nil => rw [List.mem_singleton.1 hx, List.intercalate_singleton]
    | cons part' parts =>
      rw [List.intercalate_cons_cons, List.length_append, List.length_append]
      rcases List.mem_cons.1 hx with rfl | hx
      · omega
      · exact Nat.le_add_left_of_le (ih hx)

/-- The name of a file with an extension has more than one character. -/
theorem one_lt_length_of_extension? {name e : String} (h : extension? name = some e) :
    1 < name.length := by
  obtain ⟨stem, hstem, rfl, -⟩ := extension?_eq_some_iff.1 h
  have hpos : stem.length ≠ 0 := String.length_eq_zero_iff.not.2 hstem
  rw [String.length_append, String.length_append, show ".".length = 1 from rfl]
  omega

theorem ne_hyphen_of_takes {s : Selection} {names : List String} (h : s.takes names = true)
    (root : String) : Path.join root names ≠ "-" := by
  obtain ⟨hextension, _⟩ := Bool.and_eq_true_iff.1 h
  obtain ⟨e, he, _⟩ := (Option.any_eq_true _ _).1 hextension
  obtain ⟨name, hname, he⟩ := Option.bind_eq_some_iff.1 he
  have hlong := one_lt_length_of_extension? he
  have hjoin : ∃ way, Path.join root names = way ++ "/".intercalate names := by
    unfold Path.join
    cases names with
    | nil => cases hname
    | cons _ _ => exact ⟨_, rfl⟩
  obtain ⟨way, hjoin⟩ := hjoin
  have hlast := length_le_of_mem_intercalate (s := "/") (List.mem_of_getLast? hname)
  intro heq
  have hlength := congrArg String.length (hjoin.symm.trans heq)
  rw [String.length_append] at hlength
  have hone : "-".length = 1 := rfl
  omega

/-- The paths of a scan lead to files that are taken, by names in ascending order. -/
theorem exists_names_of_paths {s : Selection} {root : String} {es : List Entry}
    {paths : List String} (h : s.paths root es = .ok paths) :
    ∃ names : List (List String), paths = names.map (Path.join root) ∧
      names.Pairwise (fun a b => ¬ b < a) ∧ ∀ ns ∈ names, s.takes ns = true := by
  cases hfound : es.find? Entry.isDisruptive with
  | some e =>
    rw [Selection.paths_eq, hfound] at h
    cases h
  | none =>
    rw [Selection.paths_of_find? hfound] at h
    refine ⟨s.listing es, (Except.ok.inj h).symm, ?_, fun ns hns => ?_⟩
    · exact (Selection.pairwise_le_listing s es).imp not_lt_of_ge
    · obtain ⟨e, -, -, -, hwants⟩ := Selection.mem_listing.1 hns
      exact Selection.takes_iff.2 hwants

/-! ### Runs -/

theorem Invocation.outcome_eq {i : Invocation} {env : Surroundings} {g : Engine} {t : Transcript}
    (hengine : i.engine env = .ok g) (hrun : (i.command.run env g).run.run {} = (.ok (), t)) :
    i.outcome env = { code := Outcome.succeeded, transcript := t } := by
  have hresult : (i.run env).result = (.ok (), t) := by
    rw [i.run_eq]
    exact (Session.run_ofExcept_bind hengine id _ _).trans hrun
  unfold outcome
  rw [hresult]

section
variable {env : Surroundings} {g : Engine}

theorem drawFindingValue_of_not_explain {d : DetectOptions} (h : d.explain = false) (g : Engine)
    (s : Stream) : drawFindingValue g d s = fun f => pure (Record.codec.write f.record) := by
  funext f
  unfold drawFindingValue
  rw [h]
  rfl

/-- Without explanations, the document of findings is that of their records. -/
theorem findingsValue_of_not_explain {d : DetectOptions} (h : d.explain = false) (g : Engine)
    (s : Stream) (fs : List Finding) :
    findingsValue g d s fs = Overview.recordsCodec.write (fs.map Finding.record) := by
  unfold findingsValue
  rw [drawFindingValue_of_not_explain h, List.mapM_pure]
  show Value.array (fs.map _) = .array ((fs.map _).map _)
  rw [List.map_map]
  rfl

theorem readSource_of_ne {path source : String} (h : path ≠ "-")
    (hsource : env.text path = .ok source) : readSource env (some path) = .ok source := by
  unfold readSource
  split
  · next heq => cases heq
  · next heq => exact absurd (Option.some.inj heq) h
  · next heq =>
    obtain rfl := Option.some.inj heq
    rw [hsource]
    rfl

theorem run_runDetect {d : DetectOptions} {path source : String} (hinput : d.input = some path)
    (hjson : d.json = true) (hexplain : d.explain = false) (hpath : path ≠ "-")
    (hsource : env.text path = .ok source) :
    (runDetect env g d).run.run {} = (.ok (), { output :=
      (Overview.recordsCodec.write ((g.detector.detect source).map Finding.record)).pretty
        ++ "\n" }) := by
  unfold runDetect
  rw [Session.run_ofExcept_bind (hinput ▸ readSource_of_ne hpath hsource)]
  dsimp only
  rw [if_pos hjson, findingsValue_of_not_explain hexplain]
  show (Except.ok (), ({ output := "" ++ _ } : Transcript)) = (.ok (), { output := _ })
  rw [String.empty_append]

end

/-! ### Engines that find the same -/

/-- Engines with the same options of detection have the same detector, since all else is built in. -/
theorem Engine.detector_eq {g g' : Engine} (h : g.IsLoaded g.settings)
    (h' : g'.IsLoaded g'.settings) (hdetect : g'.settings.detect = g.settings.detect) :
    g'.detector = g.detector := by
  have hglyphs : g'.glyphs = g.glyphs :=
    Except.ok.inj (h'.glyphs_eq.symm.trans h.glyphs_eq)
  have hcatalog : g'.catalog = g.catalog :=
    Except.ok.inj (h'.catalog_eq.symm.trans (hglyphs ▸ h.catalog_eq))
  unfold Engine.detector
  rw [hcatalog, hdetect]

namespace Invocation

/-- If a scan has an engine, so has `detect` with the same settings and threshold, and it finds the
same. -/
theorem exists_engine_detect {env : Surroundings} {settings : Option String} {o : ScanOptions}
    {d : DetectOptions} {g : Engine}
    (hengine : (⟨settings, .scan o⟩ : Invocation).engine env = .ok g)
    (hthreshold : d.minConfidence = o.minConfidence)
    (htarget : ∀ t ∈ d.narrative.target, isBlankText t = false) :
    ∃ g', (⟨settings, .detect d⟩ : Invocation).engine env = .ok g' ∧
      g'.detector = g.detector := by
  obtain ⟨loaded, document, base, runs⟩ := engine_eq_ok.1 hengine
  obtain ⟨s, overlays⟩ : ∃ s, (Command.detect d).flags.Overlays base s := ⟨_, overlays_overlay _ _⟩
  have hconfidence : s.detect.minConfidence = g.settings.detect.minConfidence := by
    rw [overlays.minConfidence, runs.overlays.minConfidence]
    exact congrArg (Option.getD · _) hthreshold
  have hdetect : s.detect = g.settings.detect := by
    have hsize := overlays.ruleSizeLimit.trans runs.overlays.ruleSizeLimit.symm
    have hcache := overlays.ruleCacheLimit.trans runs.overlays.ruleCacheLimit.symm
    cases hs : s.detect
    cases hg : g.settings.detect
    rw [hs, hg] at hconfidence hsize hcache
    cases hconfidence
    cases hsize
    cases hcache
    rfl
  have valid : s.Valid := {
    zero_le_minConfidence := hconfidence ▸ runs.valid.zero_le_minConfidence
    minConfidence_le_one := hconfidence ▸ runs.valid.minConfidence_le_one
    ruleSizeLimit_pos := overlays.ruleSizeLimit ▸ runs.base_valid.ruleSizeLimit_pos
    targetLanguage_visible := by
      rw [overlays.targetLanguage]
      show isBlankText (d.narrative.target.getD _) = false
      cases ht : d.narrative.target with
      | none => exact runs.base_valid.targetLanguage_visible
      | some t => exact htarget t ht
    maxFileBytes_pos := overlays.maxFileBytes ▸ runs.base_valid.maxFileBytes_pos
    maxJobs_pos := overlays.maxJobs ▸ runs.base_valid.maxJobs_pos
    extensions_ne_nil := overlays.extensions ▸ runs.base_valid.extensions_ne_nil }
  obtain ⟨g', -, loaded'⟩ := Engine.exists_load s
  obtain rfl := loaded'.settings_eq
  have runs' : (⟨settings, .detect d⟩ : Invocation).RunsWith env document base g'.settings :=
    ⟨runs.file, runs.base_valid, overlays, valid⟩
  exact ⟨g', engine_eq_ok.2 ⟨loaded', document, base, runs'⟩, Engine.detector_eq loaded loaded' hdetect⟩

/-- A scan that succeeds has an engine and a report, and prints the report in both forms. -/
theorem exists_outcome_scan {env : Surroundings} {settings : Option String} {o : ScanOptions}
    (h : ((⟨settings, .scan o⟩ : Invocation).outcome env).code = Outcome.succeeded) :
    ∃ g r, (⟨settings, .scan o⟩ : Invocation).engine env = .ok g ∧
      g.detector.scan env.toStorage g.settings.scan (o.directory.getD ".") = .ok r ∧
      ∀ json, ((⟨settings, .scan { o with json }⟩ : Invocation).outcome env).transcript.output
          = (transcriptOf json r).output ∧
        (env.Takes (transcriptOf json r).notes →
          (⟨settings, .scan { o with json }⟩ : Invocation).outcome env
            = { code := Outcome.succeeded, transcript := transcriptOf json r }) := by
  obtain ⟨r, ⟨-, g, hengine, hjobs, hscan⟩, -⟩ := (code_scan_iff rfl).1 h
  refine ⟨g, r, hengine, hscan, fun json => ?_⟩
  -- the form of the report makes no difference for the engine
  have hreports : (⟨settings, .scan { o with json }⟩ : Invocation).Reports env { o with json } r :=
    ⟨rfl, g, hengine, hjobs, hscan⟩
  obtain ⟨-, houtcome⟩ | ⟨taken, f, hrefuses, houtcome⟩ := hreports.outcome_eq
  · exact ⟨by rw [houtcome], fun _ => houtcome⟩
  · exact ⟨by rw [houtcome], fun htakes => absurd htakes hrefuses.not_takes⟩

/-- For a file of a report, `detect` prints the records of its findings. -/
theorem outcome_detect {env : Surroundings} {settings : Option String} {o : ScanOptions}
    {d : DetectOptions} {g : Engine} {limit : UInt64} {paths : List String} {path : String}
    {fs : List Finding} (hengine : (⟨settings, .scan o⟩ : Invocation).engine env = .ok g)
    (hfile : ⟨path, fs⟩ ∈
      (Report.ofOutcomes (g.detector.analyseAll env.toFileAccess limit paths)).files)
    (hpath : ∀ path ∈ paths, path ≠ "-") (hinput : d.input = some path) (hjson : d.json = true)
    (hexplain : d.explain = false) (hthreshold : d.minConfidence = o.minConfidence)
    (htarget : ∀ t ∈ d.narrative.target, isBlankText t = false) :
    (⟨settings, .detect d⟩ : Invocation).outcome env
      = { code := Outcome.succeeded, transcript :=
          { output := (Overview.recordsCodec.write (fs.map Finding.record)).pretty ++ "\n" } } := by
  obtain ⟨hmem, hanalyse⟩ := (Report.mem_files ..).1 hfile
  obtain ⟨source, ⟨-, -, hsource⟩, rfl⟩ := Detector.analyse_eq_ok.1 hanalyse
  obtain ⟨g', hengine', hdetector⟩ := exists_engine_detect hengine hthreshold htarget
  have hrun := run_runDetect (g := g') hinput hjson hexplain (hpath path hmem) hsource
  rw [hdetector] at hrun
  exact outcome_eq hengine' hrun

end Invocation

/-- **Outputs agree.**  The document of a report is read as the overview of the report, and its text is
rendered from that.  A scan that succeeds prints its report in either form, and that succeeds too if
standard error takes the notes on it; the paths of the overview come in ascending order; and for
every file of it, `detect` succeeds with the same settings and threshold, and prints the document
that stands for the records of the file in that of the report. -/
theorem outputs_agree (env : Surroundings) :
    (∀ r, Overview.codec.read (reportValue r).tree = .ok r.overview ∧
      (reportValue r).member? "files"
        = some ((Codec.list Overview.fileCodec).write r.overview.files) ∧
      reportLines r = overviewLines r.overview ++ mostCommonLines r) ∧
    ∀ settings o, ((⟨settings, .scan o⟩ : Invocation).outcome env).code = Outcome.succeeded →
      ∃ g r, (⟨settings, .scan o⟩ : Invocation).engine env = .ok g ∧
        g.detector.scan env.toStorage g.settings.scan (o.directory.getD ".") = .ok r ∧
        (∀ json, ((⟨settings, .scan { o with json }⟩ : Invocation).outcome env).transcript.output
            = (transcriptOf json r).output ∧
          (env.Takes (transcriptOf json r).notes →
            (⟨settings, .scan { o with json }⟩ : Invocation).outcome env
              = { code := Outcome.succeeded, transcript := transcriptOf json r })) ∧
        (∃ names : List (List String), names.Pairwise (fun a b => ¬ b < a) ∧
          (r.overview.files.map (·.1)).Sublist (names.map (Path.join (o.directory.getD ".")))) ∧
        ∀ path records, (path, records) ∈ r.overview.files → ∀ d : DetectOptions,
          d.input = some path → d.json = true → d.explain = false →
          d.minConfidence = o.minConfidence →
          (∀ t ∈ d.narrative.target, isBlankText t = false) →
          (⟨settings, .detect d⟩ : Invocation).outcome env
            = { code := Outcome.succeeded, transcript :=
                { output := (Overview.recordsCodec.write records).pretty ++ "\n" } } := by
  refine ⟨fun r => ⟨read_reportValue r, files_reportValue r, reportLines_eq r⟩, fun settings o h => ?_⟩
  obtain ⟨g, r, hengine, hscan, hprints⟩ := Invocation.exists_outcome_scan h
  obtain ⟨paths, hselect, rfl⟩ := Detector.scan_eq_ok.1 hscan
  obtain ⟨es, -, hpaths⟩ := select_eq_ok.1 hselect
  obtain ⟨names, rfl, hordered, htaken⟩ := exists_names_of_paths hpaths
  refine ⟨g, _, hengine, hscan, hprints, ⟨names, hordered, ?_⟩, ?_⟩
  · unfold Report.overview
    rw [List.map_map]
    refine (List.filter_sublist.map FileReport.path).trans ?_
    rw [Report.map_path_files]
    exact List.filter_sublist
  · intro path records hmem d hinput hjson hexplain hthreshold htarget
    obtain ⟨f, hf, hentry⟩ := List.mem_map.1 hmem
    obtain ⟨rfl, rfl⟩ := Prod.mk.inj hentry
    have hnames : ∀ path ∈ names.map (Path.join (o.directory.getD ".")), path ≠ "-" := by
      intro path hpath
      obtain ⟨ns, hns, rfl⟩ := List.mem_map.1 hpath
      exact ne_hyphen_of_takes (htaken ns hns) _
    exact Invocation.outcome_detect hengine (List.mem_filter.1 hf).1 hnames hinput hjson hexplain
      hthreshold htarget

/-- Surroundings with a file that chains a promise, and another that is no text. -/
def chainedSurroundings : Surroundings :=
  { size := fun _ => .ok 20
    text := fun path => if path = "root/a.js" then .ok "p.then(f)" else .error .notText
    walk := fun _ _ => .ok [⟨[], .directory⟩, ⟨[FileName.ofString "b.js"], .file⟩,
      ⟨[FileName.ofString "a.js"], .file⟩]
    input := .ok "" }

/-- A promise that is chained is found with the default options of detection. -/
theorem detect_chained_ne_nil {g : Engine} (h : g.IsLoaded g.settings)
    (hdetect : g.settings.detect = {}) : g.detector.detect "p.then(f)" ≠ [] := by
  let p := Builtin.promiseThen.withGlyphs g.glyphs
  have hp : p ∈ g.catalog.idioms := by
    rw [(Catalog.ofIdioms_eq_ok.1 h.catalog_eq).2]
    refine List.mem_map_of_mem ?_
    simp only [Builtin.idioms, List.mem_cons, true_or, or_true]
  have hfind : ((RuleEngine.standard.build "\\.then\\(" ({} : DetectSettings).limits).toOption.bind
      fun program => RuleEngine.standard.find program "p.then(f)") = some (1, 7) := by
    decide +kernel
  have htrusted : ¬ (0.85 : Float) < 0.0 := by decide
  have hfires : Fires .standard {} "p.then(f)" p 1 7 := Detector.fires_of_find hfind htrusted
  obtain ⟨f, hf, -⟩ := Detector.exists_mem_detect_of_fires hp hfires
  unfold Engine.detector
  rw [hdetect]
  exact List.ne_nil_of_mem hf

theorem outputs_agree_chained :
    ((⟨none, .scan { directory := some "root" }⟩ : Invocation).outcome chainedSurroundings).code
        = Outcome.succeeded ∧
      ∃ records, records ≠ [] ∧
        (⟨none, .detect { input := some "root/a.js", json := true }⟩ : Invocation).outcome
            chainedSurroundings
          = { code := Outcome.succeeded, transcript :=
              { output := (Overview.recordsCodec.write records).pretty ++ "\n" } } := by
  let i : Invocation := ⟨none, .scan { directory := some "root" }⟩
  have hruns {document : Option Tree} {base s : Settings}
      (h : i.RunsWith chainedSurroundings document base s) : s = {} := by
    obtain ⟨hfile, -, hoverlays, -⟩ := h
    cases hfile
    exact hoverlays.unique (overlays_self {})
  have hpaths : chainedSurroundings.select "root" (Selection.ofSettings {}) false
      = .ok ["root/a.js", "root/b.js"] := by cbv
  have hcode : (i.outcome chainedSurroundings).code = Outcome.succeeded := by
    have hruns : i.RunsWith chainedSurroundings none {} {} :=
      ⟨.none, Settings.valid_default, overlays_self {}, Settings.valid_default⟩
    obtain ⟨_, -, hreports⟩ := hruns.exists_reports (o := { directory := some "root" }) rfl rfl hpaths
    exact (Invocation.code_scan_iff rfl).2 ⟨_, hreports, fun _ _ _ _ => rfl⟩
  obtain ⟨g, r, hengine, hscan, -, -, hdetects⟩ :=
    (outputs_agree chainedSurroundings).2 none { directory := some "root" } hcode
  obtain ⟨loaded, document, base, runs⟩ := Invocation.engine_eq_ok.1 hengine
  have hsettings : g.settings = {} := hruns runs
  have hfile : ⟨"root/a.js", g.detector.detect "p.then(f)"⟩ ∈ r.files := by
    obtain ⟨paths, hselect, rfl⟩ := Detector.scan_eq_ok.1 hscan
    rw [hsettings] at hselect
    obtain rfl := Except.ok.inj (hselect.symm.trans hpaths)
    rw [Report.mem_files, Detector.analyse_eq_ok]
    have hfits : (20 : UInt64) ≤ g.settings.scan.maxFileBytes := by
      rw [hsettings]
      decide
    exact ⟨List.mem_cons_self, "p.then(f)", ⟨rfl, hfits, rfl⟩, rfl⟩
  have hfindings := detect_chained_ne_nil loaded (congrArg Settings.detect hsettings)
  have hshown : ("root/a.js", (g.detector.detect "p.then(f)").map Finding.record)
      ∈ r.overview.files := by
    refine List.mem_map_of_mem (f := fun f : FileReport => (f.path, f.findings.map Finding.record))
      (List.mem_filter.2 ⟨hfile, ?_⟩)
    simpa using hfindings
  have hprinted := hdetects _ _ hshown { input := some "root/a.js", json := true } rfl rfl rfl rfl
    fun t ht => absurd ht (Option.not_mem_none t)
  exact ⟨hcode, _, fun hnil => hfindings (List.map_eq_nil_iff.1 hnil), hprinted⟩

end CommandLine

end CodeIdioms
