import CodeIdioms.Proofs.CommandLine.Overlay
import CodeIdioms.Proofs.CommandLine.Session
import CodeIdioms.Proofs.Scan.Accounting

/-! # Failing before writing

Every command takes the results that it needs before it writes anything, and so does the loading of
settings before it.  What is left of a run after that cannot fail, but for one thing: a scan that
prints its report as text writes notes after it, and standard error may refuse one.  So a run fails
silently, or it is a scan that has come to a report (`failsSilently_or_reports`), and what becomes of
that is told by the notes on the report (`Reports.outcome_eq`).

Which scans come to a report is told by the results that they take, and these tell nothing of the
contents of the files (`exists_reports_iff`). -/

namespace CodeIdioms.CommandLine

/-- The paths of a scan are those of the walk through its root. -/
theorem select_eq_ok {s : Storage} {root : String} {selection : Selection} {followLinks : Bool}
    {paths : List String} : s.select root selection followLinks = .ok paths ↔
      ∃ es, s.walk root followLinks = .ok es ∧ selection.paths root es = .ok paths := by
  unfold Storage.select
  cases s.walk root followLinks with
  | error _ => exact ⟨fun h => (nomatch h), fun ⟨_, h, _⟩ => (nomatch h)⟩
  | ok es => exact ⟨fun h => ⟨es, rfl, h⟩, fun ⟨_, h, h'⟩ => by cases h; exact h'⟩

/-! ### Commands -/

section
variable (env : Surroundings) (g : Engine)

open Session

theorem failsSilently_runDetect (o : DetectOptions) : (runDetect env g o).FailsSilently := by
  refine failsSilently_ofExcept_bind fun source _ => failsSilently_of_succeeds fun t => ?_
  split <;> exact succeeds_write _ t

theorem failsSilently_runExplain (id : String) (o : NarrativeOptions) :
    (runExplain env g id o).FailsSilently := by
  unfold runExplain
  cases g.catalog.get? id with
  | none => exact fun _ _ _ => rfl
  | some p => exact failsSilently_of_succeeds fun t => succeeds_write _ t

theorem failsSilently_runStats (o : StatsOptions) : (runStats g o).FailsSilently := by
  refine failsSilently_of_succeeds fun t => ?_
  unfold runStats
  cases o.json
  · exact succeeds_writeLines _ t
  · exact succeeds_write _ t

/-- What a scan writes of its report. -/
def transcriptOf (json : Bool) (r : Report) : Transcript :=
  if json then { output := (reportValue r).pretty ++ "\n" }
  else { output := String.join ((reportLines r).map (· ++ "\n")), notes := errorLines r }

/-- A report is printed with all of its notes, or with those before the first that is refused. -/
theorem run_printReport (json : Bool) (r : Report) :
    (env.Takes (transcriptOf json r).notes ∧
        (printReport env json r).run.run {} = (.ok (), transcriptOf json r)) ∨
      ∃ taken f, env.Refuses (transcriptOf json r).notes taken f ∧
        (printReport env json r).run.run {}
          = (.error { message := f.message }, { transcriptOf json r with notes := taken }) := by
  cases json with
  | true =>
    refine .inl ⟨takes_nil, ?_⟩
    show (Except.ok (), ({ output := "" ++ _ } : Transcript)) = (.ok (), { output := _ })
    rw [String.empty_append]
  | false =>
    have hprinted : (printReport env false r).run.run {} = ((errorLines r).forM (note env)).run.run
        { output := String.join ((reportLines r).map (· ++ "\n")) } := by
      show ((errorLines r).forM (note env)).run.run { output := "" ++ _ } = _
      rw [String.empty_append]
    rw [hprinted]
    exact run_notes env (errorLines r) rfl

end

/-! ### Scans that come to a report -/

namespace Invocation

/-- An invocation scans with some options, and comes to a report. -/
structure Reports (i : Invocation) (env : Surroundings) (o : ScanOptions) (r : Report) : Prop where
  command_eq : i.command = .scan o
  scans : ∃ g, i.engine env = .ok g ∧ startJobs env g.settings.scan = .ok () ∧
    g.detector.scan env.toStorage g.settings.scan (o.directory.getD ".") = .ok r

variable {i : Invocation} {env : Surroundings} {o : ScanOptions} {r r' : Report}

theorem Reports.unique (h : i.Reports env o r) (h' : i.Reports env o r') : r = r' := by
  obtain ⟨g, hengine, -, hscan⟩ := h.scans
  obtain ⟨g', hengine', -, hscan'⟩ := h'.scans
  obtain rfl := Except.ok.inj (hengine.symm.trans hengine')
  exact Except.ok.inj (hscan.symm.trans hscan')

/-- A scan that selects files comes to the report on them. -/
theorem RunsWith.exists_reports {document : Option Document.Tree} {base s : Settings}
    {paths : List String} (runs : i.RunsWith env document base s) (hcommand : i.command = .scan o)
    (hjobs : startJobs env s.scan = .ok ())
    (hselect : env.select (o.directory.getD ".") (Selection.ofSettings s.scan) s.scan.followLinks
      = .ok paths) :
    ∃ g : Engine, g.IsLoaded s ∧ i.Reports env o
      (Report.ofOutcomes (g.detector.analyseAll env.toFileAccess s.scan.maxFileBytes paths)) := by
  obtain ⟨g, -, loaded⟩ := Engine.exists_load s
  obtain rfl := loaded.settings_eq
  have hengine : i.engine env = .ok g := engine_eq_ok.2 ⟨loaded, document, base, runs⟩
  exact ⟨g, loaded, hcommand, g, hengine, hjobs, Detector.scan_eq_ok.2 ⟨paths, hselect, rfl⟩⟩

/-- A scan comes to a report if and only if its settings are valid, the jobs can be started, and the
walk through the root gives paths. -/
theorem exists_reports_iff (h : i.command = .scan o) : (∃ r, i.Reports env o r) ↔
    ∃ document base s, i.RunsWith env document base s ∧ startJobs env s.scan = .ok () ∧
      ∃ es paths, env.walk (o.directory.getD ".") s.scan.followLinks = .ok es ∧
        (Selection.ofSettings s.scan).paths (o.directory.getD ".") es = .ok paths := by
  constructor
  · rintro ⟨r, -, g, hengine, hjobs, hscan⟩
    obtain ⟨-, document, base, runs⟩ := engine_eq_ok.1 hengine
    obtain ⟨paths, hselect, -⟩ := Detector.scan_eq_ok.1 hscan
    obtain ⟨es, hwalk, hpaths⟩ := select_eq_ok.1 hselect
    exact ⟨document, base, g.settings, runs, hjobs, es, paths, hwalk, hpaths⟩
  · rintro ⟨document, base, s, runs, hjobs, es, paths, hwalk, hpaths⟩
    obtain ⟨_, -, hreports⟩ := runs.exists_reports h hjobs (select_eq_ok.2 ⟨es, hwalk, hpaths⟩)
    exact ⟨_, hreports⟩

/-- A scan with a report does nothing but print it. -/
theorem Reports.run_eq (h : i.Reports env o r) (t : Transcript) :
    (i.run env).run.run t = (printReport env o.json r).run.run t := by
  obtain ⟨g, hengine, hjobs, hscan⟩ := h.scans
  rw [Invocation.run_eq, Session.run_ofExcept_bind hengine, h.command_eq]
  show (Session.ofExcept _ _ >>= _).run.run t = _
  rw [Session.run_ofExcept_bind hjobs]
  show (Session.ofExcept _ _ >>= _).run.run t = _
  rw [Session.run_ofExcept_bind hscan]

theorem failsSilently_or_reports (i : Invocation) (env : Surroundings) :
    (i.run env).FailsSilently ∨ ∃ o r, i.Reports env o r := by
  by_cases h : ∃ o r, i.Reports env o r
  · exact .inr h
  · refine .inl ?_
    rw [i.run_eq]
    refine Session.failsSilently_ofExcept_bind fun g hengine => ?_
    cases hcommand : i.command with
    | detect o => exact failsSilently_runDetect env g o
    | scan o =>
      refine Session.failsSilently_ofExcept_bind fun _ hjobs => ?_
      refine Session.failsSilently_ofExcept_bind fun r hscan => ?_
      exact absurd ⟨o, r, hcommand, g, hengine, hjobs, hscan⟩ h
    | explain id o => exact failsSilently_runExplain env g id o
    | list o =>
      exact Session.failsSilently_of_succeeds fun t => Session.succeeds_writeLines _ t
    | stats o => exact failsSilently_runStats g o
    | legend => exact Session.failsSilently_of_succeeds fun t => Session.succeeds_write _ t

/-! ### Outcomes -/

theorem code_outcome_iff : (i.outcome env).code = Outcome.succeeded ↔ (i.run env).Succeeds {} := by
  unfold outcome Session.result Session.Succeeds
  rcases (i.run env).run.run {} with ⟨f | _, t⟩
  · exact ⟨fun h => (nomatch h), fun ⟨_, h⟩ => (nomatch h)⟩
  · exact ⟨fun _ => ⟨(), rfl⟩, fun _ => rfl⟩

/-- A scan with a report succeeds when all notes on the report are taken, and fails with the fault
of the first that is refused. -/
theorem Reports.outcome_eq (h : i.Reports env o r) :
    (env.Takes (transcriptOf o.json r).notes ∧
        i.outcome env = { code := Outcome.succeeded, transcript := transcriptOf o.json r }) ∨
      ∃ taken f, env.Refuses (transcriptOf o.json r).notes taken f ∧
        i.outcome env = {
          code := Outcome.failed
          transcript := { transcriptOf o.json r with notes := taken }
          chain := [f.message] } := by
  unfold outcome Session.result
  rw [h.run_eq]
  obtain ⟨htakes, hrun⟩ | ⟨taken, f, hrefuses, hrun⟩ := run_printReport env o.json r
  · rw [hrun]
    exact .inl ⟨htakes, rfl⟩
  · rw [hrun]
    exact .inr ⟨taken, f, hrefuses, rfl⟩

theorem code_scan_iff (h : i.command = .scan o) : (i.outcome env).code = Outcome.succeeded ↔
    ∃ r, i.Reports env o r ∧ env.Takes (transcriptOf o.json r).notes := by
  constructor
  · intro hcode
    have hsucceeds := code_outcome_iff.1 hcode
    rw [run_eq, h] at hsucceeds
    obtain ⟨g, hengine, hruns⟩ := Session.succeeds_ofExcept_bind.1 hsucceeds
    obtain ⟨_, hjobs, hscans⟩ := Session.succeeds_ofExcept_bind.1 hruns
    obtain ⟨r, hscan, -⟩ := Session.succeeds_ofExcept_bind.1 hscans
    have hreports : i.Reports env o r := ⟨h, g, hengine, hjobs, hscan⟩
    obtain ⟨htakes, -⟩ | ⟨_, _, -, houtcome⟩ := hreports.outcome_eq
    · exact ⟨r, hreports, htakes⟩
    · rw [houtcome] at hcode
      cases hcode
  · rintro ⟨r, hreports, htakes⟩
    obtain ⟨-, houtcome⟩ | ⟨_, _, hrefuses, -⟩ := hreports.outcome_eq
    · rw [houtcome]
    · exact absurd htakes hrefuses.not_takes

/-- A run that fails has written nothing, unless it is a scan that fails on a note. -/
theorem transcript_outcome_of_failed (h : (i.outcome env).code ≠ Outcome.succeeded) :
    (i.outcome env).transcript = {} ∨ ∃ o r taken f, i.Reports env o r ∧ o.json = false ∧
      env.Refuses (errorLines r) taken f ∧ i.outcome env = {
        code := Outcome.failed
        transcript := { transcriptOf false r with notes := taken }
        chain := [f.message] } := by
  obtain hsilent | ⟨o, r, hreports⟩ := i.failsSilently_or_reports env
  · left
    have hnothing := hsilent {}
    unfold outcome Session.result at h ⊢
    rcases hrun : (i.run env).run.run {} with ⟨f | _, t⟩
    · rw [hrun] at hnothing
      exact hnothing f rfl
    · rw [hrun] at h
      exact absurd rfl h
  · right
    obtain ⟨-, houtcome⟩ | ⟨taken, f, hrefuses, houtcome⟩ := hreports.outcome_eq
    · rw [houtcome] at h
      exact absurd rfl h
    · cases hjson : o.json with
      | true =>
        rw [hjson] at hrefuses
        exact absurd takes_nil hrefuses.not_takes
      | false =>
        rw [hjson] at hrefuses houtcome
        exact ⟨o, r, taken, f, hreports, hjson, hrefuses, houtcome⟩

end Invocation

/-- **Failing runs print nothing**, but for scans that cannot tell which files failed.  If a request
fails, standard output is empty, or a scan has printed its whole report as text and standard error
has refused one of the notes on it.  A scan succeeds if and only if its settings are valid, the jobs
can be started, the root is a directory and the walk through it gives paths, whatever becomes of the
files at these paths, and standard error takes the notes on the report if it is printed as text. -/
theorem output_of_failed_and_scan_succeeded_iff (env : Surroundings) (request : Request) :
    ((request.outcome env).code ≠ Outcome.succeeded →
      (request.outcome env).transcript.output = "" ∨
        ∃ i o r taken f, request = .run i ∧ i.Reports env o r ∧ o.json = false ∧
          env.Refuses (errorLines r) taken f ∧ request.outcome env = {
            code := Outcome.failed
            transcript := { transcriptOf false r with notes := taken }
            chain := [f.message] }) ∧
      ∀ i o, request = .run i → i.command = .scan o →
        ((request.outcome env).code = Outcome.succeeded ↔
          (∃ document base s, i.RunsWith env document base s ∧ startJobs env s.scan = .ok () ∧
            ∃ es paths, env.walk (o.directory.getD ".") s.scan.followLinks = .ok es ∧
              (Selection.ofSettings s.scan).paths (o.directory.getD ".") es = .ok paths) ∧
          (o.json = false → ∀ r, i.Reports env o r → env.Takes (errorLines r))) := by
  constructor
  · intro hfailed
    cases request with
    | run i =>
      obtain hnothing | ⟨o, r, taken, f, hcut⟩ := i.transcript_outcome_of_failed hfailed
      · exact .inl (congrArg Transcript.output hnothing)
      · exact .inr ⟨i, o, r, taken, f, rfl, hcut⟩
    | version program => exact absurd rfl hfailed
    | help => exact absurd rfl hfailed
    | refused => exact .inl rfl
  · rintro i o rfl hscan
    rw [← Invocation.exists_reports_iff hscan]
    refine (Invocation.code_scan_iff hscan).trans ?_
    constructor
    · rintro ⟨r, hreports, htakes⟩
      refine ⟨⟨r, hreports⟩, fun hjson r' hreports' => ?_⟩
      rw [hjson] at htakes
      obtain rfl := hreports.unique hreports'
      exact htakes
    · rintro ⟨⟨r, hreports⟩, htakes⟩
      refine ⟨r, hreports, ?_⟩
      cases hjson : o.json with
      | true => exact takes_nil
      | false => exact htakes hjson r hreports

/-- No report is printed as nothing. -/
theorem output_transcriptOf_ne_empty (json : Bool) (r : Report) :
    (transcriptOf json r).output ≠ "" := by
  have hline {text : String} : text ++ "\n" ≠ "" := fun h =>
    absurd (String.append_eq_empty_iff.1 h).2 (by decide)
  cases json with
  | true => exact hline
  | false =>
    have hlines : reportLines r ≠ [] := by
      intro h
      have hcounters := (List.append_eq_nil_iff.1 (List.append_eq_nil_iff.1 h).1).2
      exact absurd hcounters (List.cons_ne_nil _ _)
    obtain ⟨line, lines, hcons⟩ := List.exists_cons_of_ne_nil hlines
    show String.join ((reportLines r).map (· ++ "\n")) ≠ ""
    rw [hcons, List.map_cons, String.join_cons]
    exact fun h => hline (String.append_eq_empty_iff.1 h).1

/-- Surroundings with a file that is no text, and no space for what is written to standard error. -/
def fullDevice : Surroundings :=
  { size := fun _ => .ok 20
    text := fun _ => .error .notText
    walk := fun _ _ => .ok [⟨[], .directory⟩, ⟨[FileName.ofString "a.js"], .file⟩]
    input := .ok ""
    takeNote := fun _ _ => .error .noSpace }

/-- A scan with nothing wrong but one file fails when it has printed its report, since it cannot note
the file. -/
theorem fails_after_output_fullDevice :
    ∃ i o, Request.ofWords ["scan", "root"] = .run i ∧ i.command = .scan o ∧
      (∃ document base s, i.RunsWith fullDevice document base s ∧
        startJobs fullDevice s.scan = .ok () ∧
        ∃ es paths, fullDevice.walk (o.directory.getD ".") s.scan.followLinks = .ok es ∧
          (Selection.ofSettings s.scan).paths (o.directory.getD ".") es = .ok paths) ∧
      (outcome fullDevice ["scan", "root"]).code ≠ Outcome.succeeded ∧
      (outcome fullDevice ["scan", "root"]).transcript.output ≠ "" := by
  let o : ScanOptions := { directory := some "root" }
  let i : Invocation := ⟨none, .scan o⟩
  have hwords : Request.ofWords ["scan", "root"] = .run i := by cbv
  have hruns : i.RunsWith fullDevice none {} {} :=
    ⟨.none, Settings.valid_default, overlays_self {}, Settings.valid_default⟩
  have hpaths : fullDevice.select "root" (Selection.ofSettings {}) false = .ok ["root/a.js"] := by
    cbv
  obtain ⟨r, hreports, herrors⟩ : ∃ r, i.Reports fullDevice o r ∧
      r.errors = [("root/a.js", .unreadable "root/a.js" .notText)] := by
    obtain ⟨_, -, hreports⟩ := hruns.exists_reports (o := o) rfl rfl hpaths
    exact ⟨_, hreports, rfl⟩
  have hrefused : ¬ fullDevice.Takes (errorLines r) := by
    intro htakes
    unfold errorLines at htakes
    rw [herrors] at htakes
    have htaken := htakes [] _ _ rfl
    cases htaken
  have hcode : Outcome.failed ≠ Outcome.succeeded := by decide
  refine ⟨i, o, hwords, rfl, (Invocation.exists_reports_iff rfl).1 ⟨r, hreports⟩, ?_⟩
  obtain ⟨htakes, -⟩ | ⟨taken, f, -, houtcome⟩ := hreports.outcome_eq
  · exact absurd htakes hrefused
  · unfold outcome Request.outcome
    rw [hwords]
    dsimp only
    rw [houtcome]
    exact ⟨hcode, output_transcriptOf_ne_empty o.json r⟩

end CodeIdioms.CommandLine
