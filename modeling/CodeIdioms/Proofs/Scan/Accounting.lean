import CodeIdioms.Scan.Report
import CodeIdioms.Catalog.Builtin
import CodeIdioms.Proofs.Filtering
import Mathlib

/-! # Accounting of scans

A scan accounts for every path that it takes: the path is either among the files, with what the
detector finds in its text, or among the errors, with a fault that says why there is no text, and
the counters are those that the two lists tell (`scan_accountsFor`).  The counters and the lists are
computed apart, so that they agree is an invariant of reports that grow by one outcome
(`tally_record`, `counters_append`); which list a path is on, and with what, is read off what
the file system answers about it (`analyse_eq_ok`, `analyse_eq_error`). -/

namespace CodeIdioms

/-! ### What is told of a file -/

/-- The file of a path is within the limit, and has a text. -/
inductive FileAccess.Reads (a : FileAccess) (limit : UInt64) (path source : String) : Prop
  | intro {size : UInt64} (found : a.size path = .ok size) (fits : size ≤ limit)
      (read : a.text path = .ok source)

/-- Why the file of a path has no text within the limit. -/
inductive FileAccess.Fails (a : FileAccess) (limit : UInt64) (path : String) : ScanFault → Prop
  | tooLarge {size : UInt64} (found : a.size path = .ok size) (exceeds : limit < size) :
      Fails a limit path (.tooLarge path size limit)
  | missing {f : FileFault} (missed : a.size path = .error f) :
      Fails a limit path (.unreadable path f)
  | unreadable {size : UInt64} {f : FileFault} (found : a.size path = .ok size) (fits : size ≤ limit)
      (refused : a.text path = .error f) : Fails a limit path (.unreadable path f)

theorem FileAccess.Fails.isRecoverable {a : FileAccess} {limit : UInt64} {path : String}
    {e : ScanFault} (h : a.Fails limit path e) : e.isRecoverable = true := by
  cases h <;> rfl

namespace Detector

variable {E : RuleEngine} {d : Detector E} {a : FileAccess} {limit : UInt64} {path : String}

theorem analyse_of_reads {source : String} (h : a.Reads limit path source) :
    d.analyse a limit path = .ok (d.detect source) := by
  obtain ⟨found, fits, read⟩ := h
  unfold analyse
  rw [found, read]
  exact if_neg (UInt64.not_lt.2 fits)

theorem analyse_of_fails {e : ScanFault} (h : a.Fails limit path e) :
    d.analyse a limit path = .error e := by
  unfold analyse
  cases h with
  | tooLarge found exceeds =>
    rw [found]
    exact if_pos exceeds
  | missing missed => rw [missed]
  | unreadable found fits refused =>
    rw [found, refused]
    exact if_neg (UInt64.not_lt.2 fits)

/-- Of every path, exactly one is told: its text, or why it has none. -/
theorem reads_or_fails (a : FileAccess) (limit : UInt64) (path : String) :
    (∃ source, a.Reads limit path source) ∨ ∃ e, a.Fails limit path e := by
  cases hsize : a.size path with
  | error f => exact .inr ⟨_, .missing hsize⟩
  | ok size =>
    by_cases exceeds : limit < size
    · exact .inr ⟨_, .tooLarge hsize exceeds⟩
    · have fits := UInt64.not_lt.1 exceeds
      cases htext : a.text path with
      | error f => exact .inr ⟨_, .unreadable hsize fits htext⟩
      | ok source => exact .inl ⟨source, .intro hsize fits htext⟩

theorem analyse_eq_ok {fs : List Finding} :
    d.analyse a limit path = .ok fs ↔ ∃ source, a.Reads limit path source ∧ fs = d.detect source := by
  constructor
  · intro h
    obtain ⟨source, hr⟩ | ⟨e, hf⟩ := reads_or_fails a limit path
    · rw [analyse_of_reads hr, Except.ok.injEq] at h
      exact ⟨source, hr, h.symm⟩
    · rw [analyse_of_fails hf] at h
      cases h
  · rintro ⟨source, hr, rfl⟩
    exact analyse_of_reads hr

theorem analyse_eq_error {e : ScanFault} :
    d.analyse a limit path = .error e ↔ a.Fails limit path e := by
  constructor
  · intro h
    obtain ⟨source, hr⟩ | ⟨e', hf⟩ := reads_or_fails a limit path
    · rw [analyse_of_reads hr] at h
      cases h
    · rw [analyse_of_fails hf, Except.error.injEq] at h
      exact h ▸ hf
  · exact analyse_of_fails

end Detector

/-! ### Counters -/

namespace ScanFault

/-- Whether a file was too large. -/
def isTooLarge : ScanFault → Bool
  | tooLarge _ _ _ => true
  | _ => false

/-- Whether a file could not be read. -/
def isUnreadable : ScanFault → Bool
  | unreadable _ _ => true
  | _ => false

theorem isUnreadable_of_isRecoverable {e : ScanFault} (h : e.isRecoverable = true) :
    e.isUnreadable = !e.isTooLarge := by
  cases e with
  | unreadable | tooLarge => rfl
  | badRoot | badPath | badWalk => cases h

end ScanFault

namespace Report

/-- The counters that the lists of a report tell, as words. -/
def tally (r : Report) : Counters :=
  { files := r.files.length.toUInt64
    filesWithFindings := r.hits.length.toUInt64
    findings := r.findings.length.toUInt64
    skipped := (r.errors.countP (·.2.isTooLarge)).toUInt64
    errors := (r.errors.countP (·.2.isUnreadable)).toUInt64 }

/-- The report with one more outcome. -/
def record (r : Report) (o : FileOutcome) : Report :=
  { files := r.files ++ (fileOf? o).toList, errors := r.errors ++ (errorOf? o).toList
    counters := r.counters.record o.event }

theorem ofOutcomes_concat (os : List FileOutcome) (o : FileOutcome) :
    ofOutcomes (os ++ [o]) = (ofOutcomes os).record o := by
  have hfile : [o].filterMap fileOf? = (fileOf? o).toList := by
    cases h : fileOf? o <;> simp [h]
  have herror : [o].filterMap errorOf? = (errorOf? o).toList := by
    cases h : errorOf? o <;> simp [h]
  unfold ofOutcomes record Counters.ofOutcomes
  rw [List.filterMap_append, List.filterMap_append, hfile, herror, List.map_append,
    List.foldl_append]
  rfl

/-- One more outcome adds to what the lists tell what its event adds to the counters. -/
theorem tally_record (r : Report) {o : FileOutcome}
    (h : ∀ e, o.result = .error e → e.isRecoverable = true) :
    (r.record o).tally = r.tally.record o.event := by
  obtain ⟨path, result⟩ := o
  unfold tally hits findings record
  cases result with
  | ok fs =>
    have hfile : fileOf? ⟨path, .ok fs⟩ = some ⟨path, fs⟩ := rfl
    have herror : errorOf? ⟨path, .ok fs⟩ = none := rfl
    have hevent : FileOutcome.event ⟨path, .ok fs⟩ = .read fs.length := rfl
    rw [hfile, herror, hevent]
    -- a file without findings adds to one counter, any other to three
    cases fs with
    | nil => simp [Counters.record, FileEvent.additions, Counters.addAll, Counters.add]
    | cons f fs =>
      simp [Counters.record, FileEvent.additions, Counters.addAll, Counters.add]
  | error e =>
    have hfile : fileOf? ⟨path, .error e⟩ = none := rfl
    have herror : errorOf? ⟨path, .error e⟩ = some (path, e) := rfl
    rw [hfile, herror]
    -- the event files every other fault under errors, and the lists do not
    cases e with
    | tooLarge | unreadable =>
      simp [FileOutcome.event, Counters.record, FileEvent.additions, Counters.addAll, Counters.add,
        ScanFault.isTooLarge, ScanFault.isUnreadable]
    | badRoot | badPath | badWalk => cases h _ rfl

/-- While the counters are those that the lists tell, further outcomes keep them so. -/
theorem counters_append {os os' : List FileOutcome}
    (h : ∀ o ∈ os', ∀ e, o.result = .error e → e.isRecoverable = true)
    (hcounters : (ofOutcomes os).counters = (ofOutcomes os).tally) :
    (ofOutcomes (os ++ os')).counters = (ofOutcomes (os ++ os')).tally := by
  induction os' generalizing os with
  | nil => rwa [List.append_nil]
  | cons o os' ih =>
    obtain ⟨ho, hos'⟩ := List.forall_mem_cons.1 h
    rw [List.append_cons]
    refine ih hos' ?_
    rw [ofOutcomes_concat, tally_record _ ho, ← hcounters]
    rfl

/-- The counters of outcomes are those that the report of the outcomes tells. -/
theorem counters_ofOutcomes {os : List FileOutcome}
    (h : ∀ o ∈ os, ∀ e, o.result = .error e → e.isRecoverable = true) :
    (ofOutcomes os).counters = (ofOutcomes os).tally := by
  have hempty : (ofOutcomes []).counters = (ofOutcomes []).tally := rfl
  exact counters_append h hempty

theorem attempted_tally {r : Report} (h : ∀ x ∈ r.errors, x.2.isRecoverable = true) :
    r.tally.attempted = (r.files.length + r.errors.length).toUInt64 := by
  have hcount : r.errors.length
      = r.errors.countP (·.2.isTooLarge) + r.errors.countP (·.2.isUnreadable) := by
    rw [List.length_eq_countP_add_countP (·.2.isTooLarge), Nat.add_right_inj]
    refine List.countP_congr fun x hx => ?_
    rw [ScanFault.isUnreadable_of_isRecoverable (h x hx)]
    simp
  rw [hcount, Nat.toUInt64_eq, UInt64.ofNat_add, UInt64.ofNat_add, ← UInt64.add_assoc]
  rfl

/-! ### The lists -/

theorem fileOf?_eq_some {o : FileOutcome} {f : FileReport} :
    fileOf? o = some f ↔ o.path = f.path ∧ o.result = .ok f.findings := by
  obtain ⟨path, result⟩ := o
  obtain ⟨path', fs⟩ := f
  cases result <;> simp [fileOf?]

theorem errorOf?_eq_some {o : FileOutcome} {x : String × ScanFault} :
    errorOf? o = some x ↔ o.path = x.1 ∧ o.result = .error x.2 := by
  obtain ⟨path, result⟩ := o
  obtain ⟨path', e⟩ := x
  cases result <;> simp [errorOf?]

section
variable {E : RuleEngine} (d : Detector E) (a : FileAccess) (limit : UInt64) (paths : List String)

theorem files_analyseAll : (ofOutcomes (d.analyseAll a limit paths)).files
    = paths.filterMap fun path => fileOf? ⟨path, d.analyse a limit path⟩ :=
  List.filterMap_map ..

theorem errors_analyseAll : (ofOutcomes (d.analyseAll a limit paths)).errors
    = paths.filterMap fun path => errorOf? ⟨path, d.analyse a limit path⟩ :=
  List.filterMap_map ..

theorem mem_files {path : String} {fs : List Finding} :
    ⟨path, fs⟩ ∈ (ofOutcomes (d.analyseAll a limit paths)).files
      ↔ path ∈ paths ∧ d.analyse a limit path = .ok fs := by
  rw [files_analyseAll, List.mem_filterMap]
  simp only [fileOf?_eq_some]
  constructor
  · rintro ⟨q, hq, rfl, h⟩
    exact ⟨hq, h⟩
  · rintro ⟨hpath, h⟩
    exact ⟨path, hpath, rfl, h⟩

theorem mem_errors {path : String} {e : ScanFault} :
    (path, e) ∈ (ofOutcomes (d.analyseAll a limit paths)).errors
      ↔ path ∈ paths ∧ d.analyse a limit path = .error e := by
  rw [errors_analyseAll, List.mem_filterMap]
  simp only [errorOf?_eq_some]
  constructor
  · rintro ⟨q, hq, rfl, h⟩
    exact ⟨hq, h⟩
  · rintro ⟨hpath, h⟩
    exact ⟨path, hpath, rfl, h⟩

/-- The files are the paths that were analysed, in the order of the paths. -/
theorem map_path_files : (ofOutcomes (d.analyseAll a limit paths)).files.map (·.path)
    = paths.filter fun path => (d.analyse a limit path).isOk := by
  rw [files_analyseAll, List.map_filterMap, ← List.filterMap_eq_filter]
  refine List.filterMap_congr fun path _ => ?_
  cases h : d.analyse a limit path <;> simp [fileOf?, Except.isOk, Except.toBool, Option.guard, h]

/-- The errors are the paths that were not analysed, in the order of the paths. -/
theorem map_fst_errors : (ofOutcomes (d.analyseAll a limit paths)).errors.map (·.1)
    = paths.filter fun path => !(d.analyse a limit path).isOk := by
  rw [errors_analyseAll, List.map_filterMap, ← List.filterMap_eq_filter]
  refine List.filterMap_congr fun path _ => ?_
  cases h : d.analyse a limit path <;> simp [errorOf?, Except.isOk, Except.toBool, Option.guard, h]

/-- A report accounts for some paths: every path is on exactly one list, both lists keep the order
of the paths, a path is listed with what the detector finds in its text or with the fault that
explains why it has none, and the counters are those that the lists tell. -/
structure AccountsFor (r : Report) : Prop where
  files_ordered : (r.files.map (·.path)).Sublist paths
  errors_ordered : (r.errors.map (·.1)).Sublist paths
  complete : (r.files.map (·.path) ++ r.errors.map (·.1)).Perm paths
  apart : ∀ path ∈ r.files.map (·.path), path ∉ r.errors.map (·.1)
  file_iff (path : String) (fs : List Finding) : ⟨path, fs⟩ ∈ r.files
    ↔ path ∈ paths ∧ ∃ source, a.Reads limit path source ∧ fs = d.detect source
  error_iff (path : String) (e : ScanFault) : (path, e) ∈ r.errors
    ↔ path ∈ paths ∧ a.Fails limit path e
  recoverable : ∀ x ∈ r.errors, x.2.isRecoverable = true
  counters_eq : r.counters = r.tally
  attempted_eq : r.counters.attempted = paths.length.toUInt64

theorem accountsFor_ofOutcomes :
    AccountsFor d a limit paths (ofOutcomes (d.analyseAll a limit paths)) := by
  let r := ofOutcomes (d.analyseAll a limit paths)
  have hfiles := map_path_files d a limit paths
  have herrors := map_fst_errors d a limit paths
  have hperm : (r.files.map (·.path) ++ r.errors.map (·.1)).Perm paths := by
    rw [hfiles, herrors]
    exact List.filter_append_perm _ _
  have hfault : ∀ path e, (path, e) ∈ r.errors ↔ path ∈ paths ∧ a.Fails limit path e := by
    intro path e
    rw [mem_errors, Detector.analyse_eq_error]
  have hrecoverable : ∀ x ∈ r.errors, x.2.isRecoverable = true := fun x hx =>
    ((hfault x.1 x.2).1 hx).2.isRecoverable
  have hcounters : r.counters = r.tally := by
    refine counters_ofOutcomes fun o ho e he => ?_
    exact hrecoverable (o.path, e) (List.mem_filterMap.2 ⟨o, ho, errorOf?_eq_some.2 ⟨rfl, he⟩⟩)
  constructor
  case files_ordered =>
    rw [hfiles]
    exact List.filter_sublist
  case errors_ordered =>
    rw [herrors]
    exact List.filter_sublist
  case complete => exact hperm
  case apart =>
    rw [hfiles, herrors]
    intro path hin hout
    have hok := (List.mem_filter.1 hin).2
    have hnot := (List.mem_filter.1 hout).2
    rw [hok] at hnot
    cases hnot
  case file_iff =>
    intro path fs
    rw [mem_files, Detector.analyse_eq_ok]
  case error_iff => exact hfault
  case recoverable => exact hrecoverable
  case counters_eq => exact hcounters
  case attempted_eq =>
    rw [hcounters, attempted_tally hrecoverable, ← hperm.length_eq, List.length_append,
      List.length_map, List.length_map]

end

end Report

/-! ### Another answer about one path -/

/-- The access that answers differently about one path. -/
def FileAccess.answering (a : FileAccess) (path : String) (size : Except FileFault UInt64)
    (text : Except FileFault String) : FileAccess :=
  { size := fun q => if q = path then size else a.size q
    text := fun q => if q = path then text else a.text q }

/-- The storage that answers differently about one path. -/
def Storage.answering (s : Storage) (path : String) (size : Except FileFault UInt64)
    (text : Except FileFault String) : Storage :=
  { s with toFileAccess := s.toFileAccess.answering path size text }

namespace Detector

variable {E : RuleEngine} (d : Detector E) (a : FileAccess) (limit : UInt64) (paths : List String)
  (path : String) (size : Except FileFault UInt64) (text : Except FileFault String)

theorem analyse_answering {q : String} (h : q ≠ path) :
    d.analyse (a.answering path size text) limit q = d.analyse a limit q := by
  unfold analyse FileAccess.answering
  simp only [if_neg h]

/-- What is selected from the outcomes of the other paths does not depend on what is answered about
one path. -/
theorem filter_filterMap_answering {β : Type} {select : FileOutcome → Option β}
    {pathOf : β → String} (h : ∀ o x, select o = some x → pathOf x = o.path) :
    (paths.filterMap fun q => select ⟨q, d.analyse (a.answering path size text) limit q⟩).filter
        (fun x => pathOf x != path)
      = (paths.filterMap fun q => select ⟨q, d.analyse a limit q⟩).filter
          fun x => pathOf x != path := by
  have hpath (b : FileAccess) : ∀ q x, select ⟨q, d.analyse b limit q⟩ = some x →
      (pathOf x != path) = (q != path) := fun q x hx => congrArg (· != path) (h _ x hx)
  rw [Filtering.filter_filterMap_eq (hpath _), Filtering.filter_filterMap_eq (hpath _)]
  refine List.filterMap_congr fun q hq => ?_
  have hother : q ≠ path := by simpa using (List.mem_filter.1 hq).2
  rw [d.analyse_answering a limit path size text hother]

theorem files_answering :
    (Report.ofOutcomes (d.analyseAll (a.answering path size text) limit paths)).files.filter
        (fun f => f.path != path)
      = (Report.ofOutcomes (d.analyseAll a limit paths)).files.filter fun f => f.path != path := by
  rw [Report.files_analyseAll, Report.files_analyseAll]
  exact d.filter_filterMap_answering a limit paths path size text fun o f hf =>
    (Report.fileOf?_eq_some.1 hf).1.symm

theorem errors_answering :
    (Report.ofOutcomes (d.analyseAll (a.answering path size text) limit paths)).errors.filter
        (fun x => x.1 != path)
      = (Report.ofOutcomes (d.analyseAll a limit paths)).errors.filter fun x => x.1 != path := by
  rw [Report.errors_analyseAll, Report.errors_analyseAll]
  exact d.filter_filterMap_answering a limit paths path size text fun o x hx =>
    (Report.errorOf?_eq_some.1 hx).1.symm

/-! ### Scans -/

variable {d} in
theorem scan_eq_ok {s : Storage} {settings : ScanSettings} {root : String} {r : Report} :
    d.scan s settings root = .ok r
      ↔ ∃ paths, s.select root (Selection.ofSettings settings) settings.followLinks = .ok paths ∧
          r = Report.ofOutcomes (d.analyseAll s.toFileAccess settings.maxFileBytes paths) := by
  unfold scan
  cases s.select root (Selection.ofSettings settings) settings.followLinks with
  | error e => simp [bind, Except.bind]
  | ok paths =>
    constructor
    · intro h
      exact ⟨paths, rfl, (Except.ok.inj h).symm⟩
    · rintro ⟨_, ⟨rfl⟩, rfl⟩
      rfl

variable {d} in
/-- **A scan accounts for every path that it takes**, and what the file system answers about one
path makes no difference for the others. -/
theorem scan_accountsFor {s : Storage} {settings : ScanSettings} {root : String} {r : Report}
    (h : d.scan s settings root = .ok r) :
    ∃ paths, s.select root (Selection.ofSettings settings) settings.followLinks = .ok paths ∧
      r.AccountsFor d s.toFileAccess settings.maxFileBytes paths ∧
      ∀ path size text, ∃ r', d.scan (s.answering path size text) settings root = .ok r' ∧
        r'.files.filter (fun f => f.path != path) = r.files.filter (fun f => f.path != path) ∧
        r'.errors.filter (fun x => x.1 != path) = r.errors.filter (fun x => x.1 != path) := by
  obtain ⟨paths, hselect, rfl⟩ := scan_eq_ok.1 h
  let a := s.toFileAccess
  let limit := settings.maxFileBytes
  refine ⟨paths, hselect, Report.accountsFor_ofOutcomes d a limit paths, fun path size text => ?_⟩
  let r' := Report.ofOutcomes (d.analyseAll (a.answering path size text) limit paths)
  refine ⟨r', scan_eq_ok.2 ⟨paths, hselect, rfl⟩, ?_, ?_⟩
  · exact files_answering d a limit paths path size text
  · exact errors_answering d a limit paths path size text

/-- A storage with a text, a file of 200 bytes and a file that is no text, met last to first. -/
def threeFiles : Storage :=
  { size := fun path => if path = "root/b.js" then .ok 200 else .ok 20
    text := fun path => if path = "root/a.js" then .ok "await p.then(f)" else .error .notText
    walk := fun _ _ => .ok [⟨[], .directory⟩, ⟨[FileName.ofString "c.js"], .file⟩,
      ⟨[FileName.ofString "b.js"], .file⟩, ⟨[FileName.ofString "a.js"], .file⟩] }

theorem scan_threeFiles :
    let d := new .standard ⟨[Builtin.asyncAwait], by decide, by decide⟩ {}
    let settings : ScanSettings := { maxFileBytes := 100 }
    ∃ r, d.scan threeFiles settings "root" = .ok r ∧
      ∃ paths, threeFiles.select "root" (Selection.ofSettings settings) false = .ok paths ∧
        r.AccountsFor d threeFiles.toFileAccess 100 paths ∧
        ∀ path size text, ∃ r', d.scan (threeFiles.answering path size text) settings "root" = .ok r' ∧
          r'.files.filter (fun f => f.path != path) = r.files.filter (fun f => f.path != path) ∧
          r'.errors.filter (fun x => x.1 != path) = r.errors.filter (fun x => x.1 != path) := by
  intro d settings
  have hpaths : threeFiles.select "root" (Selection.ofSettings settings) settings.followLinks
      = .ok ["root/a.js", "root/b.js", "root/c.js"] := by cbv
  have hscan := scan_eq_ok (d := d).2 ⟨_, hpaths, rfl⟩
  exact ⟨_, hscan, scan_accountsFor hscan⟩

end Detector

end CodeIdioms
