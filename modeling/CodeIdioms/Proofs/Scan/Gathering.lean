import CodeIdioms.Proofs.Scan.Skipping
import CodeIdioms.Scan.Report

/-! # Gathering paths

The files of a scan can be gathered by their paths alone.  A walk yields each entry as the path of its
root, entered by the names on the way; the name and the skipped components are found by taking the path
apart; what is left of it below the root is found by taking away the components of the root, and is the
whole path where that fails; and whole paths are put in order (`Selection.gather`).

However the root is written, this gives what a scan gives, which looks at the names below the root only
(`Selection.gather_eq_paths`). -/

namespace CodeIdioms

/-- The text of a component, if it is one. -/
def Component.text? : Component → Option String
  | top => some "/"
  | here => some "."
  | above => some ".."
  | name n => n.text?

namespace Path

/-- The components of a path that are left after some others. -/
def stripPrefix? : List Component → List Component → Option (List Component)
  | [], path => some path
  | _ :: _, [] => none
  | c :: before, d :: path => if c = d then stripPrefix? before path else none

/-- The components that lead from a root to a path. -/
def relative? (root path : String) : Option (List Component) :=
  stripPrefix? (components (FileName.ofString root)) (components (FileName.ofString path))

/-- The name that a path ends with. -/
def fileName? (path : String) : Option FileName :=
  match (components (FileName.ofString path)).getLast? with
  | some (.name n) => some n
  | _ => none

end Path

namespace Entry

/-- The path at which a walk of a root meets an entry. -/
def path (root : String) (e : Entry) : List UInt8 :=
  e.location.foldl Path.push (FileName.ofString root)

/-- An entry that a walk can meet: it is reached by names of entries, and the root is no file. -/
structure IsProper (e : Entry) : Prop where
  names : ∀ n ∈ e.location, FileName.IsProper n
  below : e.kind = .file → e.location ≠ []

instance (e : Entry) : Decidable e.IsProper :=
  decidable_of_iff ((∀ n ∈ e.location, FileName.IsProper n) ∧ (e.kind = .file → e.location ≠ []))
    ⟨fun ⟨h₁, h₂⟩ => ⟨h₁, h₂⟩, fun ⟨h₁, h₂⟩ => ⟨h₁, h₂⟩⟩

end Entry

namespace Selection

/-- Whether a path ends with a name with a wanted extension. -/
def isSource (s : Selection) (path : String) : Bool :=
  (((Path.fileName? path).bind FileName.text?).bind extension?).any s.extensions.contains

/-- Whether a path has a skipped component below a root, or anywhere if it does not lead below it. -/
def skipsPath (s : Selection) (root path : String) : Bool :=
  ((Path.relative? root path).getD (Path.components (FileName.ofString path))).any fun c =>
    c.text?.any s.skips

/-- The path of a file to take, for one entry of the walk of a root. -/
def meet (s : Selection) (root : String) (e : Entry) : Except ScanFault (Option String) :=
  match e.kind with
  | .fault f => .error (.badWalk root e.location f)
  | .directory | .link => .ok none
  | .file =>
    match Text.ofBytes? (e.path root) with
    | none => .error (.badPath root e.location)
    | some path => .ok (if s.isSource path && !s.skipsPath root path then some path else none)

/-- The paths of the files to take, in the order of the walk. -/
def meetAll (s : Selection) (root : String) : List Entry → Except ScanFault (List String)
  | [] => .ok []
  | e :: es => do
    let path? ← s.meet root e
    let rest ← meetAll s root es
    return path?.toList ++ rest

/-- The names that lead to the files to take, in ascending order. -/
def listing (s : Selection) (es : List Entry) : List (List String) :=
  (es.filterMap s.taken?).mergeSort fun a b => !(b < a)

/-- The paths of the files to take, in ascending order. -/
def gather (s : Selection) (root : String) (es : List Entry) : Except ScanFault (List String) :=
  (s.meetAll root es).map fun ps => ps.mergeSort fun p q => !decide (Path.Before q p)

end Selection

/-! ### Paths below a root -/

namespace Path

theorem stripPrefix?_append (before path : List Component) :
    stripPrefix? before (before ++ path) = some path := by
  induction before with
  | nil => rfl
  | cons c before ih =>
    rw [List.cons_append, stripPrefix?, if_pos rfl, ih]

section
variable {root : String} {names : List String}
  (h : ∀ name ∈ names, (FileName.ofString name).IsProper)
include h

theorem relative?_join :
    relative? root (join root names) = some (names.map fun name => .name (FileName.ofString name)) := by
  unfold relative?
  rw [components_join h, stripPrefix?_append]

theorem fileName?_join (hne : names ≠ []) :
    fileName? (join root names) = names.getLast?.map FileName.ofString := by
  obtain ⟨name, hlast⟩ := Option.ne_none_iff_exists'.1 (List.getLast?_eq_none_iff.not.2 hne)
  unfold fileName?
  rw [components_join h, List.getLast?_append, List.getLast?_map, hlast]
  rfl

end

end Path

namespace Selection

variable {s : Selection} {root : String}

section
variable {names : List String} (h : ∀ name ∈ names, (FileName.ofString name).IsProper)
include h

theorem skipsPath_join : s.skipsPath root (Path.join root names) = names.any s.skips := by
  unfold skipsPath
  rw [Path.relative?_join h, Option.getD_some, List.any_map]
  refine congrArg names.any (funext fun name => ?_)
  show (FileName.text? (FileName.ofString name)).any s.skips = s.skips name
  rw [text?_ofString]
  rfl

theorem isSource_join (hne : names ≠ []) :
    s.isSource (Path.join root names) = ((names.getLast?).bind extension?).any s.extensions.contains := by
  unfold isSource
  rw [Path.fileName?_join h hne]
  cases names.getLast? with
  | none => rfl
  | some name =>
    rw [Option.map_some, Option.bind_some, text?_ofString]

end

theorem ne_nil_of_namesOf? {l : Location} (hl : l ≠ []) {names : List String}
    (hnames : namesOf? l = some names) : names ≠ [] := by
  rintro rfl
  exact hl (namesOf?_eq_some_iff.1 hnames).symm

/-- Meeting an entry by its path gives the path of what is chosen by its names. -/
theorem meet_eq {e : Entry} (h : e.IsProper) :
    s.meet root e = (s.choose root e).map (Option.map (Path.join root)) := by
  obtain ⟨l, kind⟩ := e
  cases kind with
  | fault f => rfl
  | directory => rfl
  | link => rfl
  | file =>
    have hpath : Text.ofBytes? (Entry.path root ⟨l, .file⟩) = (namesOf? l).map (Path.join root) :=
      ofBytes?_foldl_push root h.names
    unfold meet choose
    dsimp only
    rw [hpath]
    cases hnames : namesOf? l with
    | none => rfl
    | some names =>
      have hproper := isProper_of_namesOf? h.names hnames
      have htakes : (s.isSource (Path.join root names) && !s.skipsPath root (Path.join root names))
          = s.takes names := by
        rw [isSource_join hproper (ne_nil_of_namesOf? (h.below rfl) hnames), skipsPath_join hproper]
        rfl
      rw [Option.map_some]
      dsimp only
      rw [htakes]
      cases s.takes names <;> rfl

theorem meetAll_eq {es : List Entry} (h : ∀ e ∈ es, Entry.IsProper e) :
    s.meetAll root es = (s.chooseAll root es).map (List.map (Path.join root)) := by
  induction es with
  | nil => rfl
  | cons e es ih =>
    obtain ⟨he, hes⟩ := List.forall_mem_cons.1 h
    rw [meetAll, chooseAll, meet_eq he, ih hes]
    cases s.choose root e with
    | error f => rfl
    | ok names? =>
      cases s.chooseAll root es with
      | error f => rfl
      | ok ls =>
        show Except.ok _ = Except.ok _
        cases names? <;> rfl

/-- The names that lead to a file to take are names of entries. -/
theorem isProper_of_mem_taken {es : List Entry} (h : ∀ e ∈ es, Entry.IsProper e) {names : List String}
    (hnames : names ∈ es.filterMap s.taken?) : ∀ name ∈ names, (FileName.ofString name).IsProper := by
  obtain ⟨e, he, htaken⟩ := List.mem_filterMap.1 hnames
  unfold taken? at htaken
  split at htaken
  · obtain ⟨hnames, -⟩ := Option.filter_eq_some_iff.1 htaken
    exact isProper_of_namesOf? (h e he).names hnames
  all_goals cases htaken

theorem isProper_of_mem_listing {es : List Entry} (h : ∀ e ∈ es, Entry.IsProper e)
    {names : List String} (hnames : names ∈ s.listing es) :
    ∀ name ∈ names, (FileName.ofString name).IsProper :=
  isProper_of_mem_taken h (List.mem_mergeSort.1 hnames)

theorem paths_of_find? {es : List Entry} (h : es.find? Entry.isDisruptive = none) :
    s.paths root es = .ok ((s.listing es).map (Path.join root)) := by
  rw [paths_eq, h]
  rfl

/-- **Gathering.**  Gathering by paths gives what a scan gives. -/
theorem gather_eq_paths (s : Selection) (root : String) {es : List Entry}
    (h : ∀ e ∈ es, Entry.IsProper e) : s.gather root es = s.paths root es := by
  unfold gather paths locations
  rw [meetAll_eq h, chooseAll_eq]
  cases es.find? Entry.isDisruptive with
  | some e => rfl
  | none =>
    refine congrArg Except.ok (List.map_mergeSort fun a ha b hb => ?_).symm
    rw [decide_eq_decide.2 (Path.before_join_iff (isProper_of_mem_taken h hb)
      (isProper_of_mem_taken h ha))]

/-! ### Two roots -/

theorem relative?_of_gather {es : List Entry} (h : ∀ e ∈ es, Entry.IsProper e) :
    (∃ ls : List (List Component), ∀ root, ∃ ps, s.gather root es = .ok ps ∧
      ps.map (Path.relative? root) = ls.map some) ∨
    ∃ e ∈ es, ∀ root, s.gather root es = .error (e.disruption root) := by
  cases hfound : es.find? Entry.isDisruptive with
  | some e =>
    refine .inr ⟨e, List.mem_of_find?_eq_some hfound, fun root => ?_⟩
    rw [gather_eq_paths s root h, paths_eq, hfound]
  | none =>
    refine .inl ⟨(s.listing es).map (List.map fun name => .name (FileName.ofString name)), fun root =>
      ⟨(s.listing es).map (Path.join root), ?_, ?_⟩⟩
    · rw [gather_eq_paths s root h, paths_of_find? hfound]
    · rw [List.map_map, List.map_map]
      refine List.map_congr_left fun names hnames => ?_
      exact Path.relative?_join (isProper_of_mem_listing h hnames)

end Selection

/-- **Roots.**  Take two roots whose walks meet the same entries below them.  The scans of both give
what gathering by paths gives; they find the same paths below the roots, in the same order, or the same
entry ends both. -/
theorem Storage.select_eq_below_roots (storage : Storage) (settings : ScanSettings) {R R' : String}
    {es : List Entry} (hR : storage.walk R settings.followLinks = .ok es)
    (hR' : storage.walk R' settings.followLinks = .ok es) (h : ∀ e ∈ es, Entry.IsProper e) :
    let s := Selection.ofSettings settings
    storage.select R s settings.followLinks = s.gather R es ∧
      storage.select R' s settings.followLinks = s.gather R' es ∧
      ((∃ ps ps' ls, s.gather R es = .ok ps ∧ s.gather R' es = .ok ps' ∧
          ps.map (Path.relative? R) = List.map some ls ∧
          ps'.map (Path.relative? R') = List.map some ls) ∨
        ∃ e ∈ es, s.gather R es = .error (e.disruption R) ∧
          s.gather R' es = .error (e.disruption R')) := by
  intro s
  refine ⟨?_, ?_, ?_⟩
  · unfold Storage.select
    rw [hR, Selection.gather_eq_paths s R h]
  · unfold Storage.select
    rw [hR', Selection.gather_eq_paths s R' h]
  · obtain ⟨ls, hls⟩ | ⟨e, he, herror⟩ := Selection.relative?_of_gather (s := s) h
    · obtain ⟨ps, hps, hrelative⟩ := hls R
      obtain ⟨ps', hps', hrelative'⟩ := hls R'
      exact .inl ⟨ps, ps', ls, hps, hps', hrelative, hrelative'⟩
    · exact .inr ⟨e, he, herror R, herror R'⟩

/-- A walk that meets a file to take, and one in a skipped directory. -/
def builtWalk : List Entry := [
  ⟨[], .directory⟩, ⟨[FileName.ofString "src", FileName.ofString "a.js"], .file⟩,
  ⟨[FileName.ofString "build", FileName.ofString "x.js"], .file⟩]

/-- Files that are found below every root. -/
def checkouts : Storage where
  walk _ _ := .ok builtWalk
  size _ := .ok 0
  text _ := .ok ""

/-- A root below a directory with a skipped name, and one above the working directory. -/
theorem Storage.select_eq_below_roots_nested :
    (checkouts.walk "build/./app" false = .ok builtWalk ∧ checkouts.walk ".." false = .ok builtWalk) ∧
      (∀ e ∈ builtWalk, Entry.IsProper e) ∧
      Selection.gather {} "build/./app" builtWalk = .ok ["build/./app/src/a.js"] ∧
      Selection.gather {} ".." builtWalk = .ok ["../src/a.js"] ∧
      ∃ ls, ["build/./app/src/a.js"].map (Path.relative? "build/./app") = List.map some ls ∧
        ["../src/a.js"].map (Path.relative? "..") = List.map some ls := by
  have hproper : ∀ e ∈ builtWalk, Entry.IsProper e := by decide +kernel
  have hselect : checkouts.select "build/./app" (Selection.ofSettings {}) false
      = .ok ["build/./app/src/a.js"] := by decide +kernel
  have hselect' : checkouts.select ".." (Selection.ofSettings {}) false = .ok ["../src/a.js"] := by
    decide +kernel
  have hwalk : checkouts.walk "build/./app" false = .ok builtWalk := rfl
  have hwalk' : checkouts.walk ".." false = .ok builtWalk := rfl
  obtain ⟨hgather, hgather', hboth⟩ :=
    Storage.select_eq_below_roots checkouts {} hwalk hwalk' hproper
  have hfirst := hgather.symm.trans hselect
  have hsecond := hgather'.symm.trans hselect'
  refine ⟨⟨hwalk, hwalk'⟩, hproper, hfirst, hsecond, ?_⟩
  obtain ⟨ps, ps', ls, hps, hps', hrelative, hrelative'⟩ | ⟨e, -, herror, -⟩ := hboth
  · obtain rfl := Except.ok.inj (hps.symm.trans hfirst)
    obtain rfl := Except.ok.inj (hps'.symm.trans hsecond)
    exact ⟨ls, hrelative, hrelative'⟩
  · cases herror.symm.trans hfirst

end CodeIdioms
