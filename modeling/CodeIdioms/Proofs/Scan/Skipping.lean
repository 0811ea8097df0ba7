import CodeIdioms.Proofs.FileTree.Joining

/-! # What lies below skipped directories

No file below a skipped directory is taken.  Skipping does not cut the walk short, though: it comes
after the walk, entry by entry, and last of what is looked at in an entry.  So an entry that ends
the scan, where the walk cannot go on or where the path of a file is no text, ends it below a
skipped directory as well (`paths_eq`).

Hence of two walks that differ below skipped directories only, and of which one is not disturbed
there, the other one gives the same paths, or the same fault, if and only if it is not disturbed
there either (`paths_eq_paths_iff`). -/

namespace CodeIdioms

namespace Entry

/-- Whether an entry ends a scan. -/
def isDisruptive (e : Entry) : Bool :=
  match e.kind with
  | .fault _ => true
  | .file => (Selection.namesOf? e.location).isNone
  | .directory | .link => false

/-- The fault with which an entry ends the scan of a root. -/
def disruption (root : String) (e : Entry) : ScanFault :=
  match e.kind with
  | .fault f => .badWalk root e.location f
  | .file | .directory | .link => .badPath root e.location

theorem location_eq_of_disruption_eq {root : String} {e e' : Entry}
    (h : e.disruption root = e'.disruption root) : e.location = e'.location := by
  obtain ⟨l, kind⟩ := e
  obtain ⟨l', kind'⟩ := e'
  cases kind <;> cases kind' <;> cases h <;> rfl

end Entry

namespace Selection

variable {s : Selection} {root : String}

/-- Whether a location lies below a skipped directory. -/
def buries (s : Selection) (l : Location) : Bool :=
  l.dropLast.any fun name => (FileName.text? name).any s.skips

/-- The entries that do not lie below skipped directories. -/
def unburied (s : Selection) (es : List Entry) : List Entry :=
  es.filter fun e => !s.buries e.location

/-- The names that lead to an entry, if that is a file to take. -/
def taken? (s : Selection) (e : Entry) : Option (List String) :=
  match e.kind with
  | .file => (namesOf? e.location).filter s.takes
  | .directory | .link | .fault _ => none

/-! ### Files that are taken -/

theorem exists_mem_of_namesOf? {l : Location} {names : List String} (h : namesOf? l = some names)
    {n : FileName} (hn : n ∈ l) : ∃ name ∈ names, FileName.text? n = some name := by
  rw [← namesOf?_eq_some_iff.1 h] at hn
  obtain ⟨name, hname, rfl⟩ := List.mem_map.1 hn
  exact ⟨name, hname, text?_ofString name⟩

/-- Nothing below a skipped directory is taken. -/
theorem taken?_of_buries {e : Entry} (h : s.buries e.location = true) : s.taken? e = none := by
  obtain ⟨n, hn, hskips⟩ := List.any_eq_true.1 h
  unfold taken?
  cases e.kind with
  | file =>
    cases hnames : namesOf? e.location with
    | none => rfl
    | some names =>
      obtain ⟨name, hname, htext⟩ := exists_mem_of_namesOf? hnames (List.dropLast_subset _ hn)
      rw [htext] at hskips
      have hany : names.any s.skips = true := List.any_eq_true.2 ⟨name, hname, hskips⟩
      have htakes : s.takes names = false := by
        unfold takes
        rw [hany, Bool.not_true, Bool.and_false]
      exact Option.filter_some_neg htakes
  | directory => rfl
  | link => rfl
  | fault f => rfl

theorem filterMap_taken?_unburied (s : Selection) (es : List Entry) :
    (s.unburied es).filterMap s.taken? = es.filterMap s.taken? := by
  unfold unburied
  rw [List.filterMap_filter]
  refine List.filterMap_congr fun e _ => ?_
  cases h : s.buries e.location with
  | true => exact (taken?_of_buries h).symm
  | false => rfl

/-! ### Runs through a walk -/

theorem choose_eq (s : Selection) (root : String) (e : Entry) :
    s.choose root e = if e.isDisruptive then .error (e.disruption root) else .ok (s.taken? e) := by
  obtain ⟨l, kind⟩ := e
  cases kind with
  | file =>
    unfold choose Entry.isDisruptive taken?
    dsimp only
    cases namesOf? l with
    | none => rfl
    | some names => rw [Option.filter_some]; rfl
  | directory => rfl
  | link => rfl
  | fault f => rfl

theorem chooseAll_eq (s : Selection) (root : String) (es : List Entry) :
    s.chooseAll root es = match es.find? Entry.isDisruptive with
      | some e => .error (e.disruption root)
      | none => .ok (es.filterMap s.taken?) := by
  induction es with
  | nil => rfl
  | cons e es ih =>
    rw [chooseAll, choose_eq, List.find?_cons]
    cases e.isDisruptive with
    | true => rfl
    | false =>
      show (do
        let rest ← s.chooseAll root es
        pure ((s.taken? e).toList ++ rest) : Except ScanFault (List (List String))) = _
      rw [ih, List.filterMap_cons]
      cases es.find? Entry.isDisruptive with
      | some e' => rfl
      | none => cases s.taken? e <;> rfl

/-- The paths of a walk are those of its files to take, unless an entry ends the scan. -/
theorem paths_eq (s : Selection) (root : String) (es : List Entry) :
    s.paths root es = match es.find? Entry.isDisruptive with
      | some e => .error (e.disruption root)
      | none =>
        .ok (((es.filterMap s.taken?).mergeSort fun a b => !(b < a)).map (Path.join root)) := by
  unfold paths locations
  rw [chooseAll_eq]
  cases es.find? Entry.isDisruptive <;> rfl

/-! ### Two walks -/

/-- If an entry ends the scan of a walk, the first one does not lie below a skipped directory. -/
def Undisturbed (s : Selection) (es : List Entry) : Prop :=
  ∀ e, es.find? Entry.isDisruptive = some e → s.buries e.location = false

theorem find?_unburied {es : List Entry} (h : s.Undisturbed es) :
    (s.unburied es).find? Entry.isDisruptive = es.find? Entry.isDisruptive := by
  unfold Undisturbed at h
  unfold unburied
  induction es with
  | nil => rfl
  | cons e es ih =>
    rw [List.find?_cons] at h ⊢
    cases he : e.isDisruptive with
    | true =>
      rw [he] at h
      rw [List.filter_cons_of_pos (by rw [h e rfl]; rfl), List.find?_cons, he]
    | false =>
      rw [he] at h
      rw [← ih h, List.filter_cons]
      split
      · rw [List.find?_cons, he]
      · rfl

theorem paths_unburied {es : List Entry} (h : s.Undisturbed es) :
    s.paths root (s.unburied es) = s.paths root es := by
  rw [paths_eq, paths_eq, find?_unburied h, filterMap_taken?_unburied]

/-- **Skipped directories.**  Take two walks that differ below skipped directories only, one of
which is not disturbed there.  They give the same result if and only if the other one is not
either. -/
theorem paths_eq_paths_iff {es es' : List Entry} (hsame : s.unburied es = s.unburied es')
    (h : s.Undisturbed es) (root : String) :
    s.paths root es = s.paths root es' ↔ s.Undisturbed es' := by
  constructor
  · intro hpaths e' hfound'
    rw [paths_eq, paths_eq, hfound'] at hpaths
    cases hfound : es.find? Entry.isDisruptive with
    | none =>
      rw [hfound] at hpaths
      cases hpaths
    | some e =>
      rw [hfound] at hpaths
      rw [← Entry.location_eq_of_disruption_eq (Except.error.inj hpaths)]
      exact h e hfound
  · intro h'
    rw [← paths_unburied h, ← paths_unburied h', hsame]

/-- A walk that meets a source file and a skipped directory with nothing in it. -/
def tidyWalk : List Entry := [
  ⟨[], .directory⟩, ⟨[FileName.ofString "a.js"], .file⟩,
  ⟨[FileName.ofString "node_modules"], .directory⟩]

/-- The same walk with a file in the skipped directory, the name of which is no text. -/
def litteredWalk : List Entry :=
  tidyWalk ++ [⟨[FileName.ofString "node_modules", 0xff :: FileName.ofString ".js"], .file⟩]

theorem unburied_litteredWalk :
    ({} : Selection).unburied tidyWalk = ({} : Selection).unburied litteredWalk := by
  decide +kernel

theorem find?_tidyWalk : tidyWalk.find? Entry.isDisruptive = none := by decide +kernel

theorem undisturbed_tidyWalk : ({} : Selection).Undisturbed tidyWalk := by
  intro e h
  rw [find?_tidyWalk] at h
  cases h

theorem paths_eq_paths_iff_littered :
    ({} : Selection).unburied tidyWalk = ({} : Selection).unburied litteredWalk ∧
      ({} : Selection).Undisturbed tidyWalk ∧
      (({} : Selection).paths "root" tidyWalk = ({} : Selection).paths "root" litteredWalk
        ↔ ({} : Selection).Undisturbed litteredWalk) :=
  ⟨unburied_litteredWalk, undisturbed_tidyWalk,
    paths_eq_paths_iff unburied_litteredWalk undisturbed_tidyWalk "root"⟩

/-- A file below a skipped directory ends the scan. -/
theorem paths_litteredWalk_ne :
    ({} : Selection).unburied tidyWalk = ({} : Selection).unburied litteredWalk ∧
      ({} : Selection).paths "root" tidyWalk ≠ ({} : Selection).paths "root" litteredWalk := by
  have hfound : litteredWalk.find? Entry.isDisruptive
      = some ⟨[FileName.ofString "node_modules", 0xff :: FileName.ofString ".js"], .file⟩ := by
    decide +kernel
  refine ⟨unburied_litteredWalk, fun h => ?_⟩
  rw [paths_eq, paths_eq, find?_tidyWalk, hfound] at h
  cases h

end Selection

end CodeIdioms
