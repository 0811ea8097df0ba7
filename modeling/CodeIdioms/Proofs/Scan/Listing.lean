import CodeIdioms.Proofs.Scan.Gathering

/-! # The files of a scan, in order

A scan takes the files with a wanted extension (`HasExtension`) that have no skipped name on their way
from the root (`Selection.Wants`).  Their paths come in the order of components, each once, so the order
in which a walk meets its entries does not matter (`Selection.paths_ordered`). -/

namespace CodeIdioms

/-- A name is something, a dot, and an extension without dots. -/
def HasExtension (name extension : String) : Prop :=
  ∃ stem, stem ≠ "" ∧ name = stem ++ "." ++ extension ∧ '.' ∉ extension.toList

/-- A walk that meets no fault: its entries have distinct locations, which the walk of a directory can
meet, and the names of files are texts. -/
structure IsUntroubled (es : List Entry) : Prop where
  no_fault : ∀ e ∈ es, ∀ f, e.kind ≠ .fault f
  proper : ∀ e ∈ es, e.IsProper
  texts : ∀ e ∈ es, e.kind = .file → ∃ names, Selection.namesOf? e.location = some names
  distinct : (es.map (·.location)).Nodup

/-- The names on the way to a file that is wanted. -/
structure Selection.Wants (s : Selection) (names : List String) : Prop where
  extension : ∃ name ∈ names.getLast?, ∃ extension ∈ s.extensions, HasExtension name extension
  not_skipped : ∀ name ∈ names, name ∉ skippedNames ∧ name ∉ s.skipDirs

/-! ### Extensions -/

theorem takeWhile_ne_dot {stem after : List Char} (h : '.' ∉ after) :
    (stem ++ '.' :: after).reverse.takeWhile (· != '.') = after.reverse := by
  have hafter : ∀ c ∈ after.reverse, (c != '.') = true := fun c hc =>
    bne_iff_ne.2 fun heq => h (heq ▸ List.mem_reverse.1 hc)
  rw [List.reverse_append, List.reverse_cons, List.append_assoc,
    List.takeWhile_append_of_pos hafter]
  simp

/-- What follows the last dot, where something does not. -/
theorem exists_append_dot {cs : List Char}
    (h : (cs.reverse.takeWhile (· != '.')).length < cs.length) :
    ∃ stem, cs = stem ++ '.' :: (cs.reverse.takeWhile (· != '.')).reverse := by
  have hsplit := List.takeWhile_append_dropWhile (p := (· != '.')) (l := cs.reverse)
  cases hrest : cs.reverse.dropWhile (· != '.') with
  | nil =>
    rw [hrest, List.append_nil] at hsplit
    rw [hsplit, List.length_reverse] at h
    exact absurd h (lt_irrefl _)
  | cons d rest =>
    have hd : d = '.' := by
      have hne := List.head_dropWhile_not (p := (· != '.')) (l := cs.reverse) (by simp [hrest])
      simpa [hrest] using hne
    rw [hrest, hd] at hsplit
    refine ⟨rest.reverse, ?_⟩
    calc cs = (cs.reverse.takeWhile (· != '.') ++ '.' :: rest).reverse := by
          rw [hsplit, List.reverse_reverse]
      _ = _ := by rw [List.reverse_append, List.reverse_cons, List.append_assoc]; rfl

theorem toList_append_dot (stem after : String) :
    (stem ++ "." ++ after).toList = stem.toList ++ '.' :: after.toList := by
  rw [String.toList_append, String.toList_append, List.append_assoc]
  rfl

theorem extension?_eq_some_iff {name extension : String} :
    extension? name = some extension ↔ HasExtension name extension := by
  unfold extension? HasExtension
  dsimp only
  constructor
  · intro h
    split at h
    · rename_i hlt
      obtain ⟨stem, hname⟩ := exists_append_dot (Nat.lt_of_succ_lt hlt)
      have hlength : name.toList.length
          = stem.length + ((name.toList.reverse.takeWhile (· != '.')).length + 1) := by
        conv => lhs; rw [hname]
        simp
      obtain rfl := Option.some.inj h
      refine ⟨String.ofList stem, ?_, ?_, ?_⟩
      · intro hnil
        rw [String.ofList_eq_empty_iff.1 hnil] at hlength
        simp only [List.length_nil] at hlength
        omega
      · rw [← String.toList_inj, toList_append_dot, String.toList_ofList, String.toList_ofList, ← hname]
      · rw [String.toList_ofList, List.mem_reverse]
        intro hmem
        simpa using List.mem_takeWhile_imp hmem
    · cases h
  · rintro ⟨stem, hstem, rfl, hdot⟩
    have hpos : stem.toList.length ≠ 0 := fun hzero =>
      hstem (String.toList_eq_nil_iff.1 (List.length_eq_zero_iff.1 hzero))
    rw [toList_append_dot, takeWhile_ne_dot hdot, if_pos, List.reverse_reverse, String.ofList_toList]
    simp only [List.length_reverse, List.length_append, List.length_cons]
    omega

namespace Selection

variable {s : Selection} {root : String}

theorem takes_iff {names : List String} : s.takes names = true ↔ s.Wants names := by
  unfold takes skips
  rw [Bool.and_eq_true, Option.any_eq_true, Bool.not_eq_true', List.any_eq_false]
  constructor
  · rintro ⟨⟨extension, hextension, hmem⟩, hskips⟩
    obtain ⟨name, hname, hextension⟩ := Option.bind_eq_some_iff.1 hextension
    refine ⟨⟨name, hname, extension, List.contains_iff_mem.1 hmem,
      extension?_eq_some_iff.1 hextension⟩, fun name hname => ?_⟩
    simpa using hskips name hname
  · rintro ⟨⟨name, hname, extension, hmem, hextension⟩, hskips⟩
    refine ⟨⟨extension, ?_, List.contains_iff_mem.2 hmem⟩, fun name hname => ?_⟩
    · exact Option.bind_eq_some_iff.2 ⟨name, hname, extension?_eq_some_iff.2 hextension⟩
    · simpa using hskips name hname

theorem taken?_eq_some_iff {e : Entry} {names : List String} :
    s.taken? e = some names ↔ e.kind = .file ∧ namesOf? e.location = some names ∧ s.Wants names := by
  obtain ⟨l, kind⟩ := e
  cases kind with
  | file =>
    show (namesOf? l).filter s.takes = some names ↔ _
    rw [Option.filter_eq_some_iff, takes_iff]
    exact (and_iff_right rfl).symm
  | directory => exact ⟨nofun, nofun⟩
  | link => exact ⟨nofun, nofun⟩
  | fault f => exact ⟨nofun, nofun⟩

theorem find?_isDisruptive {es : List Entry} (h : IsUntroubled es) :
    es.find? Entry.isDisruptive = none := by
  rw [List.find?_eq_none]
  rintro ⟨l, kind⟩ he
  cases kind with
  | file =>
    obtain ⟨names, hnames⟩ := h.texts _ he rfl
    show ¬ (namesOf? l).isNone = true
    rw [hnames]
    nofun
  | directory => nofun
  | link => nofun
  | fault f => exact absurd rfl (h.no_fault _ he f)

/-! ### The order of paths -/

theorem paths_of_isUntroubled {es : List Entry} (h : IsUntroubled es) :
    s.paths root es = .ok ((s.listing es).map (Path.join root)) :=
  paths_of_find? (find?_isDisruptive h)

theorem mem_listing {es : List Entry} {names : List String} : names ∈ s.listing es ↔
    ∃ e ∈ es, e.kind = .file ∧ namesOf? e.location = some names ∧ s.Wants names := by
  unfold listing
  simp only [List.mem_mergeSort, List.mem_filterMap, taken?_eq_some_iff]

theorem nodup_taken {es : List Entry} (h : (es.map (·.location)).Nodup) :
    (es.filterMap s.taken?).Nodup := by
  refine (List.pairwise_map.1 h).filterMap _ fun e e' hne names hnames names' hnames' heq => hne ?_
  subst heq
  rw [← namesOf?_eq_some_iff.1 (taken?_eq_some_iff.1 hnames).2.1,
    ← namesOf?_eq_some_iff.1 (taken?_eq_some_iff.1 hnames').2.1]

/-- Files are listed in ascending order. -/
theorem pairwise_le_listing (s : Selection) (es : List Entry) : (s.listing es).Pairwise (· ≤ ·) := by
  have hsorted : (s.listing es).Pairwise fun a b => (!decide (b < a)) = true := by
    apply List.pairwise_mergeSort
    · intro a b c hab hbc
      simp only [Bool.not_eq_true', decide_eq_false_iff_not, not_lt] at hab hbc ⊢
      exact le_trans hab hbc
    · intro a b
      simpa using le_total a b
  exact hsorted.imp fun hab => by simpa using hab

/-- Distinct files are listed in strictly ascending order. -/
theorem pairwise_listing {es : List Entry} (h : (es.map (·.location)).Nodup) :
    (s.listing es).Pairwise (· < ·) := by
  have hnodup : (s.listing es).Nodup := (List.mergeSort_perm _ _).nodup_iff.2 (nodup_taken h)
  exact ((pairwise_le_listing s es).and hnodup).imp fun hab => lt_of_le_of_ne hab.1 hab.2

/-- The listing does not depend on the order of the walk. -/
theorem listing_eq_of_perm {es es' : List Entry} (hperm : es'.Perm es)
    (h : (es.map (·.location)).Nodup) : s.listing es' = s.listing es := by
  have h' : (es'.map (·.location)).Nodup := (hperm.map _).nodup_iff.2 h
  refine List.Perm.eq_of_pairwise (fun a b _ _ hab hba => absurd hba (lt_asymm hab))
    (pairwise_listing h') (pairwise_listing h) ?_
  exact (List.mergeSort_perm _ _).trans
    ((hperm.filterMap _).trans (List.mergeSort_perm _ _).symm)

theorem pairwise_map_join {es : List Entry} (h : IsUntroubled es) :
    ((s.listing es).map (Path.join root)).Pairwise Path.Before := by
  rw [List.pairwise_map]
  refine (pairwise_listing h.distinct).imp_of_mem fun {a b} ha hb hlt => ?_
  exact (Path.before_join_iff (isProper_of_mem_listing h.proper ha)
    (isProper_of_mem_listing h.proper hb)).2 hlt

end Selection

theorem IsUntroubled.perm {es es' : List Entry} (h : IsUntroubled es) (hperm : es'.Perm es) :
    IsUntroubled es' where
  no_fault e he := h.no_fault e (hperm.mem_iff.1 he)
  proper e he := h.proper e (hperm.mem_iff.1 he)
  texts e he := h.texts e (hperm.mem_iff.1 he)
  distinct := (hperm.map _).nodup_iff.2 h.distinct

/-- **Listing.**  A walk without faults gives the paths of the files that are wanted, each once and in
the order of components, whether by names or by paths, and in whatever order entries are met. -/
theorem Selection.paths_ordered (s : Selection) (root : String) {es : List Entry}
    (h : IsUntroubled es) : ∃ ps, s.gather root es = .ok ps ∧ s.paths root es = .ok ps ∧
      (∀ path, path ∈ ps ↔ ∃ e ∈ es, e.kind = .file ∧ ∃ names, namesOf? e.location = some names ∧
        s.Wants names ∧ path = Path.join root names) ∧
      ps.Nodup ∧ ps.Pairwise Path.Before ∧
      ∀ es', es'.Perm es → s.gather root es' = .ok ps ∧ s.paths root es' = .ok ps := by
  have hpaths {es'} (hperm : es'.Perm es) :
      s.gather root es' = .ok ((s.listing es).map (Path.join root)) ∧
        s.paths root es' = .ok ((s.listing es).map (Path.join root)) := by
    rw [gather_eq_paths s root (h.perm hperm).proper, paths_of_isUntroubled (h.perm hperm),
      listing_eq_of_perm hperm h.distinct]
    exact ⟨rfl, rfl⟩
  have hordered : ((s.listing es).map (Path.join root)).Pairwise Path.Before := pairwise_map_join h
  refine ⟨_, (hpaths (.refl es)).1, (hpaths (.refl es)).2, fun path => ?_, ?_, hordered,
    fun es' hperm => hpaths hperm⟩
  · rw [List.mem_map]
    constructor
    · rintro ⟨names, hnames, rfl⟩
      obtain ⟨e, he, hfile, hnames, hwants⟩ := mem_listing.1 hnames
      exact ⟨e, he, hfile, names, hnames, hwants, rfl⟩
    · rintro ⟨e, he, hfile, names, hnames, hwants, rfl⟩
      exact ⟨names, mem_listing.2 ⟨e, he, hfile, hnames, hwants⟩, rfl⟩
  · refine hordered.imp fun {p q} hbefore heq => ?_
    subst heq
    exact Path.not_before_self p hbefore

/-- A walk that meets files to take, and others. -/
def mixedWalk : List Entry := [
  ⟨[], .directory⟩, ⟨[FileName.ofString ".js"], .file⟩,
  ⟨[FileName.ofString "a", FileName.ofString "b.js"], .file⟩, ⟨[FileName.ofString "a-b.js"], .file⟩,
  ⟨[FileName.ofString "build", FileName.ofString "c.js"], .file⟩,
  ⟨[FileName.ofString "notes.md"], .file⟩, ⟨[0xff :: FileName.ofString ".js"], .link⟩]

theorem isUntroubled_mixedWalk : IsUntroubled mixedWalk where
  no_fault := by
    simp [mixedWalk]
  proper := by decide +kernel
  texts := by
    have htexts : ∀ e ∈ mixedWalk, e.kind = .file → (Selection.namesOf? e.location).isSome = true := by
      decide +kernel
    exact fun e he hfile => Option.isSome_iff_exists.1 (htexts e he hfile)
  distinct := by decide +kernel

theorem Selection.paths_ordered_mixedWalk :
    IsUntroubled mixedWalk ∧
      ({} : Selection).paths "./src/" mixedWalk = .ok ["./src/a/b.js", "./src/a-b.js"] ∧
      ({} : Selection).gather "./src/" mixedWalk = .ok ["./src/a/b.js", "./src/a-b.js"] ∧
      ["./src/a/b.js", "./src/a-b.js"].Pairwise Path.Before ∧
      ({} : Selection).paths "./src/" mixedWalk.reverse = .ok ["./src/a/b.js", "./src/a-b.js"] := by
  have htaken : mixedWalk.filterMap ({} : Selection).taken? = [["a", "b.js"], ["a-b.js"]] := by
    decide +kernel
  have hlisting : ({} : Selection).listing mixedWalk = [["a", "b.js"], ["a-b.js"]] := by
    unfold listing
    rw [htaken]
    exact List.mergeSort_of_pairwise (by decide +kernel)
  have hjoin : [["a", "b.js"], ["a-b.js"]].map (Path.join "./src/") = ["./src/a/b.js", "./src/a-b.js"] := by
    decide +kernel
  have hpaths : ({} : Selection).paths "./src/" mixedWalk = .ok ["./src/a/b.js", "./src/a-b.js"] := by
    rw [paths_of_isUntroubled isUntroubled_mixedWalk, hlisting, hjoin]
  obtain ⟨ps, hgather, hps, -, -, hordered, hperm⟩ := paths_ordered {} "./src/" isUntroubled_mixedWalk
  obtain rfl := Except.ok.inj (hps.symm.trans hpaths)
  exact ⟨isUntroubled_mixedWalk, hpaths, hgather, hordered, (hperm _ (List.reverse_perm _)).2⟩

end CodeIdioms
