import CodeIdioms.Proofs.Detection.Exactness
import CodeIdioms.Proofs.Detection.Independence
import CodeIdioms.Proofs.Scan.Accounting
import CodeIdioms.Proofs.SortedMap
import Mathlib

/-! # How often idioms are found

A report counts findings, one at a time, under the ids of their idioms.  Whatever is counted so, a
map of counts has an entry for every key that was counted, with the number of times it was
(`Counts`, `counts_count`, `counts_foldl`).  A detector finds an idiom at most once in a text, so
what a report of a scan counts is files: `idiomCounts_scan`. -/

namespace CodeIdioms

/-! ### Counting keys -/

namespace SortedMap

/-- The values in the order of their keys. -/
def values {β : Type} (m : SortedMap β) : List β := m.entries.map (·.2)

/-- The map with one more under a key. -/
def count (m : SortedMap Nat) (k : String) : SortedMap Nat := m.update k fun n => n.getD 0 + 1

/-- A map counts keys: it has an entry for every key that occurs, with the number of times that it
does, and no other, so that its values add up to the number of all. -/
structure Counts (m : SortedMap Nat) (ks : List String) : Prop where
  get?_eq (k : String) : m.get? k = if ks.count k = 0 then none else some (ks.count k)
  sum_eq : m.values.sum = ks.length

theorem sum_updated (k : String) (es : List (String × Nat)) :
    ((updated k (fun n => n.getD 0 + 1) es).map (·.2)).sum = (es.map (·.2)).sum + 1 := by
  induction es with
  | nil => rfl
  | cons e es ih =>
    unfold updated
    split
    · simp only [List.map_cons, List.sum_cons, Option.getD_none]
      omega
    · split
      · simp only [List.map_cons, List.sum_cons, Option.getD_some]
        omega
      · simp only [List.map_cons, List.sum_cons, ih]
        omega

theorem counts_empty : Counts empty [] := ⟨fun _ => rfl, rfl⟩

theorem counts_count {m : SortedMap Nat} {ks : List String} (h : Counts m ks) (k : String) :
    Counts (m.count k) (ks ++ [k]) where
  get?_eq k' := by
    unfold count
    rw [get?_update, h.get?_eq k, h.get?_eq k', List.count_append]
    by_cases hk : k = k'
    · obtain rfl := hk
      by_cases hzero : ks.count k = 0 <;> simp [hzero]
    · simp [hk]
  sum_eq := by
    rw [List.length_append, List.length_singleton, ← h.sum_eq]
    exact sum_updated k m.entries

theorem counts_foldl {m : SortedMap Nat} {ks : List String} (h : Counts m ks) (ks' : List String) :
    Counts (ks'.foldl count m) (ks ++ ks') := by
  induction ks' generalizing m ks with
  | nil => rwa [List.append_nil]
  | cons k ks' ih =>
    rw [List.append_cons]
    exact ih (counts_count h k)

end SortedMap

/-- Where no list repeats an element, an element occurs as often in all lists together as there are
lists with it. -/
theorem count_flatMap_of_nodup {α : Type} {l : List α} {f : α → List String}
    (h : ∀ a ∈ l, (f a).Nodup) (x : String) :
    (l.flatMap f).count x = l.countP fun a => decide (x ∈ f a) := by
  induction l with
  | nil => rfl
  | cons a l ih =>
    obtain ⟨ha, hl⟩ := List.forall_mem_cons.1 h
    rw [List.flatMap_cons, List.count_append, ih hl, List.countP_cons, ha.count]
    by_cases hx : x ∈ f a
    · simp [hx]
      omega
    · simp [hx]

/-! ### Counting files -/

namespace Report

/-- The number of files with a finding of an idiom. -/
def filesWith (r : Report) (id : String) : Nat :=
  r.files.countP fun f => f.findings.any (·.idiom.id == id)

/-- The ids of all findings, file by file. -/
def foundIds (r : Report) : List String := r.findings.map (·.idiom.id)

theorem counts_idiomCounts (r : Report) : SortedMap.Counts r.idiomCounts r.foundIds := by
  have hfold : r.idiomCounts = r.foundIds.foldl SortedMap.count SortedMap.empty := by
    unfold foundIds
    rw [List.foldl_map]
    rfl
  rw [hfold]
  exact SortedMap.counts_foldl SortedMap.counts_empty r.foundIds

/-- If no file has two findings of one idiom, the findings of an idiom are the files that have it. -/
theorem count_foundIds {r : Report} (h : ∀ f ∈ r.files, (f.findings.map (·.idiom.id)).Nodup)
    (id : String) : r.foundIds.count id = r.filesWith id := by
  unfold foundIds findings filesWith
  rw [List.map_flatMap, count_flatMap_of_nodup h]
  refine List.countP_congr fun f _ => ?_
  simp

end Report

namespace Detector

variable {E : RuleEngine}

/-- A detector finds no idiom twice in a text. -/
theorem nodup_ids_detect (c : Catalog) (s : DetectSettings) (source : String) :
    (((new E c s).detect source).map (·.idiom.id)).Nodup := by
  rw [detect_new]
  exact (nodup_ids_ranking E s.limits source c.distinct).sublist (List.filter_sublist.map _)

/-- **The counts of a scan are numbers of files.**  An idiom is counted once for every file in which
it was found, an idiom that was found in no file is not counted, and the counts add up to the
findings that the counters tell. -/
theorem idiomCounts_scan {c : Catalog} {s : DetectSettings} {storage : Storage}
    {settings : ScanSettings} {root : String} {r : Report}
    (h : (new E c s).scan storage settings root = .ok r) :
    (∀ id, r.idiomCounts.get? id
        = if r.filesWith id = 0 then none else some (r.filesWith id)) ∧
      r.idiomCounts.values.sum.toUInt64 = r.counters.findings := by
  obtain ⟨paths, _, rfl⟩ := scan_eq_ok.1 h
  have haccounts := Report.accountsFor_ofOutcomes (new E c s) storage.toFileAccess
    settings.maxFileBytes paths
  generalize Report.ofOutcomes _ = r at haccounts ⊢
  have hids : ∀ f ∈ r.files, (f.findings.map (·.idiom.id)).Nodup := by
    rintro ⟨path, fs⟩ hf
    obtain ⟨_, source, _, rfl⟩ := (haccounts.file_iff path fs).1 hf
    exact nodup_ids_detect c s source
  have hcounts := Report.counts_idiomCounts r
  constructor
  · intro id
    rw [hcounts.get?_eq id, Report.count_foundIds hids]
  · rw [hcounts.sum_eq, haccounts.counters_eq]
    exact congrArg Nat.toUInt64 (List.length_map _)

/-- A storage with two texts that share an idiom, one of which has another twice. -/
def sharedIdiom : Storage :=
  { size := fun _ => .ok 60
    text := fun path =>
      if path = "root/a.js" then .ok "await f().then(g).then(h)" else .ok "f().then(g)"
    walk := fun _ _ => .ok [⟨[], .directory⟩, ⟨[FileName.ofString "a.js"], .file⟩,
      ⟨[FileName.ofString "b.js"], .file⟩] }

theorem scan_sharedIdiom :
    ∃ r, (new .standard awaiting {}).scan sharedIdiom {} "root" = .ok r ∧
      (∀ id, r.idiomCounts.get? id
        = if r.filesWith id = 0 then none else some (r.filesWith id)) ∧
      r.idiomCounts.values.sum.toUInt64 = r.counters.findings := by
  have hpaths : sharedIdiom.select "root" (Selection.ofSettings {}) false
      = .ok ["root/a.js", "root/b.js"] := by cbv
  have hscan : (new .standard awaiting {}).scan sharedIdiom {} "root" = .ok _ :=
    scan_eq_ok.2 ⟨_, hpaths, rfl⟩
  exact ⟨_, hscan, idiomCounts_scan hscan⟩

end Detector

end CodeIdioms
