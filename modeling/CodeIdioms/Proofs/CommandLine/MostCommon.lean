import CodeIdioms.CommandLine.Scan
import CodeIdioms.Proofs.Scan.Frequency
import CodeIdioms.Proofs.StableSort
import CodeIdioms.Proofs.Text.ByteOrder

/-! # The idioms found most often

The summary of a scan lists at most ten ids.  Sorting looks at the counts only, but it is stable,
and the map of counts has its keys in the order of their bytes, so ids with one count stay in that
order (`pairwise_leads_ranking`).  What is cut off comes after all that is listed, and hence after
the last one (`exists_getLast?_take`), even where the cut parts ids with one count. -/

namespace CodeIdioms

/-! ### Found ids -/

namespace Report

variable (r : Report)

theorem exists_get?_idiomCounts_iff (id : String) :
    (∃ n, r.idiomCounts.get? id = some n) ↔ id ∈ r.foundIds := by
  rw [r.counts_idiomCounts.get?_eq, ← List.count_pos_iff]
  by_cases h : r.foundIds.count id = 0
  · simp [h]
  · simp [h, Nat.pos_of_ne_zero h]

/-- The keys of the counts are the ids that were found, each of them once. -/
theorem keys_idiomCounts_perm : r.idiomCounts.keys.Perm r.foundIds.dedup := by
  refine (List.perm_ext_iff_of_nodup r.idiomCounts.nodup_keys r.foundIds.nodup_dedup).2 fun id => ?_
  rw [List.mem_dedup, ← r.exists_get?_idiomCounts_iff]
  simp only [SortedMap.get?_eq_some]
  exact List.mem_map.trans ⟨fun ⟨⟨_, n⟩, he, hid⟩ => ⟨n, hid ▸ he⟩, fun ⟨n, he⟩ => ⟨_, he, rfl⟩⟩

theorem foundIds_eq_nil_iff : r.foundIds = [] ↔ ∀ f ∈ r.files, f.findings = [] := by
  unfold foundIds findings
  rw [List.map_eq_nil_iff, List.flatMap_eq_nil_iff]

end Report

namespace CommandLine

/-! ### The order of the list -/

/-- An id with its count stands before another: it has been found more often, or as often and its
bytes come first. -/
def Leads (a b : String × Nat) : Prop := b.2 < a.2 ∨ b.2 = a.2 ∧ Text.BytesBefore a.1 b.1

/-- All ids with their counts, in the order in which they are listed. -/
def ranking (r : Report) : List (String × Nat) :=
  r.idiomCounts.entries.mergeSort fun a b => b.2 ≤ a.2

theorem mostCommon_eq_take (r : Report) : mostCommon r = (ranking r).take 10 := rfl

theorem ranking_perm (r : Report) : (ranking r).Perm r.idiomCounts.entries :=
  List.mergeSort_perm _ _

theorem pairwise_leads_ranking (r : Report) : (ranking r).Pairwise Leads := by
  have htrans : ∀ a b c : String × Nat, decide (b.2 ≤ a.2) → decide (c.2 ≤ b.2) →
      decide (c.2 ≤ a.2) := by
    simp only [decide_eq_true_eq]
    exact fun a b c hab hbc => hbc.trans hab
  have htotal : ∀ a b : String × Nat, decide (b.2 ≤ a.2) || decide (a.2 ≤ b.2) := by
    simp only [Bool.or_eq_true, decide_eq_true_eq]
    exact fun a b => Nat.le_total b.2 a.2
  refine (StableSort.pairwise_mergeSort htrans htotal r.idiomCounts.ascending).imp fun {a b} h => ?_
  obtain ⟨hle, htied⟩ := h
  rcases Nat.lt_or_eq_of_le (of_decide_eq_true hle) with hlt | heq
  · exact .inl hlt
  · exact .inr ⟨heq, Text.lt_iff_bytesBefore.1 (htied (decide_eq_true heq.ge))⟩

/-- What is cut off comes after the last of what is kept. -/
theorem exists_getLast?_take {α : Type} {R : α → α → Prop} {l : List α} (h : l.Pairwise R) {n : Nat}
    (hn : 0 < n) {b : α} (hb : b ∈ l.drop n) : ∃ a, (l.take n).getLast? = some a ∧ R a b := by
  rw [← List.take_append_drop n l, List.pairwise_append] at h
  obtain ⟨_, _, hbefore⟩ := h
  have hne : l.take n ≠ [] := by
    intro hnil
    rcases List.take_eq_nil_iff.1 hnil with rfl | rfl
    · exact Nat.lt_irrefl 0 hn
    · cases List.drop_nil ▸ hb
  exact ⟨_, List.getLast?_eq_some_getLast hne, hbefore _ (List.getLast_mem hne) b hb⟩

/-! ### The list -/

/-- The most common ids of a report with their counts: ten of the ids that were found, or all if
there are no more, in order; ids that are not listed come after the last one. -/
structure IsMostCommon (r : Report) (listed : List (String × Nat)) : Prop where
  length_eq : listed.length = min 10 r.foundIds.dedup.length
  found : ∀ e ∈ listed, e.1 ∈ r.foundIds
  counted : ∀ e ∈ listed, r.idiomCounts.get? e.1 = some e.2
  distinct : (listed.map (·.1)).Nodup
  sorted : listed.Pairwise Leads
  others : ∀ id ∈ r.foundIds, id ∉ listed.map (·.1) →
    ∃ n last, r.idiomCounts.get? id = some n ∧ listed.getLast? = some last ∧ Leads last (id, n)

theorem isMostCommon_mostCommon (r : Report) : IsMostCommon r (mostCommon r) := by
  have hentry {id : String} {n : Nat} :
      (id, n) ∈ ranking r ↔ r.idiomCounts.get? id = some n := by
    rw [(ranking_perm r).mem_iff, SortedMap.get?_eq_some]
  have hcounted : ∀ e ∈ (ranking r).take 10, r.idiomCounts.get? e.1 = some e.2 := fun e he =>
    hentry.1 (List.mem_of_mem_take he)
  rw [mostCommon_eq_take]
  constructor
  case length_eq =>
    have hkeys : r.idiomCounts.entries.length = r.foundIds.dedup.length :=
      (List.length_map _).symm.trans r.keys_idiomCounts_perm.length_eq
    rw [List.length_take, (ranking_perm r).length_eq, hkeys]
  case found => exact fun e he => (r.exists_get?_idiomCounts_iff e.1).1 ⟨e.2, hcounted e he⟩
  case counted => exact hcounted
  case distinct =>
    have hnodup : ((ranking r).map (·.1)).Nodup :=
      ((ranking_perm r).map _).nodup_iff.2 r.idiomCounts.nodup_keys
    exact hnodup.sublist ((List.take_sublist ..).map _)
  case sorted => exact (pairwise_leads_ranking r).sublist (List.take_sublist ..)
  case others =>
    intro id hid hout
    obtain ⟨n, hn⟩ := (r.exists_get?_idiomCounts_iff id).2 hid
    have hcut : (id, n) ∈ (ranking r).drop 10 := by
      have hmem := hentry.2 hn
      rw [← List.take_append_drop 10 (ranking r), List.mem_append] at hmem
      exact hmem.resolve_left fun hlisted => hout (List.mem_map.2 ⟨_, hlisted, rfl⟩)
    obtain ⟨last, hlast, hleads⟩ :=
      exists_getLast?_take (pairwise_leads_ranking r) (by decide) hcut
    exact ⟨n, last, hn, hlast, hleads⟩

theorem IsMostCommon.eq_nil_iff {r : Report} {listed : List (String × Nat)}
    (h : IsMostCommon r listed) : listed = [] ↔ ∀ f ∈ r.files, f.findings = [] := by
  rw [← r.foundIds_eq_nil_iff, ← List.length_eq_zero_iff, h.length_eq, ← List.dedup_eq_nil,
    ← List.length_eq_zero_iff]
  omega

/-! ### The summary -/

/-- The line of an id with its count. -/
def commonLine (e : String × Nat) : String :=
  "  " ++ Text.padRight 22 e.1 ++ " " ++ toString e.2 ++ " file(s)"

/-- **The most common idioms.**  The summary of a report ends with its counters if and only if no
file has a finding, and else with the most common ids and their counts. -/
theorem reportLines_mostCommon (r : Report) :
    (reportLines r = r.hits.flatMap fileLines ++ counterLines r.counters ↔
      ∀ f ∈ r.files, f.findings = []) ∧
    ((∃ f ∈ r.files, f.findings ≠ []) → ∃ listed, IsMostCommon r listed ∧
      reportLines r = r.hits.flatMap fileLines ++ counterLines r.counters ++
        "" :: "Most common patterns:" :: listed.map commonLine) := by
  have hlisted := isMostCommon_mostCommon r
  rw [← hlisted.eq_nil_iff]
  have hnonempty : (∃ f ∈ r.files, f.findings ≠ []) ↔ mostCommon r ≠ [] := by
    rw [ne_eq, hlisted.eq_nil_iff]
    push Not
    rfl
  rw [hnonempty]
  unfold reportLines mostCommonLines
  cases h : mostCommon r with
  | nil => exact ⟨⟨fun _ => rfl, fun _ => List.append_nil _⟩, fun hne => absurd rfl hne⟩
  | cons e es =>
    refine ⟨⟨fun heq => ?_, nofun⟩, fun _ => ⟨e :: es, h ▸ hlisted, rfl⟩⟩
    cases List.append_right_eq_self.1 heq

end CommandLine

end CodeIdioms
