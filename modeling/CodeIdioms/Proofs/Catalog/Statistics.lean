import CodeIdioms.Catalog.Basic
import CodeIdioms.Catalog.Builtin
import CodeIdioms.Proofs.Catalog.Consistency
import CodeIdioms.Proofs.Splitting
import Mathlib

/-! # What statistics count

Statistics are made in one pass that raises two counts for every idiom.  After the pass a category
or level that occurs has the number of times that it does, and one that does not occur has no count
(`tally`, `ofIdioms_eq`).  Such counts depend on how often a key occurs and on nothing else: not on
the order of the idioms, and the counts of two lists together are the sums (`tally_perm`,
`tally_append`).

The filters of a catalog are made without statistics.  The idioms of all categories, and those of all
levels, are the idioms of the catalog, each of them once (`splits_filter`), so the number of idioms
with a key is its count, and the counts add up to the number of all idioms.  All of it is
`statistics_agree`. -/

namespace CodeIdioms

/-! ### Counts of keys -/

section
variable {κ : Type} [DecidableEq κ]

/-- How often keys occur in a list, as words; a key that does not occur has no count. -/
def tally (ks : List κ) : κ → Option UInt64 :=
  fun k => if k ∈ ks then some (UInt64.ofNat (ks.count k)) else none

theorem getD_tally (ks : List κ) (k : κ) : (tally ks k).getD 0 = UInt64.ofNat (ks.count k) := by
  unfold tally
  by_cases h : k ∈ ks
  · simp [h]
  · simp [h, List.count_eq_zero_of_not_mem h]

theorem tally_nil : tally ([] : List κ) = fun _ => none := by
  funext k
  simp [tally]

theorem isSome_tally (ks : List κ) (k : κ) : (tally ks k).isSome = true ↔ k ∈ ks := by
  unfold tally
  by_cases h : k ∈ ks <;> simp [h]

/-- Raising a count counts one key more. -/
theorem raise_tally (ks : List κ) (k : κ) : raise (tally ks) k = tally (ks ++ [k]) := by
  funext k'
  unfold raise
  by_cases h : k' = k
  · subst h
    rw [if_pos rfl, getD_tally]
    simp [tally, UInt64.ofNat_add]
  · rw [if_neg h]
    simp [tally, h, Ne.symm h]

theorem tally_perm {ks ks' : List κ} (h : ks.Perm ks') : tally ks = tally ks' := by
  funext k
  unfold tally
  rw [h.count_eq k]
  simp only [h.mem_iff]

/-- The counts of two lists together are the sums, and a key has a count if it has one in either. -/
theorem tally_append (ks ks' : List κ) (k : κ) :
    tally (ks ++ ks') k = Option.merge (· + ·) (tally ks k) (tally ks' k) := by
  unfold tally
  rw [List.count_append, UInt64.ofNat_add]
  by_cases h : k ∈ ks <;> by_cases h' : k ∈ ks'
  · simp [h, h']
  · simp [h, h', List.count_eq_zero_of_not_mem h']
  · simp [h, h', List.count_eq_zero_of_not_mem h]
  · simp [h, h']

end

namespace Statistics

/-- The statistics that tell how many idioms there are of each category and level. -/
def telling (ps : List Idiom) : Statistics :=
  { total := UInt64.ofNat ps.length
    byCategory := tally (ps.map (·.category))
    byDifficulty := tally (ps.map (·.difficulty)) }

/-- One idiom more. -/
theorem add_telling (ps : List Idiom) (p : Idiom) : (telling ps).add p = telling (ps ++ [p]) := by
  unfold add telling
  simp only [raise_tally, List.map_append, List.map_cons, List.map_nil, List.length_append,
    List.length_cons, List.length_nil, UInt64.ofNat_add]
  rfl

/-- A pass over idioms. -/
theorem foldl_add_telling (ps qs : List Idiom) : qs.foldl add (telling ps) = telling (ps ++ qs) := by
  induction qs generalizing ps with
  | nil => rw [List.foldl_nil, List.append_nil]
  | cons q qs ih => rw [List.foldl_cons, add_telling, ih, List.append_assoc, List.singleton_append]

theorem ofIdioms_eq (ps : List Idiom) : ofIdioms ps = telling ps := by
  have hempty : telling [] = {} := by simp [telling, tally_nil]
  unfold ofIdioms
  rw [← hempty, foldl_add_telling, List.nil_append]

/-- The counts do not depend on the order of the idioms. -/
theorem ofIdioms_perm {ps qs : List Idiom} (h : ps.Perm qs) : ofIdioms ps = ofIdioms qs := by
  rw [ofIdioms_eq, ofIdioms_eq]
  unfold telling
  rw [h.length_eq, tally_perm (h.map _), tally_perm (h.map _)]

/-- The counts of two statistics together.  A key that has a count in either has one, which is the
sum. -/
def plus (s t : Statistics) : Statistics :=
  { total := s.total + t.total
    byCategory := fun k => Option.merge (· + ·) (s.byCategory k) (t.byCategory k)
    byDifficulty := fun d => Option.merge (· + ·) (s.byDifficulty d) (t.byDifficulty d) }

theorem ofIdioms_append (ps qs : List Idiom) :
    ofIdioms (ps ++ qs) = (ofIdioms ps).plus (ofIdioms qs) := by
  rw [ofIdioms_eq, ofIdioms_eq, ofIdioms_eq]
  unfold telling plus
  rw [List.length_append, UInt64.ofNat_add, List.map_append, List.map_append]
  congr 1
  · funext k
    exact tally_append ..
  · funext d
    exact tally_append ..

end Statistics

/-! ### Counts and filters -/

section
variable {α κ : Type} [DecidableEq κ] {l : List α} (h : l.length < 2 ^ 64)
include h

theorem toNat_getD_tally_map (key : α → κ) (k : κ) :
    ((tally (l.map key) k).getD 0).toNat = (l.filter (key · == k)).length := by
  have hcount : (l.map key).count k = (l.filter (key · == k)).length := by
    rw [List.count_eq_countP, List.countP_map, List.countP_eq_length_filter]
    rfl
  have hle : (l.filter (key · == k)).length ≤ l.length := List.length_filter_le ..
  rw [getD_tally, hcount, UInt64.toNat_ofNat_of_lt' (by show _ < 2 ^ 64; omega)]

/-- A key has a count if and only if the count is not zero. -/
theorem isSome_tally_map_iff (key : α → κ) (k : κ) :
    (tally (l.map key) k).isSome = true ↔ 0 < (tally (l.map key) k).getD 0 := by
  rw [isSome_tally, UInt64.lt_iff_toNat_lt, toNat_getD_tally_map h key k, UInt64.toNat_zero,
    List.length_pos_iff_exists_mem]
  simp

/-- The counts of all keys add up to the number of all elements. -/
theorem countSum_tally_map {keys : List κ} (hnodup : keys.Nodup) (hall : ∀ k, k ∈ keys)
    (key : α → κ) : countSum keys (tally (l.map key)) = l.length := by
  unfold countSum
  simp only [toNat_getD_tally_map h key]
  exact (splits_filter hnodup hall key l).sum_length

end

namespace Statistics

section
variable {ps : List Idiom} (h : ps.length < 2 ^ 64)
include h

theorem toNat_total_ofIdioms : (ofIdioms ps).total.toNat = ps.length := by
  rw [ofIdioms_eq]
  exact UInt64.toNat_ofNat_of_lt' h

theorem toNat_categoryCount_ofIdioms (k : Category) :
    ((ofIdioms ps).categoryCount k).toNat = (ps.filter (·.category == k)).length := by
  rw [ofIdioms_eq]
  exact toNat_getD_tally_map h (·.category) k

theorem toNat_difficultyCount_ofIdioms (d : Difficulty) :
    ((ofIdioms ps).difficultyCount d).toNat = (ps.filter (·.difficulty == d)).length := by
  rw [ofIdioms_eq]
  exact toNat_getD_tally_map h (·.difficulty) d

theorem addsUp_ofIdioms : (ofIdioms ps).AddsUp := by
  have hcategories : Category.all.Nodup := by decide
  have hdifficulties : Difficulty.all.Nodup := by decide
  constructor
  · rw [toNat_total_ofIdioms h, ofIdioms_eq]
    exact countSum_tally_map h hcategories Category.mem_all (·.category)
  · rw [toNat_total_ofIdioms h, ofIdioms_eq]
    exact countSum_tally_map h hdifficulties Difficulty.mem_all (·.difficulty)

end

/-- Counts that are the sums of the counts of two statistics, as numbers. -/
structure IsSum (s t u : Statistics) : Prop where
  total : u.total.toNat = s.total.toNat + t.total.toNat
  categoryCount (k : Category) :
    (u.categoryCount k).toNat = (s.categoryCount k).toNat + (t.categoryCount k).toNat
  difficultyCount (d : Difficulty) :
    (u.difficultyCount d).toNat = (s.difficultyCount d).toNat + (t.difficultyCount d).toNat

/-- No count of idioms that can be counted by words is lost. -/
theorem isSum_ofIdioms {ps qs : List Idiom} (h : ps.length + qs.length < 2 ^ 64) :
    IsSum (ofIdioms ps) (ofIdioms qs) (ofIdioms (ps ++ qs)) := by
  have hps : ps.length < 2 ^ 64 := by omega
  have hqs : qs.length < 2 ^ 64 := by omega
  have hboth : (ps ++ qs).length < 2 ^ 64 := by rwa [List.length_append]
  constructor
  case total =>
    rw [toNat_total_ofIdioms hps, toNat_total_ofIdioms hqs, toNat_total_ofIdioms hboth,
      List.length_append]
  case categoryCount =>
    intro k
    rw [toNat_categoryCount_ofIdioms hps, toNat_categoryCount_ofIdioms hqs,
      toNat_categoryCount_ofIdioms hboth, List.filter_append, List.length_append]
  case difficultyCount =>
    intro d
    rw [toNat_difficultyCount_ofIdioms hps, toNat_difficultyCount_ofIdioms hqs,
      toNat_difficultyCount_ofIdioms hboth, List.filter_append, List.length_append]

end Statistics

namespace Catalog

/-- The statistics of a catalog agree with its filters. -/
structure StatisticsAgree (c : Catalog) : Prop where
  total : c.statistics.total.toNat = c.count
  categoryCount (k : Category) : (c.statistics.categoryCount k).toNat = (c.ofCategory k).length
  difficultyCount (d : Difficulty) :
    (c.statistics.difficultyCount d).toNat = (c.ofDifficulty d).length
  category_present_iff (k : Category) :
    (c.statistics.byCategory k).isSome = true ↔ 0 < c.statistics.categoryCount k
  difficulty_present_iff (d : Difficulty) :
    (c.statistics.byDifficulty d).isSome = true ↔ 0 < c.statistics.difficultyCount d
  categories : Splits Category.all c.ofCategory c.idioms
  difficulties : Splits Difficulty.all c.ofDifficulty c.idioms
  consistent : c.statistics.isConsistent = true

theorem statisticsAgree_of_count_lt {c : Catalog} (h : c.count < 2 ^ 64) : c.StatisticsAgree := by
  have hcategories : Category.all.Nodup := by decide
  have hdifficulties : Difficulty.all.Nodup := by decide
  constructor
  case total => exact Statistics.toNat_total_ofIdioms h
  case categoryCount => exact Statistics.toNat_categoryCount_ofIdioms h
  case difficultyCount => exact Statistics.toNat_difficultyCount_ofIdioms h
  case category_present_iff =>
    intro k
    unfold statistics
    rw [Statistics.ofIdioms_eq]
    exact isSome_tally_map_iff h (·.category) k
  case difficulty_present_iff =>
    intro d
    unfold statistics
    rw [Statistics.ofIdioms_eq]
    exact isSome_tally_map_iff h (·.difficulty) d
  case categories => exact splits_filter hcategories Category.mem_all (·.category) c.idioms
  case difficulties => exact splits_filter hdifficulties Difficulty.mem_all (·.difficulty) c.idioms
  case consistent => exact (Statistics.addsUp_ofIdioms h).isConsistent

/-- **Statistics agree with the filters.**  The statistics of a catalog count what its filters give,
which together are the catalog; statistics do not depend on the order of idioms, and the statistics
of two lists together are the sums. -/
theorem statistics_agree {c : Catalog} (h : c.count < 2 ^ 64) :
    c.StatisticsAgree ∧
      (∀ ps qs : List Idiom, ps.Perm qs → Statistics.ofIdioms ps = Statistics.ofIdioms qs) ∧
      (∀ ps qs : List Idiom, Statistics.ofIdioms (ps ++ qs)
        = (Statistics.ofIdioms ps).plus (Statistics.ofIdioms qs)) ∧
      ∀ ps qs : List Idiom, ps.length + qs.length < 2 ^ 64 →
        Statistics.IsSum (Statistics.ofIdioms ps) (Statistics.ofIdioms qs)
          (Statistics.ofIdioms (ps ++ qs)) := by
  refine ⟨statisticsAgree_of_count_lt h, ?_, Statistics.ofIdioms_append, ?_⟩
  · intro ps qs hperm
    exact Statistics.ofIdioms_perm hperm
  · intro ps qs hlength
    exact Statistics.isSum_ofIdioms hlength

/-- A catalog in which two idioms of a category stand around an idiom of another one. -/
def around : Catalog :=
  { idioms := [Builtin.asyncAwait, Builtin.nullCheckBasic, Builtin.promiseThen]
    distinct := by decide
    valid := by decide }

theorem statistics_agree_around :
    around.count < 2 ^ 64 ∧ around.StatisticsAgree ∧
      (∀ ps qs : List Idiom, ps.Perm qs → Statistics.ofIdioms ps = Statistics.ofIdioms qs) ∧
      (∀ ps qs : List Idiom, Statistics.ofIdioms (ps ++ qs)
        = (Statistics.ofIdioms ps).plus (Statistics.ofIdioms qs)) ∧
      ∀ ps qs : List Idiom, ps.length + qs.length < 2 ^ 64 →
        Statistics.IsSum (Statistics.ofIdioms ps) (Statistics.ofIdioms qs)
          (Statistics.ofIdioms (ps ++ qs)) := by
  have h : around.count < 2 ^ 64 := by decide
  exact ⟨h, statistics_agree h⟩

end Catalog

end CodeIdioms
