import CodeIdioms.CommandLine.Listing
import CodeIdioms.Proofs.Detection.Independence
import Mathlib.Data.List.Basic

/-! # The list of a catalog

The command that lists a catalog tests every idiom against all filters at once.  The catalog itself
has a list for every single filter, and what is shown are the idioms that are in each of these lists
for a filter that is given (`IsListing`), in catalog order.  There is one such listing
(`IsListing.unique`).

Every idiom of the listing has a row that shows its id, category, difficulty and name
(`isRow_idiomRow`).  The line for an empty listing is shorter than every row, so no row is mistaken for
it (`idiomRow_ne_nothingListed`). -/

namespace CodeIdioms.CommandLine

/-! ### Listings -/

/-- A listing of a catalog with filters: the idioms that are, for every filter that is given, in the
list that the catalog has for that filter; in catalog order, and each once. -/
structure IsListing (c : Catalog) (o : ListOptions) (ps : List Idiom) : Prop where
  mem_iff (p : Idiom) : p ∈ ps ↔ p ∈ c.idioms ∧ (∀ k ∈ o.category, p ∈ c.ofCategory k) ∧
    (∀ d ∈ o.difficulty, p ∈ c.ofDifficulty d) ∧ ∀ t ∈ o.tag, p ∈ c.ofTag t
  sublist : ps.Sublist c.idioms
  nodup_ids : (ps.map (·.id)).Nodup

theorem IsListing.unique {c : Catalog} {o : ListOptions} {ps qs : List Idiom}
    (h : IsListing c o ps) (h' : IsListing c o qs) : ps = qs := by
  have hmem : ∀ p, p ∈ ps ↔ p ∈ qs := fun p => (h.mem_iff p).trans (h'.mem_iff p).symm
  have hids : ∀ id, id ∈ ps.map (·.id) ↔ id ∈ qs.map (·.id) := by
    intro id
    simp only [List.mem_map, hmem]
  -- both are what the catalog keeps of the same ids
  calc ps = c.idioms.filter (fun p => decide (p.id ∈ ps.map (·.id))) :=
        (Catalog.filter_ids_of_sublist h.sublist c.distinct).symm
    _ = c.idioms.filter (fun p => decide (p.id ∈ qs.map (·.id))) := by simp only [hids]
    _ = qs := Catalog.filter_ids_of_sublist h'.sublist c.distinct

theorem admits_iff {o : ListOptions} {p : Idiom} : o.admits p = true ↔
    (∀ k ∈ o.category, k = p.category) ∧ (∀ d ∈ o.difficulty, d = p.difficulty) ∧
      ∀ t ∈ o.tag, p.hasTag t = true := by
  unfold ListOptions.admits
  simp only [Bool.and_eq_true, Option.all_eq_true, beq_iff_eq, Option.mem_def, and_assoc]

/-- What passes all filters at once is in the list of each. -/
theorem isListing_filter (c : Catalog) (o : ListOptions) :
    IsListing c o (c.idioms.filter o.admits) where
  mem_iff p := by
    rw [List.mem_filter, admits_iff]
    unfold Catalog.ofCategory Catalog.ofDifficulty Catalog.ofTag
    simp only [List.mem_filter, beq_iff_eq]
    constructor
    · rintro ⟨hp, hcategory, hdifficulty, htag⟩
      exact ⟨hp, fun k hk => ⟨hp, (hcategory k hk).symm⟩, fun d hd => ⟨hp, (hdifficulty d hd).symm⟩,
        fun t ht => ⟨hp, htag t ht⟩⟩
    · rintro ⟨hp, hcategory, hdifficulty, htag⟩
      exact ⟨hp, fun k hk => (hcategory k hk).2.symm, fun d hd => (hdifficulty d hd).2.symm,
        fun t ht => (htag t ht).2⟩
  sublist := List.filter_sublist
  nodup_ids := c.distinct.sublist (List.filter_sublist.map _)

/-! ### Rows -/

/-- A number of spaces. -/
def spaces (n : Nat) : String := String.ofList (List.replicate n ' ')

/-- A row shows an idiom: its id, category, difficulty and name, with spaces between them. -/
def IsRow (p : Idiom) (row : String) : Prop :=
  ∃ k m n : Nat, row = p.id ++ spaces (k + 1) ++ p.category.name ++ spaces (m + 1) ++
    p.difficulty.name ++ spaces (n + 1) ++ p.name

theorem padRight_append_space (width : Nat) (s : String) :
    Text.padRight width s ++ " " = s ++ spaces (width - s.length + 1) := by
  have hspaces (n : Nat) : spaces n ++ " " = spaces (n + 1) := by
    rw [← String.toList_inj]
    simp [spaces, List.replicate_succ']
  unfold Text.padRight
  rw [String.append_assoc]
  exact congrArg (s ++ ·) (hspaces _)

theorem isRow_idiomRow (p : Idiom) : IsRow p (idiomRow p) := by
  refine ⟨22 - p.id.length, 26 - p.category.name.length, 13 - p.difficulty.name.length, ?_⟩
  calc idiomRow p
      = (Text.padRight 22 p.id ++ " ") ++ ((Text.padRight 26 p.category.name ++ " ")
          ++ ((Text.padRight 13 p.difficulty.name ++ " ") ++ p.name)) := by
        simp only [idiomRow, String.append_assoc]
    _ = _ := by simp only [padRight_append_space, String.append_assoc]

theorem length_padRight (width : Nat) (s : String) :
    (Text.padRight width s).length = max width s.length := by
  unfold Text.padRight
  rw [String.length_append, String.length_ofList, List.length_replicate]
  omega

/-- A row has four columns, three of which are as wide as they can be at least. -/
theorem idiomRow_ne_nothingListed (p : Idiom) : idiomRow p ≠ nothingListed := by
  intro h
  have hlength := congrArg String.length h
  have hnothing : nothingListed.length = 36 := by decide
  unfold idiomRow at hlength
  simp only [String.length_append, length_padRight, hnothing] at hlength
  omega

/-! ### Lines -/

/-- The lines that are printed for some idioms: a row for each of them, or the line that there are
none, which is printed in no other case. -/
structure AreLinesOf (ps : List Idiom) (lines : List String) : Prop where
  rows : ps ≠ [] → lines = ps.map idiomRow
  nothing : ps = [] → lines = [nothingListed]
  nothing_iff : nothingListed ∈ lines ↔ ps = []

theorem areLinesOf_listLines (c : Catalog) (o : ListOptions) :
    AreLinesOf (c.idioms.filter o.admits) (listLines c o) := by
  unfold listLines
  cases c.idioms.filter o.admits with
  | nil => exact ⟨fun hne => absurd rfl hne, fun _ => rfl, by simp⟩
  | cons p ps =>
    have hrows : nothingListed ∉ (p :: ps).map idiomRow := by
      intro h
      obtain ⟨q, _, hq⟩ := List.mem_map.1 h
      exact idiomRow_ne_nothingListed q hq
    exact ⟨fun _ => rfl, nofun, iff_of_false hrows (by simp)⟩

/-- **Filters intersect.**  With any filters, the command prints the rows of the one listing of the
catalog with these filters, in catalog order; if the listing is empty, and only then, it prints the
line that nothing is listed. -/
theorem runList_lists (g : Engine) (o : ListOptions) :
    ∃ ps lines, IsListing g.catalog o ps ∧ (∀ qs, IsListing g.catalog o qs → qs = ps) ∧
      (runList g o).result = (.ok (), { output := String.join (lines.map (· ++ "\n")) }) ∧
      AreLinesOf ps lines ∧ ∀ p, IsRow p (idiomRow p) := by
  have hlisting := isListing_filter g.catalog o
  have hlines := areLinesOf_listLines g.catalog o
  refine ⟨_, listLines g.catalog o, hlisting, ?_, ?_, hlines, isRow_idiomRow⟩
  · intro qs hqs
    exact hqs.unique hlisting
  · rfl

end CodeIdioms.CommandLine
