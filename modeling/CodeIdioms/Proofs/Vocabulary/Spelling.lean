import CodeIdioms.Proofs.Text.Trimming
import CodeIdioms.Vocabulary.Category
import CodeIdioms.Vocabulary.Concept
import CodeIdioms.Vocabulary.Difficulty
import Mathlib

/-! # Spellings of names

A text spells a name if its letters are those of the name: once the blanks at its ends are gone,
neither separators nor ASCII case count (`Spells`).  No two names have the same letters, so a text
spells at most one of them, and looking for it finds it (`ofSpelling?_eq_some`).  The names of
levels and concepts are nothing but letters, so they may as well be compared as they are
(`ofPlainSpelling?_eq`).

Where spaces are the only blanks, trimming takes away nothing but separators, so separators may be
put in and left out anywhere (`normalizeName_eq_of_respelled`).  All of it is `readsSpellings`. -/

namespace CodeIdioms

open Text Vocabulary

/-! ### Letters -/

/-- The characters that do not count. -/
def separators : List Char := ['_', '-', ' ']

/-- The letters of a text: all characters but separators, those of ASCII in lower case. -/
def letters (cs : List Char) : List Char := (cs.filter (· ∉ separators)).map Char.toLower

/-- A text spells a name: between the blanks at its ends, its letters are the name without
underscores. -/
def Spells (s name : String) : Prop :=
  ∃ core, Trims s.toList core ∧ letters core = name.toList.filter (· ≠ '_')

/-- One text comes from another by separators put in and left out at any places, and by the case of
ASCII letters. -/
inductive Respelled : List Char → List Char → Prop
  | nil : Respelled [] []
  | insert {c : Char} {cs ds : List Char} (separator : c ∈ separators) (rest : Respelled cs ds) :
      Respelled cs (c :: ds)
  | delete {c : Char} {cs ds : List Char} (separator : c ∈ separators) (rest : Respelled cs ds) :
      Respelled (c :: cs) ds
  | keep {c d : Char} {cs ds : List Char} (lower : c.toLower = d.toLower) (rest : Respelled cs ds) :
      Respelled (c :: cs) (d :: ds)

/-- A text in which all blanks are spaces. -/
def HasOnlySpaces (s : String) : Prop := ∀ c ∈ s.toList, isBlank c = true → c = ' '

instance (s : String) : Decidable (HasOnlySpaces s) :=
  decidable_of_iff ((s.toList.all fun c => !isBlank c || c == ' ') = true) <| by
    simp [HasOnlySpaces, imp_iff_not_or]

theorem isNameSeparator_eq (c : Char) : isNameSeparator c = decide (c ∈ separators) := by
  rw [Bool.eq_iff_iff]
  simp [isNameSeparator, separators, or_assoc]

theorem toList_normalizeName (s : String) :
    (normalizeName s).toList = letters (trimChars s.toList) := by
  unfold normalizeName letters
  rw [String.toList_ofList]
  simp only [isNameSeparator_eq, decide_not]

theorem letters_append (cs ds : List Char) : letters (cs ++ ds) = letters cs ++ letters ds := by
  unfold letters
  rw [List.filter_append, List.map_append]

theorem letters_eq_nil {cs : List Char} (h : ∀ c ∈ cs, c ∈ separators) : letters cs = [] := by
  unfold letters
  rw [List.map_eq_nil_iff, List.filter_eq_nil_iff]
  exact fun c hc => by simp [h c hc]

/-- Separators have no case, and no other character is one in lower case. -/
theorem toLower_mem_separators (c : Char) : c.toLower ∈ separators ↔ c ∈ separators := by
  by_cases h : c.isUpper = true
  · have halpha : c.isAlpha = true := by simp [Char.isAlpha, h]
    have hlower : c.toLower.isAlpha = true := by rwa [Char.isAlpha_toLower_eq_isAlpha]
    have hnot : ∀ d ∈ separators, d.isAlpha ≠ true := by simp [separators]
    exact iff_of_false (fun hmem => hnot _ hmem hlower) fun hmem => hnot c hmem halpha
  · rw [Char.toLower_eq_of_not_isUpper h]

theorem letters_cons (c : Char) (cs : List Char) :
    letters (c :: cs) = if c ∈ separators then letters cs else c.toLower :: letters cs := by
  unfold letters
  rw [List.filter_cons]
  by_cases h : c ∈ separators <;> simp [h]

/-- Texts come from each other by respelling if and only if they have the same letters. -/
theorem respelled_iff {cs ds : List Char} : Respelled cs ds ↔ letters cs = letters ds := by
  constructor
  · intro h
    induction h with
    | nil => rfl
    | insert separator _ ih => rw [letters_cons, if_pos separator, ih]
    | delete separator _ ih => rw [letters_cons, if_pos separator, ih]
    | @keep c d _ _ lower _ ih =>
      have hseparator : c ∈ separators ↔ d ∈ separators := by
        rw [← toLower_mem_separators c, lower, toLower_mem_separators]
      rw [letters_cons, letters_cons, lower, ih]
      simp only [hseparator]
  · intro h
    induction cs generalizing ds with
    | nil =>
      induction ds with
      | nil => exact .nil
      | cons d ds ihd =>
        rw [letters_cons] at h
        split at h
        · next hd => exact .insert hd (ihd h)
        · cases h
    | cons c cs ih =>
      rw [letters_cons] at h
      split at h
      · next hc => exact .delete hc (ih h)
      · next hc =>
        -- separators of the other text come before the letter
        induction ds with
        | nil => cases h
        | cons d ds ihd =>
          rw [letters_cons] at h
          split at h
          · next hd => exact .insert hd (ihd h)
          · obtain ⟨hlower, hrest⟩ := List.cons.inj h
            exact .keep hlower (ih hrest)

instance (cs ds : List Char) : Decidable (Respelled cs ds) := decidable_of_iff _ respelled_iff.symm

/-- Where spaces are the only blanks, trimming does not change the letters. -/
theorem letters_trimChars {s : String} (h : HasOnlySpaces s) :
    letters (trimChars s.toList) = letters s.toList := by
  obtain ⟨before, after, hs, hbefore, hafter⟩ := (trims_trimChars s.toList).split
  have hspaces : ∀ c ∈ s.toList, isBlank c = true → c ∈ separators := by
    intro c hc hblank
    rw [h c hc hblank]
    decide
  have hbefore' : letters before = [] := by
    refine letters_eq_nil fun c hc => hspaces c ?_ (hbefore c hc)
    rw [hs]
    simp [hc]
  have hafter' : letters after = [] := by
    refine letters_eq_nil fun c hc => hspaces c ?_ (hafter c hc)
    rw [hs]
    simp [hc]
  conv_rhs =>
    rw [hs, letters_append, letters_append, hbefore', hafter', List.nil_append, List.append_nil]

theorem normalizeName_eq_of_respelled {s t : String} (hs : HasOnlySpaces s) (ht : HasOnlySpaces t)
    (h : Respelled s.toList t.toList) : normalizeName s = normalizeName t := by
  rw [← String.toList_inj, toList_normalizeName, toList_normalizeName, letters_trimChars hs,
    letters_trimChars ht, respelled_iff.1 h]

/-! ### Looking for names -/

/-- A text spells a name if it has the letters of the name once it is trimmed. -/
theorem spells_iff_letters {s name : String} :
    Spells s name ↔ letters (trimChars s.toList) = name.toList.filter (· ≠ '_') := by
  unfold Spells
  simp only [← trimChars_eq_iff, exists_eq_left']

/-- Names that are told apart by their letters, which are the name without underscores; a label has
the letters of its name. -/
structure Vocabulary.Legible (α : Type) [Vocabulary α] : Prop where
  mem_all (x : α) : x ∈ (all : List α)
  name_letters (x : α) : letters (trimChars (name x).toList) = (name x).toList.filter (· ≠ '_')
  distinct : ((all : List α).map fun x => (name x).toList.filter (· ≠ '_')).Nodup
  label_letters (x : α) : letters (trimChars (label x).toList) = (name x).toList.filter (· ≠ '_')

theorem Category.legible : Legible Category where
  mem_all := Category.mem_all
  name_letters c := by cases c <;> decide
  distinct := by decide +kernel
  label_letters c := by cases c <;> decide

theorem Difficulty.legible : Legible Difficulty where
  mem_all := Difficulty.mem_all
  name_letters d := by cases d <;> decide
  distinct := by decide
  label_letters d := by cases d <;> decide

theorem Concept.legible : Legible Concept where
  mem_all := Concept.mem_all
  name_letters c := by cases c <;> decide
  distinct := by decide
  label_letters c := by cases c <;> decide

section
variable {α : Type} [Vocabulary α] {s : String} {x : α}

theorem Vocabulary.Legible.eq_of_normalizeName_eq (h : Legible α) {y : α}
    (heq : normalizeName (name x) = normalizeName (name y)) : x = y := by
  rw [← String.toList_inj, toList_normalizeName, toList_normalizeName, h.name_letters,
    h.name_letters] at heq
  exact List.inj_on_of_nodup_map h.distinct (h.mem_all x) (h.mem_all y) heq

theorem spells_iff (h : Legible α) :
    Spells s (name x) ↔ normalizeName s = normalizeName (name x) := by
  rw [← String.toList_inj, toList_normalizeName, toList_normalizeName, h.name_letters,
    spells_iff_letters]

theorem ofSpelling?_eq_some (h : Legible α) : ofSpelling? s = some x ↔ Spells s (name x) := by
  rw [spells_iff h]
  constructor
  · intro hfind
    exact (beq_iff_eq.1 (List.find?_some hfind :)).symm
  · intro heq
    obtain ⟨y, hy⟩ : ∃ y : α, ofSpelling? s = some y := by
      refine Option.isSome_iff_exists.1 (List.find?_isSome.2 ⟨x, h.mem_all x, ?_⟩)
      exact beq_iff_eq.2 heq.symm
    have heq' : normalizeName (name y) = normalizeName s := beq_iff_eq.1 (List.find?_some hy :)
    rw [hy, h.eq_of_normalizeName_eq (heq'.trans heq)]

/-- Names that are their own compared forms may be compared as they are. -/
theorem ofPlainSpelling?_eq (h : ∀ y : α, normalizeName (name y) = name y) :
    (ofPlainSpelling? s : Option α) = ofSpelling? s := by
  unfold ofPlainSpelling? ofSpelling?
  simp only [h]

end

/-! ### Reading names -/

/-- A reader of names takes what spells a name for the value with that name, and hands back anything
else; names and labels are read as their values, and respelling makes no difference where spaces are
the only blanks. -/
structure ReadsSpellings {α : Type} [Vocabulary α] (read : String → Except NameError α)
    (unknown : String → NameError) : Prop where
  ok_iff (s : String) (x : α) : read s = .ok x ↔ Spells s (name x)
  unique (s : String) (x y : α) (hx : Spells s (name x)) (hy : Spells s (name y)) : x = y
  error_iff (s : String) (e : NameError) :
    read s = .error e ↔ (∀ x : α, ¬ Spells s (name x)) ∧ e = unknown s
  read_name (x : α) : read (name x) = .ok x
  read_label (x : α) : read (label x) = .ok x
  respelled (s t : String) (hs : HasOnlySpaces s) (ht : HasOnlySpaces t)
    (h : Respelled s.toList t.toList) (x : α) : read s = .ok x ↔ read t = .ok x

theorem readsSpellings_of_legible {α : Type} [Vocabulary α] {read : String → Except NameError α}
    {unknown : String → NameError} (h : Legible α)
    (hread : ∀ s, read s = (ofSpelling? s).elim (.error (unknown s)) .ok) :
    ReadsSpellings read unknown := by
  have hok (s : String) (x : α) : read s = .ok x ↔ Spells s (name x) := by
    rw [hread, ← ofSpelling?_eq_some h]
    cases (ofSpelling? s : Option α) <;> simp
  constructor
  case ok_iff => exact hok
  case unique =>
    intro s x y hx hy
    exact h.eq_of_normalizeName_eq (((spells_iff h).1 hx).symm.trans ((spells_iff h).1 hy))
  case error_iff =>
    intro s e
    simp only [← ofSpelling?_eq_some h]
    rw [hread]
    cases (ofSpelling? s : Option α) with
    | none => simp [eq_comm]
    | some x => simp
  case read_name =>
    intro x
    exact (hok _ x).2 (spells_iff_letters.2 (h.name_letters x))
  case read_label =>
    intro x
    exact (hok _ x).2 (spells_iff_letters.2 (h.label_letters x))
  case respelled =>
    intro s t hs ht hst x
    rw [hok, hok, spells_iff h, spells_iff h, normalizeName_eq_of_respelled hs ht hst]

/-- **Reading names.**  A category, level or concept is read from exactly the texts that spell its
name. -/
theorem readsSpellings :
    ReadsSpellings Category.ofSpelling .unknownCategory ∧
      ReadsSpellings Difficulty.ofSpelling .unknownDifficulty ∧
      ReadsSpellings Concept.ofSpelling .unknownConcept := by
  refine ⟨readsSpellings_of_legible Category.legible fun s => ?_,
    readsSpellings_of_legible Difficulty.legible fun s => ?_,
    readsSpellings_of_legible Concept.legible fun s => ?_⟩
  · unfold Category.ofSpelling
    cases (Vocabulary.ofSpelling? s : Option Category) <;> rfl
  · have hplain : ∀ d : Difficulty, normalizeName (name d) = name d := by
      intro d
      cases d <;> decide
    unfold Difficulty.ofSpelling
    rw [ofPlainSpelling?_eq hplain]
    cases (Vocabulary.ofSpelling? s : Option Difficulty) <;> rfl
  · have hplain : ∀ c : Concept, normalizeName (name c) = name c := by
      intro c
      cases c <;> decide
    unfold Concept.ofSpelling
    rw [ofPlainSpelling?_eq hplain]
    cases (Vocabulary.ofSpelling? s : Option Concept) <;> rfl

/-- A level in capitals with separators here and there, and a text in which a separator hides a
blank that is no space. -/
theorem readsSpellings_scattered :
    Difficulty.ofSpelling "_INTER mediate-" = .ok .intermediate ∧
      ∀ c : Category, ¬ Spells "-\tasync" c.name := by
  obtain ⟨hcategory, hdifficulty, -⟩ := readsSpellings
  have hplain : HasOnlySpaces Difficulty.intermediate.name := by decide
  have hscattered : HasOnlySpaces "_INTER mediate-" := by decide
  have hrespelled : Respelled Difficulty.intermediate.name.toList "_INTER mediate-".toList := by
    decide
  have hrefused : Category.ofSpelling "-\tasync" = .error (.unknownCategory "-\tasync") := by decide
  exact ⟨(hdifficulty.respelled _ _ hplain hscattered hrespelled _).1 (hdifficulty.read_name _),
    ((hcategory.error_iff _ _).1 hrefused).1⟩

end CodeIdioms
