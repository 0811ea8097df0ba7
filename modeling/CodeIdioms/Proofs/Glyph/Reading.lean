import CodeIdioms.Glyph.Registry
import CodeIdioms.Proofs.Narrative.Reading
import Mathlib.Data.Set.Function

/-! # Reading annotated code

Code under a line of symbols can be told apart from the line, whatever the code contains, since the
line ends at the first line feed of the text (`divide?_annotate`).  The line splits into the symbols
again, with one exception: the line of no symbols is that of one empty symbol
(`splitLine_intercalate`).  So what can be read back is exactly what has been written with at least
one symbol, and with no space and no line feed in any (`readAnnotated?_eq_some_iff`). -/

namespace CodeIdioms.Registry

/-- A text divided at its first line feed. -/
def divide? (text : String) : Option (String × String) :=
  (Layout.firstLine? text.toList).map fun r => (String.ofList r.1, String.ofList r.2)

/-- A line split at its spaces. -/
def splitLine (line : String) : List String := (line.split ' ').toList.map String.Slice.copy

/-- Reads the code and the symbols of annotated code. -/
def readAnnotated? (text : String) : Option (String × List String) :=
  (divide? text).map fun x => (x.2, splitLine x.1)

/-- Symbols that a line splits into: at least one, none with a line feed or a space. -/
structure IsLegible (symbols : List String) : Prop where
  ne_nil : symbols ≠ []
  newline_not_mem : ∀ s ∈ symbols, '\n' ∉ s.toList
  space_not_mem : ∀ s ∈ symbols, ' ' ∉ s.toList

/-! ### The first line -/

theorem divide?_eq_some {text line code : String} :
    divide? text = some (line, code) ↔ text = line ++ "\n" ++ code ∧ '\n' ∉ line.toList := by
  unfold divide?
  simp only [Option.map_eq_some_iff, Prod.exists, Layout.firstLine?_eq_some, Prod.mk.injEq]
  constructor
  · rintro ⟨cs, rest, ⟨htext, hline⟩, rfl, rfl⟩
    refine ⟨?_, by rwa [String.toList_ofList]⟩
    rw [← String.toList_inj, htext]
    simp
  · rintro ⟨rfl, hline⟩
    exact ⟨line.toList, code.toList, ⟨by simp, hline⟩, String.ofList_toList, String.ofList_toList⟩

/-- The characters of a line, spaces apart, are those of its symbols. -/
theorem mem_intercalate_iff {c : Char} (hc : c ≠ ' ') {symbols : List String} :
    c ∈ (" ".intercalate symbols).toList ↔ ∃ s ∈ symbols, c ∈ s.toList := by
  induction symbols with
  | nil => simp
  | cons s symbols ih =>
    cases symbols with
    | nil => simp
    | cons s' symbols =>
      rw [String.intercalate_cons_cons, String.toList_append, String.toList_append, List.mem_append,
        List.mem_append, ih, List.exists_mem_cons_iff]
      simp [hc]

theorem divide?_annotate (code : String) {symbols : List String}
    (h : ∀ s ∈ symbols, '\n' ∉ s.toList) :
    divide? (annotate code symbols) = some (" ".intercalate symbols, code) := by
  rw [divide?_eq_some]
  refine ⟨rfl, ?_⟩
  rw [mem_intercalate_iff (by decide)]
  rintro ⟨s, hs, hmem⟩
  exact h s hs hmem

/-! ### The symbols -/

theorem splitLine_eq (line : String) :
    splitLine line = (line.toList.splitOn ' ').map String.ofList := String.toList_split_char

theorem splitLine_intercalate {symbols : List String} (hne : symbols ≠ [])
    (h : ∀ s ∈ symbols, ' ' ∉ s.toList) : splitLine (" ".intercalate symbols) = symbols := by
  have hparts : ∀ cs ∈ symbols.map String.toList, ' ' ∉ cs := by
    intro cs hcs
    obtain ⟨s, hs, rfl⟩ := List.mem_map.1 hcs
    exact h s hs
  have hsplit := List.splitOn_intercalate ' ' hparts (by simpa using hne)
  rw [splitLine_eq, String.toList_intercalate]
  calc ((" ".toList.intercalate (symbols.map String.toList)).splitOn ' ').map String.ofList
      = (symbols.map String.toList).map String.ofList := congrArg _ hsplit
    _ = symbols := by simp [Function.comp_def]

theorem intercalate_splitLine (line : String) : " ".intercalate (splitLine line) = line := by
  rw [← String.toList_inj, splitLine_eq, String.toList_intercalate, List.map_map]
  have hparts : (line.toList.splitOn ' ').map (String.toList ∘ String.ofList)
      = line.toList.splitOn ' ' := by simp [Function.comp_def]
  rw [hparts]
  exact List.intercalate_splitOn ' '

/-- What lies between the places of a character does not contain it. -/
theorem not_mem_of_mem_splitOn {c : Char} {cs part : List Char} (h : part ∈ cs.splitOn c) :
    c ∉ part := by
  induction cs generalizing part with
  | nil =>
    rw [List.splitOn_nil, List.mem_singleton] at h
    simp [h]
  | cons d cs ih =>
    rw [List.splitOn_cons_eq_if_modifyHead] at h
    obtain ⟨first, parts, hparts⟩ := List.exists_cons_of_ne_nil (List.splitOn_ne_nil c cs)
    by_cases hd : d = c
    · rw [if_pos (beq_iff_eq.2 hd), List.mem_cons] at h
      obtain rfl | h := h
      · exact List.not_mem_nil
      · exact ih h
    · rw [if_neg (by simpa using hd), hparts, List.modifyHead_cons, List.mem_cons] at h
      rw [hparts] at ih
      obtain rfl | h := h
      · have hfirst := ih List.mem_cons_self
        simp [Ne.symm hd, hfirst]
      · exact ih (List.mem_cons_of_mem first h)

theorem isLegible_splitLine {line : String} (h : '\n' ∉ line.toList) : IsLegible (splitLine line) where
  ne_nil := by
    rw [splitLine_eq]
    simp
  newline_not_mem := by
    intro s hs hmem
    apply h
    rw [← intercalate_splitLine line, mem_intercalate_iff (by decide)]
    exact ⟨s, hs, hmem⟩
  space_not_mem := by
    intro s hs
    rw [splitLine_eq] at hs
    obtain ⟨part, hpart, rfl⟩ := List.mem_map.1 hs
    rw [String.toList_ofList]
    exact not_mem_of_mem_splitOn hpart

/-! ### Code and symbols -/

/-- The reader accepts exactly what is written for legible symbols. -/
theorem readAnnotated?_eq_some_iff {text code : String} {symbols : List String} :
    readAnnotated? text = some (code, symbols) ↔
      IsLegible symbols ∧ annotate code symbols = text := by
  unfold readAnnotated?
  simp only [Option.map_eq_some_iff, Prod.exists, divide?_eq_some, Prod.mk.injEq]
  constructor
  · rintro ⟨line, rest, ⟨rfl, hline⟩, rfl, rfl⟩
    refine ⟨isLegible_splitLine hline, ?_⟩
    rw [annotate, intercalate_splitLine]
  · rintro ⟨h, rfl⟩
    obtain ⟨htext, hline⟩ := divide?_eq_some.1 (divide?_annotate code h.newline_not_mem)
    exact ⟨_, code, ⟨htext, hline⟩, rfl, splitLine_intercalate h.ne_nil h.space_not_mem⟩

/-- **Annotation is reversible.**  Under a line of symbols without line feeds stands the code as it
is; the line splits into the symbols if there are any and none has a space in it; and two annotated
texts with such symbols are the same only if code and symbols are. -/
theorem annotate_reversible :
    (∀ (code : String) (symbols : List String), (∀ s ∈ symbols, '\n' ∉ s.toList) →
      divide? (annotate code symbols) = some (" ".intercalate symbols, code)) ∧
    (∀ symbols : List String, IsLegible symbols →
      splitLine (" ".intercalate symbols) = symbols) ∧
    (∀ (text code : String) (symbols : List String), readAnnotated? text = some (code, symbols) ↔
      IsLegible symbols ∧ annotate code symbols = text) ∧
    Set.InjOn (fun x : String × List String => annotate x.1 x.2) {x | IsLegible x.2} := by
  refine ⟨fun code symbols h => divide?_annotate code h,
    fun symbols h => splitLine_intercalate h.ne_nil h.space_not_mem,
    fun text code symbols => readAnnotated?_eq_some_iff, ?_⟩
  intro x hx y hy heq
  have hread : readAnnotated? (annotate y.1 y.2) = some x := readAnnotated?_eq_some_iff.2 ⟨hx, heq⟩
  have hboth : readAnnotated? (annotate y.1 y.2) = some y := readAnnotated?_eq_some_iff.2 ⟨hy, rfl⟩
  exact Option.some.inj (hread.symm.trans hboth)

-- The line of no symbols is that of one empty symbol.
example : annotate "x" [] = annotate "x" [""] := by decide

/-- Code with line feeds, spaces and a symbol, and symbols two of which are empty. -/
def sparse : String × List String := ("a b\n\n⟨⟩ c", ["", "⟨⟩", ""])

theorem annotate_reversible_sparse : IsLegible sparse.2 ∧
    annotate sparse.1 sparse.2 = " ⟨⟩ \na b\n\n⟨⟩ c" ∧
    divide? " ⟨⟩ \na b\n\n⟨⟩ c" = some (" ⟨⟩ ", "a b\n\n⟨⟩ c") ∧
    splitLine " ⟨⟩ " = sparse.2 ∧
    readAnnotated? " ⟨⟩ \na b\n\n⟨⟩ c" = some sparse := by
  have h : IsLegible sparse.2 := ⟨by decide, by decide, by decide⟩
  have htext : annotate sparse.1 sparse.2 = " ⟨⟩ \na b\n\n⟨⟩ c" := by decide
  obtain ⟨hdivide, hsplit, hread, -⟩ := annotate_reversible
  refine ⟨h, htext, ?_, hsplit sparse.2 h, (hread _ _ _).2 ⟨h, htext⟩⟩
  rw [← htext]
  exact hdivide sparse.1 sparse.2 h.newline_not_mem

end CodeIdioms.Registry
