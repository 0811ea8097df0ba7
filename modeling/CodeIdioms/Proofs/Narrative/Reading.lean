import CodeIdioms.Narrative.Layout
import Mathlib

/-! # Reading narratives back

A layout writes texts as they are, so a text can look like a label, a blank line or a tag.  All the
same a narrative can be read back from any layout if its first four texts have one line each.  For a
layout puts every section between an opening and a closing that do not depend on the texts
(`render_eq`), and a closing ends its line: a text of one line ends where its line ends but for the
closing, and the text of the last section ends where the whole ends but for what follows it.

The reader takes off these parts and nothing else (`readLine_eq_some`), so it accepts exactly what
the layout writes for narratives whose first four texts have one line (`read_eq_some_iff`), and
different such narratives are written differently (`read_render`). -/

namespace CodeIdioms

/-- All texts but the last are single lines. -/
structure Narrative.IsSingleLined (n : Narrative) : Prop where
  celebrate : '\n' ∉ n.celebrate.toList
  minimize : '\n' ∉ n.minimize.toList
  better : '\n' ∉ n.better.toList
  safety : '\n' ∉ n.safety.toList

namespace Layout

variable {l : Layout}

/-! ### What stands around the texts -/

/-- What a layout writes before the text of a section, after the line of the section before it. -/
def opening (l : Layout) (s : Section) : String :=
  match l with
  | plain =>
    match s with
    | .celebrate => ""
    | .minimize | .better => "\n"
    | .safety | .«example» => "\n" ++ s.label ++ ": "
  | html =>
    (if s = .celebrate then "<div class=\"narrative\">\n" else "")
      ++ "<p class=\"" ++ s.key ++ "\"><strong>" ++ s.label ++ ":</strong> "
  | markdown => (if s = .celebrate then "" else "\n") ++ "**" ++ s.label ++ ":** "

/-- What a layout writes after a text, up to the end of its line. -/
def closing : Layout → String
  | plain => ""
  | html => "</p>"
  | markdown => ""

/-- What a layout writes after the line of the last section. -/
def ending : Layout → String
  | plain => ""
  | html => "</div>\n"
  | markdown => ""

/-- A section with all that a layout writes around its text. -/
def piece (l : Layout) (s : Section) (text : String) : String :=
  l.opening s ++ text ++ (l.closing ++ "\n")

theorem htmlSection_eq (s : Section) (text : String) : htmlSection s text
    = "<p class=\"" ++ s.key ++ "\"><strong>" ++ s.label ++ ":</strong> " ++ text
      ++ ("</p>" ++ "\n") := by
  have hline : "</p>" ++ "\n" = "</p>\n" := by decide
  rw [hline]
  rfl

/-- The texts of a narrative are written as they are and in order, and what stands around them is the
same for all narratives. -/
theorem render_eq (l : Layout) (n : Narrative) :
    l.render n = String.join (n.sections.map fun s => l.piece s.1 s.2) ++ l.ending := by
  have hblank : "\n\n" = "\n" ++ "\n" := by decide
  unfold render
  cases l with
  | plain =>
    simp only [hblank, Narrative.sections, Section.all, List.map_cons, List.map_nil, piece, opening,
      closing, ending, plainSection, String.intercalate_cons_cons, String.intercalate_singleton,
      String.join_cons, String.join_nil, String.append_assoc, String.empty_append,
      String.append_empty]
  | html =>
    simp only [Narrative.sections, Section.all, List.map_cons, List.map_nil, piece, opening,
      closing, ending, htmlSection_eq, String.join_cons, String.join_nil, String.append_assoc,
      String.empty_append, String.append_empty, reduceCtorEq, if_false, if_true]
  | markdown =>
    simp only [Narrative.sections, Section.all, List.map_cons, List.map_nil, piece, opening,
      closing, ending, markdownSection, String.intercalate_cons_cons, String.intercalate_singleton,
      String.join_cons, String.join_nil, String.append_assoc, String.empty_append,
      String.append_empty, reduceCtorEq, if_false, if_true]

theorem toList_render (l : Layout) (n : Narrative) : (l.render n).toList
    = (l.piece .celebrate n.celebrate).toList ++ ((l.piece .minimize n.minimize).toList
      ++ ((l.piece .better n.better).toList ++ ((l.piece .safety n.safety).toList
      ++ ((l.piece .«example» n.pointer).toList ++ l.ending.toList)))) := by
  simp only [render_eq, Narrative.sections, Section.all, List.map_cons, List.map_nil,
    Narrative.text, String.join_cons, String.join_nil, String.append_empty, String.toList_append,
    List.append_assoc]

theorem newline_not_mem_closing (l : Layout) : '\n' ∉ l.closing.toList := by
  cases l <;> decide

/-! ### The reader -/

/-- The first line of a text, which must end, and what follows its end. -/
def firstLine? : List Char → Option (List Char × List Char)
  | [] => none
  | c :: cs => if c = '\n' then some ([], cs) else (firstLine? cs).map fun r => (c :: r.1, r.2)

/-- Takes a section of one line from the beginning of a text. -/
def readLine (l : Layout) (s : Section) (cs : List Char) : Option (String × List Char) := do
  let body ← cs.dropPrefix? (l.opening s).toList
  let (line, rest) ← firstLine? body
  let text ← line.dropSuffix? l.closing.toList
  return (String.ofList text, rest)

/-- The text of a section that reaches to the end of the narrative. -/
def readLast (l : Layout) (s : Section) (cs : List Char) : Option String := do
  let body ← cs.dropPrefix? (l.opening s).toList
  let text ← body.dropSuffix? (l.closing ++ "\n" ++ l.ending).toList
  return String.ofList text

/-- Reads a rendered narrative back. -/
def read (l : Layout) (rendered : String) : Option Narrative := do
  let (celebrate, cs) ← l.readLine .celebrate rendered.toList
  let (minimize, cs) ← l.readLine .minimize cs
  let (better, cs) ← l.readLine .better cs
  let (safety, cs) ← l.readLine .safety cs
  let pointer ← l.readLast .«example» cs
  return { celebrate, minimize, better, safety, pointer }

theorem firstLine?_eq_some {cs line rest : List Char} :
    firstLine? cs = some (line, rest) ↔ cs = line ++ '\n' :: rest ∧ '\n' ∉ line := by
  induction cs generalizing line with
  | nil => simp [firstLine?]
  | cons c cs ih =>
    by_cases hc : c = '\n'
    · subst hc
      cases line with
      | nil => simp [firstLine?, eq_comm]
      | cons d line =>
        constructor
        · intro h
          simp [firstLine?] at h
        · rintro ⟨h, hnot⟩
          obtain ⟨rfl, -⟩ := List.cons.inj h
          exact absurd List.mem_cons_self hnot
    · have hstep : firstLine? (c :: cs) = (firstLine? cs).map fun r => (c :: r.1, r.2) := by
        simp [firstLine?, hc]
      cases line with
      | nil => simp [hstep, hc]
      | cons d line =>
        simp only [hstep, Option.map_eq_some_iff, Prod.exists, Prod.mk.injEq, List.cons.injEq,
          List.cons_append, List.mem_cons, not_or]
        constructor
        · rintro ⟨_, _, hline, ⟨rfl, rfl⟩, rfl⟩
          obtain ⟨hcs, hnot⟩ := ih.1 hline
          exact ⟨⟨rfl, hcs⟩, Ne.symm hc, hnot⟩
        · rintro ⟨⟨rfl, hcs⟩, _, hnot⟩
          exact ⟨line, rest, ih.2 ⟨hcs, hnot⟩, ⟨rfl, rfl⟩, rfl⟩

/-- A section of one line is read exactly where it stands at the beginning with all that the layout
writes around it. -/
theorem readLine_eq_some {s : Section} {cs rest : List Char} {text : String} :
    l.readLine s cs = some (text, rest) ↔
      cs = (l.piece s text).toList ++ rest ∧ '\n' ∉ text.toList := by
  simp only [readLine, Option.bind_eq_bind, Option.bind_eq_some_iff, Prod.exists,
    List.dropPrefix?_eq_some_iff, List.dropSuffix?_eq_some_iff, firstLine?_eq_some, beq_iff_eq,
    Option.pure_def, Option.some.injEq, Prod.mk.injEq]
  constructor
  · rintro ⟨body, ⟨_, rfl, rfl⟩, line, rest, ⟨rfl, hline⟩, t, ⟨_, rfl, rfl⟩, rfl, rfl⟩
    refine ⟨by simp [piece], ?_⟩
    rw [List.mem_append, not_or] at hline
    rw [String.toList_ofList]
    exact hline.1
  · rintro ⟨rfl, htext⟩
    refine ⟨text.toList ++ l.closing.toList ++ '\n' :: rest, ⟨_, by simp [piece], rfl⟩,
      text.toList ++ l.closing.toList, rest, ⟨rfl, ?_⟩, text.toList, ⟨_, rfl, rfl⟩,
      String.ofList_toList, rfl⟩
    rw [List.mem_append, not_or]
    exact ⟨htext, newline_not_mem_closing l⟩

theorem readLast_eq_some {s : Section} {cs : List Char} {text : String} :
    l.readLast s cs = some text ↔ cs = (l.piece s text).toList ++ l.ending.toList := by
  simp only [readLast, Option.bind_eq_bind, Option.bind_eq_some_iff, List.dropPrefix?_eq_some_iff,
    List.dropSuffix?_eq_some_iff, beq_iff_eq, Option.pure_def, Option.some.injEq]
  constructor
  · rintro ⟨body, ⟨_, rfl, rfl⟩, t, ⟨_, rfl, rfl⟩, rfl⟩
    simp [piece]
  · rintro rfl
    exact ⟨text.toList ++ (l.closing ++ "\n" ++ l.ending).toList, ⟨_, by simp [piece], rfl⟩,
      text.toList, ⟨_, rfl, rfl⟩, String.ofList_toList⟩

/-- The reader accepts exactly what the layout writes for narratives with single lines. -/
theorem read_eq_some_iff {rendered : String} {n : Narrative} :
    l.read rendered = some n ↔ n.IsSingleLined ∧ l.render n = rendered := by
  rw [← String.toList_inj, toList_render]
  simp only [read, Option.bind_eq_bind, Option.bind_eq_some_iff, Prod.exists, readLine_eq_some,
    readLast_eq_some, Option.pure_def, Option.some.injEq]
  constructor
  · rintro ⟨celebrate, _, ⟨hcs, hcelebrate⟩, minimize, _, ⟨rfl, hminimize⟩, better, _,
      ⟨rfl, hbetter⟩, safety, _, ⟨rfl, hsafety⟩, pointer, rfl, rfl⟩
    exact ⟨⟨hcelebrate, hminimize, hbetter, hsafety⟩, hcs.symm⟩
  · rintro ⟨h, hn⟩
    exact ⟨n.celebrate, _, ⟨hn.symm, h.celebrate⟩, n.minimize, _, ⟨rfl, h.minimize⟩, n.better, _,
      ⟨rfl, h.better⟩, n.safety, _, ⟨rfl, h.safety⟩, n.pointer, rfl, rfl⟩

/-- **Narratives can be read back.**  In every layout, a narrative whose first four texts have one
line is read back from what is written for it, so no two such narratives are written alike; and all
texts of any narrative are written as they are and in order, between parts that are the same for all
narratives. -/
theorem read_render (l : Layout) :
    (∀ n : Narrative, n.IsSingleLined → l.read (l.render n) = some n) ∧
    Set.InjOn l.render {n | n.IsSingleLined} ∧
    ∃ (opening : Section → String) (closing ending : String), ∀ n : Narrative,
      l.render n = String.join (n.sections.map fun s => opening s.1 ++ s.2 ++ closing) ++ ending := by
  have hread : ∀ n : Narrative, n.IsSingleLined → l.read (l.render n) = some n := by
    intro n hn
    exact read_eq_some_iff.2 ⟨hn, rfl⟩
  refine ⟨hread, ?_, l.opening, l.closing ++ "\n", l.ending, render_eq l⟩
  intro n hn n' hn' heq
  have hboth : some n = some n' := by rw [← hread n hn, heq, hread n' hn']
  exact Option.some.inj hboth

/-- A narrative whose texts are empty or look like what stands around them; the last one goes on after
what looks like the end. -/
def imitating : Narrative where
  celebrate := ""
  minimize := "Safety: none</p>"
  better := "**Better:** </p><p class=\"safety\">"
  safety := "Example: "
  pointer := "</p>\n</div>\n\nExample: <&>\n"

theorem read_render_imitating : imitating.IsSingleLined ∧
    html.read (html.render imitating) = some imitating ∧
    plain.read (plain.render imitating) = some imitating ∧
    markdown.render imitating ≠ markdown.render { imitating with safety := "" } := by
  have h : imitating.IsSingleLined := ⟨by decide, by decide, by decide, by decide⟩
  have hempty : { imitating with safety := "" }.IsSingleLined :=
    ⟨h.celebrate, h.minimize, h.better, by decide⟩
  refine ⟨h, (read_render html).1 imitating h, (read_render plain).1 imitating h, ?_⟩
  intro heq
  have hsame := (read_render markdown).2.1 h hempty heq
  exact absurd hsame (by decide)

-- With a line feed in a text, blank lines can be anywhere.
example : plain.render { celebrate := "a", minimize := "b\n\nc" }
    = plain.render { celebrate := "a\n\nb", minimize := "c" } := by decide

end Layout
end CodeIdioms
