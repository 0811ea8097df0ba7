import CodeIdioms.Narrative.Basic

/-! # Layouts of narratives

A narrative is rendered as plain text, as HTML or as Markdown.  Every layout writes the sections
in order and their texts unchanged: narratives quote code, and each text is to be found literally
in the output. -/

namespace CodeIdioms

/-- The layouts of a narrative. -/
inductive Layout where
  | plain
  | html
  | markdown
deriving DecidableEq, Repr

namespace Layout

/-- The layout that a selector names; every other selector means Markdown. -/
def ofSelector (selector : String) : Layout :=
  if selector = "plain" then plain else if selector = "html" then html else markdown

/-- The name of a layout. -/
def name : Layout → String
  | plain => "plain"
  | html => "html"
  | markdown => "markdown"

/-- A section in plain text; only the last two are labelled. -/
def plainSection (s : Section) (text : String) : String :=
  match s with
  | .safety | .«example» => s.label ++ ": " ++ text
  | .celebrate | .minimize | .better => text

/-- A section as a paragraph of HTML. -/
def htmlSection (s : Section) (text : String) : String :=
  "<p class=\"" ++ s.key ++ "\"><strong>" ++ s.label ++ ":</strong> " ++ text ++ "</p>\n"

/-- A section as a line of Markdown. -/
def markdownSection (s : Section) (text : String) : String :=
  "**" ++ s.label ++ ":** " ++ text ++ "\n"

/-- The text of a narrative in a layout. -/
def render (l : Layout) (n : Narrative) : String :=
  match l with
  | plain => "\n\n".intercalate (n.sections.map fun s => plainSection s.1 s.2) ++ "\n"
  | html => "<div class=\"narrative\">\n"
      ++ String.join (n.sections.map fun s => htmlSection s.1 s.2) ++ "</div>\n"
  | markdown => "\n".intercalate (n.sections.map fun s => markdownSection s.1 s.2)

end Layout

end CodeIdioms
