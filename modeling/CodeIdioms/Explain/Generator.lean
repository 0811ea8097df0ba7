import CodeIdioms.Explain.Template
import CodeIdioms.Explain.Draw
import CodeIdioms.Idiom

/-! # Explanations

An idiom is explained by its own narrative or by one drawn from the templates of its category.
Drawing takes one value of the stream for each pool that is not empty, in the order of the
sections. -/

namespace CodeIdioms

/-- Where explanations come from: the idiom itself, or the templates. -/
inductive Mode where
  | fixed
  | variety
deriving DecidableEq, Repr

/-- The mode that a switch selects. -/
def Mode.ofVariety (variety : Bool) : Mode := if variety then .variety else .fixed

/-- Explains idioms from a template store in terms of a target language. -/
structure Explainer where
  templates : TemplateStore
  target : String

/-- The mark in a message that stands for the name of an idiom. -/
def namePlaceholder : String := "\x7bname\x7d"

/-- The messages that greet a recognised idiom. -/
def successMessages : List String := [
  "Nice work! You've used \x7bname\x7d.",
  "Well spotted: \x7bname\x7d is a solid idiom.",
  "Great instinct reaching for \x7bname\x7d.",
  "\x7bname\x7d recognized. You're already thinking in patterns.",
  "Good call using \x7bname\x7d here."]

namespace Explainer

/-- Draws the sentence of a section from a bundle; an empty pool gives the empty sentence. -/
def draw (s : Stream) (b : Bundle) (part : Section) : Drawing String := do
  let sentence ← s.pick (b.pool part)
  return sentence.getD ""

/-- The sentence that points to an example. -/
def pointer (x : Explainer) (name : String) : String :=
  "See how the " ++ name ++ " pattern works in " ++ x.target ++ "!"

/-- Draws a narrative from a bundle. -/
def ofBundle (x : Explainer) (b : Bundle) (name : String) (s : Stream) : Drawing Narrative := do
  let celebrate ← draw s b .celebrate
  let minimize ← draw s b .minimize
  let better ← draw s b .better
  let safety ← draw s b .safety
  return { celebrate, minimize, better, safety, pointer := x.pointer name }

/-- Draws a narrative for a category. -/
def ofCategory (x : Explainer) (c : Category) (name : String) (s : Stream) : Drawing Narrative :=
  x.ofBundle (x.templates.resolve c) name s

/-- Draws a narrative for a spelling of a category, or for no category. -/
def ofKey (x : Explainer) (key name : String) (s : Stream) : Drawing Narrative :=
  x.ofBundle (x.templates.resolveKey key) name s

/-- Explains an idiom. -/
def explain (x : Explainer) (p : Idiom) (mode : Mode) (s : Stream) : Drawing Narrative :=
  match mode with
  | .fixed => pure p.narrative
  | .variety => x.ofCategory p.category p.name s

/-- Draws a message that greets an idiom by its name. -/
def success (name : String) (s : Stream) : Drawing String := do
  let message ← s.pick successMessages
  return match message with
    | some m => Text.replace namePlaceholder name m
    | none => ""

/-- The lists of an idiom that hints come from, with their labels. -/
def hintSources (p : Idiom) : List (String × List String) :=
  [("Tip", p.practices), ("Goal", p.objectives), ("Watch out", p.mistakes)]

/-- Draws a hint: the first entry of one of the lists of an idiom, or a general hint when that list
is empty. -/
def hint (x : Explainer) (p : Idiom) (s : Stream) : Drawing String := do
  let source ← s.pick (hintSources p)
  return match source with
    | some (label, entry :: _) => label ++ ": " ++ entry
    | _ => "Hint: look for where " ++ x.target ++ " could express " ++ p.name ++ " more directly."

end Explainer

end CodeIdioms
