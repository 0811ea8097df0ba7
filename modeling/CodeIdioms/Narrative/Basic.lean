import CodeIdioms.Document.Record
import CodeIdioms.Text.Blank

/-! # Narratives

The explanation of an idiom in five sections, in a fixed order. -/

namespace CodeIdioms

/-- The sections of a narrative. -/
inductive Section where
  | celebrate
  | minimize
  | better
  | safety
  | «example»
deriving DecidableEq, Repr

namespace Section

/-- All sections in the order of display. -/
def all : List Section := [.celebrate, .minimize, .better, .safety, .«example»]

/-- The heading of a section. -/
def label : Section → String
  | celebrate => "Celebrate"
  | minimize => "Minimize"
  | better => "Better"
  | safety => "Safety"
  | «example» => "Example"

/-- The written name of a section. -/
def key : Section → String
  | celebrate => "celebrate"
  | minimize => "minimize"
  | better => "better"
  | safety => "safety"
  | «example» => "example"

end Section

/-- The text of every section. -/
structure Narrative where
  celebrate : String := ""
  minimize : String := ""
  better : String := ""
  safety : String := ""
  pointer : String := ""
deriving DecidableEq, Repr, Inhabited

namespace Narrative

/-- The text of a section; the example section points to an example. -/
def text (n : Narrative) : Section → String
  | .celebrate => n.celebrate
  | .minimize => n.minimize
  | .better => n.better
  | .safety => n.safety
  | .«example» => n.pointer

/-- The sections with their texts, in the order of display. -/
def sections (n : Narrative) : List (Section × String) := Section.all.map fun s => (s, n.text s)

/-- Whether no section is blank. -/
def isWellFormed (n : Narrative) : Bool := n.sections.all fun s => !Text.isBlankText s.2

/-- The codec of narratives. -/
def codec : Document.Codec Narrative :=
  let text := fun name => Document.required name Document.Codec.string
  Document.Codec.record "struct Narrative"
    (.cons (text "celebrate") <| .cons (text "minimize") <| .cons (text "better") <|
     .cons (text "safety") <| .cons (text "example") .nil)
    (fun (a, b, c, d, e, _) => ⟨a, b, c, d, e⟩)
    fun n => (n.celebrate, n.minimize, n.better, n.safety, n.pointer, ())

end Narrative

end CodeIdioms
