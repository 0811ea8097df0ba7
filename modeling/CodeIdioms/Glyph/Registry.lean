import CodeIdioms.Glyph
import CodeIdioms.Vocabulary.Category

/-! # The glyph registry

A registry holds two tables of glyphs, core and extended, and gives every category three glyph
symbols.  It is built from the tables and from a document that lists the symbols of each category;
building checks that no symbol is defined twice, that the document names categories and known
symbols only, and that no category is left out. -/

namespace CodeIdioms

/-- Three glyph symbols. -/
structure Triple where
  first : String
  second : String
  third : String
deriving DecidableEq, Repr

namespace Triple

/-- The number of symbols of a category. -/
def size : Nat := 3

/-- The symbols in order. -/
def toList (t : Triple) : List String := [t.first, t.second, t.third]

/-- The triple of a list of three symbols. -/
def ofList? : List String → Option Triple
  | [a, b, c] => some ⟨a, b, c⟩
  | _ => none

end Triple

/-- Why a registry cannot be built. -/
inductive RegistryError where
  | duplicateGlyph (symbol : String)
  | parse (problem : Document.Problem)
  | unknownCategory (key : String)
  | unknownGlyph (category : Category) (symbol : String)
  | glyphCount (category : Category) (found : Nat)
  | missingCategory (category : Category)
deriving Repr

/-- The text of an error. -/
def RegistryError.message : RegistryError → String
  | duplicateGlyph s => "duplicate glyph symbol '" ++ s ++ "'"
  | parse p => "failed to parse category glyph table: " ++ p.message
  | unknownCategory key => "category glyph table has unknown category '" ++ key ++ "'"
  | unknownGlyph c s => "category '" ++ c.name ++ "' references unknown glyph '" ++ s ++ "'"
  | glyphCount c n =>
    "category '" ++ c.name ++ "' maps to " ++ toString n ++ " glyphs, expected "
      ++ toString Triple.size
  | missingCategory c => "category glyph table has no entry for '" ++ c.name ++ "'"

/-- The glyph tables and the symbols of every category. -/
structure Registry where
  core : List Glyph
  extended : List Glyph
  triple : Category → Triple

/-! ### Building -/

/-- The first string of a list that occurs before, or among `seen`. -/
def firstRepeat? (seen : List String) : List String → Option String
  | [] => none
  | x :: xs => if x ∈ seen then some x else firstRepeat? (x :: seen) xs

/-- The symbols of categories read so far. -/
abbrev PartialTriples := Category → Option Triple

/-- Takes one entry of the category table. -/
def PartialTriples.add (m : PartialTriples) (glyphs : List Glyph) (key : String)
    (symbols : List String) : Except RegistryError PartialTriples :=
  match Category.ofSpelling key with
  | .error _ => .error (.unknownCategory key)
  | .ok category =>
    match symbols.find? fun s => !glyphs.any (·.symbol == s) with
    | some s => .error (.unknownGlyph category s)
    | none =>
      match Triple.ofList? symbols with
      | none => .error (.glyphCount category symbols.length)
      | some t => .ok fun c => if c = category then some t else m c

/-- Takes the entries of the category table in order; a later entry of a category replaces an
earlier one. -/
def PartialTriples.addAll (glyphs : List Glyph) :
    List (String × List String) → PartialTriples → Except RegistryError PartialTriples
  | [], m => .ok m
  | (key, symbols) :: es, m => do
    let m ← m.add glyphs key symbols
    addAll glyphs es m

/-- The symbols of every category, if none is missing. -/
def PartialTriples.complete (m : PartialTriples) : Except RegistryError (Category → Triple) :=
  match h : Category.all.find? fun c => (m c).isNone with
  | some c => .error (.missingCategory c)
  | none => .ok fun c => (m c).get (by
      have := List.find?_eq_none.1 h c (Category.mem_all c)
      revert this
      cases m c <;> simp)

namespace Registry

/-- The tables and a category table, checked; the entries of the table are visited in the order of
their keys. -/
def ofTable (core extended : List Glyph) (table : SortedMap (List String)) :
    Except RegistryError Registry := do
  let glyphs := core ++ extended
  let triples ← PartialTriples.addAll glyphs table.entries fun _ => none
  let triple ← triples.complete
  return { core, extended, triple }

/-- The codec of category tables. -/
def tableCodec : Document.Codec (SortedMap (List String)) :=
  Document.Codec.map (Document.Codec.list Document.Codec.string)

/-- The tables with a category table that is still to be read.  Symbols are checked before the
table is looked at. -/
def build (core extended : List Glyph) (table : Except Document.Problem (SortedMap (List String))) :
    Except RegistryError Registry :=
  match firstRepeat? [] ((core ++ extended).map (·.symbol)) with
  | some s => .error (.duplicateGlyph s)
  | none =>
    match table with
    | .error p => .error (.parse p)
    | .ok table => ofTable core extended table

/-- A registry from the tables and the text of a category table. -/
def read (core extended : List Glyph) (table : String) : Except RegistryError Registry :=
  build core extended (tableCodec.readText table)

/-! ### Looking up -/

/-- All glyphs, the core ones first. -/
def all (r : Registry) : List Glyph := r.core ++ r.extended

/-- The glyph of a symbol. -/
def ofSymbol? (r : Registry) (symbol : String) : Option Glyph := r.all.find? (·.symbol == symbol)

/-- The glyphs of a concept, in registry order. -/
def ofConcept (r : Registry) (c : Concept) : List Glyph := r.all.filter (·.concept == c)

/-- The three symbols of a category. -/
def symbolsOf (r : Registry) (c : Category) : List String := (r.triple c).toList

/-! ### Texts -/

/-- Code under a line of symbols. -/
def annotate (code : String) (symbols : List String) : String :=
  " ".intercalate symbols ++ "\n" ++ code

/-- The line of the legend that explains a glyph. -/
def bullet (g : Glyph) : String :=
  "- `" ++ g.symbol ++ "` **" ++ g.name ++ "**: " ++ g.meaning ++ " Example: `" ++ g.usage ++ "`\n"

/-- The part of the legend on a concept; empty when no glyph denotes it. -/
def legendPart (r : Registry) (c : Concept) : String :=
  match r.ofConcept c with
  | [] => ""
  | gs => "\n## " ++ c.label ++ "\n\n" ++ String.join (gs.map bullet)

/-- The legend: all glyphs by concept, in Markdown. -/
def legend (r : Registry) : String :=
  "# Glyph Legend\n" ++ String.join (Concept.legendOrder.map r.legendPart)

end Registry

end CodeIdioms
