import CodeIdioms.CommandLine.Engine
import CodeIdioms.Text.Columns

/-! # The commands that show the catalog

The list of idioms with filters, the statistics of the catalog, and the legend of glyphs. -/

namespace CodeIdioms.CommandLine

open Document Text

/-- Whether an idiom passes all filters. -/
def ListOptions.admits (o : ListOptions) (p : Idiom) : Bool :=
  o.category.all (· == p.category) && o.difficulty.all (· == p.difficulty) && o.tag.all p.hasTag

/-- The row of an idiom. -/
def idiomRow (p : Idiom) : String :=
  padRight 22 p.id ++ " " ++ padRight 26 p.category.name ++ " " ++ padRight 13 p.difficulty.name
    ++ " " ++ p.name

/-- The line that stands for an empty list. -/
def nothingListed : String := "No patterns match the given filters."

/-- The lines of the list of a catalog. -/
def listLines (c : Catalog) (o : ListOptions) : List String :=
  match c.idioms.filter o.admits with
  | [] => [nothingListed]
  | ps => ps.map idiomRow

/-- The line of a count. -/
def countLine (label : String) (n : UInt64) : String :=
  "  " ++ padRight 28 label ++ " " ++ toString n.toNat

/-- The lines of statistics. -/
def statisticsLines (s : Statistics) : List String :=
  ["Pattern Catalog Statistics", "==========================", "",
    "Total patterns: " ++ toString s.total.toNat, "", "By category:"]
  ++ s.categories.map (fun (c, n) => countLine c.label n)
  ++ ["", "By difficulty:"]
  ++ s.difficulties.map fun (d, n) => countLine d.label n

/-- Shows the statistics of the catalog. -/
def runStats (g : Engine) (o : StatsOptions) : Session Unit :=
  let s := g.catalog.statistics
  if o.json then Session.write ((Statistics.codec.write s).pretty ++ "\n")
  else Session.writeLines (statisticsLines s)

/-- Lists the idioms of the catalog. -/
def runList (g : Engine) (o : ListOptions) : Session Unit :=
  Session.writeLines (listLines g.catalog o)

/-- Shows the legend of glyphs. -/
def runLegend (g : Engine) : Session Unit := Session.write g.glyphs.legend

end CodeIdioms.CommandLine
