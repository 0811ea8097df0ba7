import CodeIdioms.Glyph.Registry

/-! # The built-in glyphs

The two glyph tables, and the three symbols of every category. -/

namespace CodeIdioms.Builtin

/-- The core glyphs. -/
def coreGlyphs : List Glyph := [
  ⟨"→", "Transform", "Converts a value from one shape into another.",
    .transformation, "items.iter().map(|n| n * 2)"⟩,
  ⟨"λ", "Closure", "An anonymous function that can capture its surroundings.",
    .transformation, "let add_one = |x: i32| x + 1;"⟩,
  ⟨"⊕", "Combine", "Folds many values into one.",
    .transformation, "items.iter().fold(0, |acc, n| acc + n)"⟩,
  ⟨"◇", "Option", "A value that may be absent, made explicit in the type.",
    .safety, "fn find(id: u32) -> Option<User>"⟩,
  ⟨"⚠", "Fallible", "An operation that can fail and says so in its signature.",
    .safety, "fn load() -> Result<Config, Error>"⟩,
  ⟨"✓", "Checked", "A guarantee the compiler enforces before the code runs.",
    .safety, "match shape \x7b Shape::Circle(r) => r, Shape::Square(s) => s \x7d"⟩,
  ⟨"⇢", "Async", "Work that completes later without blocking the caller.",
    .flow, "let body = fetch(url).await?;"⟩,
  ⟨"↻", "Iterate", "Repeats work for each element of a sequence.",
    .flow, "for item in &items \x7b process(item); \x7d"⟩,
  ⟨"⑂", "Branch", "Chooses a path based on a value.",
    .flow, "match status \x7b Status::Active => run(), _ => wait() \x7d"⟩,
  ⟨"▣", "Type", "A named shape for data.",
    .shape, "struct User \x7b name: String, age: u32 \x7d"⟩,
  ⟨"⊢", "Contract", "Behavior a type promises to provide.",
    .shape, "impl Display for User \x7b /* ... */ \x7d"⟩,
  ⟨"≡", "Immutable", "A binding that never changes after creation.",
    .state, "let limit = 10;"⟩]

/-- The extended glyphs. -/
def extendedGlyphs : List Glyph := [
  ⟨"∅", "Absent", "The explicit empty case of an optional value.",
    .safety, "let nothing: Option<u32> = None;"⟩,
  ⟨"∴", "Propagate", "Hands an error back to the caller instead of handling it here.",
    .flow, "let text = std::fs::read_to_string(path)?;"⟩,
  ⟨"⟨⟩", "Generic", "Code written once for many types.",
    .shape, "fn first<T>(items: &[T]) -> Option<&T>"⟩,
  ⟨"⊂", "Module", "A unit of code organization and visibility.",
    .shape, "mod parser; pub use parser::parse;"⟩,
  ⟨"✎", "Mutable", "A binding explicitly marked as changeable.",
    .state, "let mut count = 0;"⟩,
  ⟨"⇄", "Shared", "State reachable from more than one place.",
    .state, "let state = Arc::new(Mutex::new(State::default()));"⟩,
  ⟨"⋯", "Sequence", "An ordered collection of values.",
    .data, "let names: Vec<String> = Vec::new();"⟩,
  ⟨"⌗", "Keyed", "Values looked up by key.",
    .data, "let mut ages: HashMap<String, u32> = HashMap::new();"⟩,
  ⟨"❝", "Text", "Owned or borrowed string data.",
    .data, "let greeting = format!(\"Hello, \x7bname\x7d\");"⟩,
  ⟨"⊎", "Variant", "A value that is exactly one of several shapes.",
    .data, "enum Shape \x7b Circle(f64), Square(f64) \x7d"⟩]

/-- The symbols of the categories. -/
def categorySymbols : SortedMap (List String) := SortedMap.ofList [
  ("null_safety", ["◇", "∅", "✓"]),
  ("async", ["⇢", "∴", "⚠"]),
  ("error_handling", ["⚠", "∴", "⑂"]),
  ("array_operations", ["→", "⋯", "λ"]),
  ("object_manipulation", ["▣", "⌗", "→"]),
  ("string_manipulation", ["❝", "→", "⋯"]),
  ("type_checking", ["✓", "▣", "⑂"]),
  ("destructuring", ["▣", "→", "≡"]),
  ("iteration", ["↻", "⋯", "→"]),
  ("higher_order_functions", ["λ", "→", "⊕"]),
  ("closures", ["λ", "⇄", "≡"]),
  ("classes", ["▣", "⊢", "✎"]),
  ("interfaces", ["⊢", "▣", "✓"]),
  ("generics", ["⟨⟩", "▣", "✓"]),
  ("union_types", ["⊎", "⑂", "✓"]),
  ("enums", ["⊎", "▣", "⑂"]),
  ("modules", ["⊂", "⊢", "▣"]),
  ("immutability", ["≡", "✎", "✓"]),
  ("collections", ["⌗", "⋯", "▣"]),
  ("concurrency", ["⇄", "⇢", "✓"]),
  ("pattern_matching", ["⑂", "⊎", "✓"])]

/-- The built-in registry. -/
def registry : Except RegistryError Registry :=
  Registry.build coreGlyphs extendedGlyphs (.ok categorySymbols)

end CodeIdioms.Builtin
