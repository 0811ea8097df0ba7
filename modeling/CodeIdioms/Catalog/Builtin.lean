import CodeIdioms.Catalog.Basic

/-! # The built-in idioms

The idioms of JavaScript and TypeScript that the library knows, in catalog order. -/

namespace CodeIdioms.Builtin

/-- Explicit Null Check. -/
def nullCheckBasic : Idiom where
  id := "null-check-basic"
  name := "Explicit Null Check"
  category := .nullSafety
  difficulty := .beginner
  rule := "[!=]==?\\s*(?:null|undefined)\\b"
  confidence := 0.9
  beforeExample :=
    "if (user !== null && user !== undefined) \x7b\n  console.log(user.name);\n\x7d"
  afterExample :=
    "if let Some(user) = user \x7b\n    println!(\"\x7b\x7d\", user.name);\n\x7d"
  narrative := {
    celebrate :=
      "You already check for missing values before using them, which is exactly the habit Rust rewards."
    minimize :=
      "Rust's Option is the same check with a name: Some(value) or None."
    better :=
      "The compiler refuses to let you touch the value until you have handled None, so the check can never be forgotten."
    safety :=
      "Null pointer dereferences cannot happen in safe Rust."
    pointer :=
      "let name = user.map(|u| u.name);" }
  tags := StringSet.ofList ["null", "undefined", "option", "guard"]
  related := ["optional-chaining", "nullish-coalescing", "typeof-check"]
  objectives := [
    "Model absent values with Option<T>",
    "Unwrap an Option safely with if let and match"]
  mistakes := [
    "Calling unwrap() everywhere instead of handling None",
    "Using sentinel values such as empty strings for absence"]
  practices := [
    "Prefer if let or match over unwrap()",
    "Return Option from functions that may have no answer"]

/-- Optional Chaining. -/
def optionalChaining : Idiom where
  id := "optional-chaining"
  name := "Optional Chaining"
  category := .nullSafety
  difficulty := .intermediate
  rule := "\\w\\?\\.[\\w\\[(]"
  confidence := 0.95
  beforeExample :=
    "const city = user?.address?.city;"
  afterExample :=
    "let city = user.as_ref().and_then(|u| u.address.as_ref()).map(|a| &a.city);"
  narrative := {
    celebrate :=
      "Optional chaining shows you already think about every link in a chain possibly being absent."
    minimize :=
      "Rust spells ?. as and_then and map on Option, or as the ? operator inside a function."
    better :=
      "Each step's absence is visible in the type, so nothing silently becomes undefined."
    safety :=
      "There is no way to read a field through a missing value."
    pointer :=
      "fn city(user: &User) -> Option<&str> \x7b Some(&user.address.as_ref()?.city) \x7d" }
  tags := StringSet.ofList ["null", "option", "chaining"]
  related := ["null-check-basic", "nullish-coalescing"]
  objectives := [
    "Chain Option values with and_then and map",
    "Use ? on Option inside functions returning Option"]
  mistakes := [
    "Nesting match expressions several levels deep",
    "Cloning values just to get out of a borrow"]
  practices := [
    "Let ? short-circuit on None",
    "Use as_ref() to borrow through an Option"]

/-- Nullish Coalescing. -/
def nullishCoalescing : Idiom where
  id := "nullish-coalescing"
  name := "Nullish Coalescing"
  category := .nullSafety
  difficulty := .beginner
  rule := "\\?\\?"
  confidence := 0.9
  beforeExample :=
    "const port = config.port ?? 8080;"
  afterExample :=
    "let port = config.port.unwrap_or(8080);"
  narrative := {
    celebrate :=
      "Reaching for ?? means you already supply defaults instead of crashing."
    minimize :=
      "unwrap_or is the one-word Rust equivalent."
    better :=
      "unwrap_or_else computes the default lazily, so expensive fallbacks cost nothing when unused."
    safety :=
      "A default is always present, so the result is never absent."
    pointer :=
      "let name = maybe_name.unwrap_or_else(|| \"anonymous\".to_string());" }
  tags := StringSet.ofList ["null", "default", "option"]
  related := ["optional-chaining", "null-check-basic"]
  objectives := [
    "Supply defaults with unwrap_or and unwrap_or_default",
    "Choose between eager and lazy defaults"]
  mistakes := [
    "Using unwrap_or with an expensive computation",
    "Confusing ?? with || semantics on falsy values"]
  practices := [
    "Use unwrap_or_default when the type has a sensible Default",
    "Use unwrap_or_else for computed fallbacks"]

/-- Async/Await. -/
def asyncAwait : Idiom where
  id := "async-await"
  name := "Async/Await"
  category := .async
  difficulty := .intermediate
  rule := "\\bawait\\s+[\\w.(]"
  confidence := 0.95
  beforeExample :=
    "async function load() \x7b\n  const res = await fetch(url);\n  return res.json();\n\x7d"
  afterExample :=
    "async fn load(client: &Client) -> Result<Data, Error> \x7b\n    let res = client.get(URL).send().await?;\n    res.json().await\n\x7d"
  narrative := {
    celebrate :=
      "You already write asynchronous code that reads top to bottom."
    minimize :=
      "Rust uses the same async and await keywords; only the await moves after the expression."
    better :=
      "Futures are lazy and zero-cost, and errors travel through Result instead of rejected promises."
    safety :=
      "The borrow checker proves that data shared across await points is still alive."
    pointer :=
      "let body = client.get(url).send().await?.text().await?;" }
  tags := StringSet.ofList ["async", "await", "future"]
  related := ["promise-then", "promise-all", "try-catch"]
  objectives := [
    "Write async functions returning Result",
    "Understand that futures do nothing until awaited"]
  mistakes := [
    "Forgetting to await a future",
    "Blocking the executor with synchronous I/O"]
  practices := [
    "Propagate errors from async code with ?",
    "Keep blocking work off the async runtime"]

/-- Promise Chaining. -/
def promiseThen : Idiom where
  id := "promise-then"
  name := "Promise Chaining"
  category := .async
  difficulty := .intermediate
  rule := "\\.then\\("
  confidence := 0.85
  beforeExample :=
    "fetch(url).then(res => res.json()).then(data => render(data));"
  afterExample :=
    "let data = fetch(url).await?.json().await?;\nrender(data);"
  narrative := {
    celebrate :=
      "Chaining .then calls shows you understand sequencing asynchronous steps."
    minimize :=
      "In Rust the chain flattens into consecutive awaits."
    better :=
      "Each step's error is handled by ?, so no rejection goes unobserved."
    safety :=
      "An unhandled error becomes a compile-time warning rather than a silent rejection."
    pointer :=
      "let user = api.user(id).await?;\nlet posts = api.posts(&user).await?;" }
  tags := StringSet.ofList ["async", "promise", "chaining"]
  related := ["async-await", "promise-all"]
  objectives := [
    "Translate promise chains into sequential awaits",
    "Handle errors in async chains with ?"]
  mistakes := [
    "Nesting callbacks instead of awaiting",
    "Dropping a Result returned from an async call"]
  practices := [
    "Await each step in order",
    "Use combinators from futures only when they read better"]

/-- Promise.all. -/
def promiseAll : Idiom where
  id := "promise-all"
  name := "Promise.all"
  category := .concurrency
  difficulty := .advanced
  rule := "\\bPromise\\.(?:all|allSettled|race|any)\\("
  confidence := 0.95
  beforeExample :=
    "const [user, posts] = await Promise.all([getUser(id), getPosts(id)]);"
  afterExample :=
    "let (user, posts) = tokio::try_join!(get_user(id), get_posts(id))?;"
  narrative := {
    celebrate :=
      "Running independent requests together shows you already think about concurrency."
    minimize :=
      "Rust offers join! and try_join! for exactly this shape."
    better :=
      "try_join! cancels the remaining futures as soon as one fails."
    safety :=
      "Data races are ruled out at compile time, so concurrent tasks cannot corrupt shared state."
    pointer :=
      "let results = futures::future::try_join_all(ids.iter().map(|id| fetch(*id))).await?;" }
  tags := StringSet.ofList ["async", "promise", "parallel"]
  related := ["async-await", "promise-then", "map-set-collection"]
  objectives := [
    "Run futures concurrently with join! and try_join!",
    "Collect many futures with join_all"]
  mistakes := [
    "Awaiting futures one after another when they are independent",
    "Spawning tasks without keeping their handles"]
  practices := [
    "Use try_join! for fallible futures",
    "Bound concurrency with buffer_unordered for large batches"]

/-- Try/Catch. -/
def tryCatch : Idiom where
  id := "try-catch"
  name := "Try/Catch"
  category := .errorHandling
  difficulty := .beginner
  rule := "\\btry\\s*\\\x7b"
  confidence := 0.95
  beforeExample :=
    "try \x7b\n  const data = JSON.parse(text);\n\x7d catch (err) \x7b\n  console.error(err);\n\x7d"
  afterExample :=
    "match serde_json::from_str::<Data>(&text) \x7b\n    Ok(data) => use_data(data),\n    Err(err) => eprintln!(\"\x7berr\x7d\"),\n\x7d"
  narrative := {
    celebrate :=
      "Wrapping risky calls in try/catch means you already plan for failure."
    minimize :=
      "Rust returns the failure as a value: Result<T, E>."
    better :=
      "Every fallible call says so in its signature, so no exception can surprise a caller."
    safety :=
      "Errors cannot be thrown past code that forgot to handle them."
    pointer :=
      "let data: Data = serde_json::from_str(&text)?;" }
  tags := StringSet.ofList ["error", "exception", "result"]
  related := ["throw-error", "async-await"]
  objectives := [
    "Represent failure with Result<T, E>",
    "Propagate errors with the ? operator"]
  mistakes := [
    "Calling unwrap() on every Result",
    "Catching and ignoring errors silently"]
  practices := [
    "Define error enums with thiserror",
    "Add context when propagating errors"]

/-- Throwing Errors. -/
def errorThrow : Idiom where
  id := "throw-error"
  name := "Throwing Errors"
  category := .errorHandling
  difficulty := .intermediate
  rule := "\\bthrow\\s+(?:new\\s+)?\\w"
  confidence := 0.85
  beforeExample :=
    "if (!valid) \x7b\n  throw new Error('invalid input');\n\x7d"
  afterExample :=
    "if !valid \x7b\n    return Err(InputError::Invalid);\n\x7d"
  narrative := {
    celebrate :=
      "Throwing a descriptive error shows you refuse to continue with bad data."
    minimize :=
      "Rust returns Err instead of throwing."
    better :=
      "Typed error enums tell callers exactly which failures are possible."
    safety :=
      "The caller must acknowledge the error before using the value."
    pointer :=
      "#[derive(Debug, thiserror::Error)]\nenum InputError \x7b\n    #[error(\"invalid input\")]\n    Invalid,\n\x7d" }
  tags := StringSet.ofList ["error", "exception", "result"]
  related := ["try-catch"]
  objectives := [
    "Return Err early from functions",
    "Design error enums that callers can match on"]
  mistakes := [
    "Using panic! for recoverable errors",
    "Returning String as the error type everywhere"]
  practices := [
    "Reserve panics for broken invariants",
    "Implement std::error::Error for custom errors"]

/-- Array Map. -/
def arrayMap : Idiom where
  id := "array-map"
  name := "Array Map"
  category := .arrayOperations
  difficulty := .beginner
  rule := "\\.map\\(\\s*\\(?[\\w\\s,]*\\)?\\s*=>"
  confidence := 0.95
  beforeExample :=
    "const doubled = numbers.map(n => n * 2);"
  afterExample :=
    "let doubled: Vec<i32> = numbers.iter().map(|n| n * 2).collect();"
  narrative := {
    celebrate :=
      "Using map shows you already transform data without mutating it."
    minimize :=
      "Rust iterators have the same map; you add iter() before and collect() after."
    better :=
      "Iterator chains are lazy and compile down to the same code as a hand-written loop."
    safety :=
      "No index can go out of bounds because there is no index."
    pointer :=
      "let names: Vec<&str> = users.iter().map(|u| u.name.as_str()).collect();" }
  tags := StringSet.ofList ["array", "iterator", "functional"]
  related := ["array-filter", "array-reduce", "for-of-loop"]
  objectives := [
    "Transform collections with iter().map()",
    "Collect iterators into Vec and other collections"]
  mistakes := [
    "Forgetting collect() and wondering why nothing happens",
    "Using into_iter() when the original is still needed"]
  practices := [
    "Annotate the target type of collect()",
    "Chain adapters instead of building intermediate vectors"]

/-- Array Filter. -/
def arrayFilter : Idiom where
  id := "array-filter"
  name := "Array Filter"
  category := .arrayOperations
  difficulty := .beginner
  rule := "\\.filter\\(\\s*\\(?[\\w\\s,]*\\)?\\s*=>"
  confidence := 0.95
  beforeExample :=
    "const adults = people.filter(p => p.age >= 18);"
  afterExample :=
    "let adults: Vec<&Person> = people.iter().filter(|p| p.age >= 18).collect();"
  narrative := {
    celebrate :=
      "Filtering declaratively shows you describe what you want, not how to loop."
    minimize :=
      "Rust's filter takes a closure just like JavaScript's."
    better :=
      "filter_map combines filtering and mapping in one pass."
    safety :=
      "The original collection is untouched, so there is no accidental mutation."
    pointer :=
      "let evens: Vec<u32> = numbers.iter().copied().filter(|n| n % 2 == 0).collect();" }
  tags := StringSet.ofList ["array", "iterator", "functional"]
  related := ["array-map", "array-find", "array-reduce"]
  objectives := [
    "Select elements with filter",
    "Combine filter and map with filter_map"]
  mistakes := [
    "Double references like &&T in filter closures",
    "Collecting between every adapter"]
  practices := [
    "Use copied() or cloned() for small Copy items",
    "Prefer filter_map over filter followed by map"]

/-- Array Reduce. -/
def arrayReduce : Idiom where
  id := "array-reduce"
  name := "Array Reduce"
  category := .higherOrderFunctions
  difficulty := .intermediate
  rule := "\\.reduce\\("
  confidence := 0.9
  beforeExample :=
    "const total = items.reduce((sum, item) => sum + item.price, 0);"
  afterExample :=
    "let total: f64 = items.iter().map(|item| item.price).sum();"
  narrative := {
    celebrate :=
      "Folding a collection into one value is a core functional skill you already have."
    minimize :=
      "Rust calls it fold, and many common folds already have names like sum and max."
    better :=
      "Specialized consumers such as sum and product are clearer than a generic fold."
    safety :=
      "The accumulator type is checked, so you cannot mix numbers and strings by accident."
    pointer :=
      "let longest = words.iter().fold(\"\", |acc, w| if w.len() > acc.len() \x7b w \x7d else \x7b acc \x7d);" }
  tags := StringSet.ofList ["array", "iterator", "fold"]
  related := ["array-map", "array-filter"]
  objectives := [
    "Aggregate with fold, sum and product",
    "Pick the named consumer when one exists"]
  mistakes := [
    "Using fold where sum would do",
    "Forgetting the initial value's type"]
  practices := [
    "Reach for sum, count, min and max first",
    "Use try_fold when the step can fail"]

/-- Array Find. -/
def arrayFind : Idiom where
  id := "array-find"
  name := "Array Find"
  category := .arrayOperations
  difficulty := .beginner
  rule := "\\.find(?:Index)?\\("
  confidence := 0.9
  beforeExample :=
    "const admin = users.find(u => u.role === 'admin');"
  afterExample :=
    "let admin = users.iter().find(|u| u.role == Role::Admin);"
  narrative := {
    celebrate :=
      "Using find shows you stop searching as soon as you have an answer."
    minimize :=
      "Rust's find is the same short-circuiting search."
    better :=
      "find returns Option, so the not-found case is impossible to overlook."
    safety :=
      "There is no undefined result to dereference later."
    pointer :=
      "let index = users.iter().position(|u| u.id == id);" }
  tags := StringSet.ofList ["array", "iterator", "search"]
  related := ["array-filter", "array-some-every", "null-check-basic"]
  objectives := [
    "Search with find and position",
    "Handle the Option returned by a search"]
  mistakes := [
    "Using filter().next() instead of find",
    "Unwrapping the result of find"]
  practices := [
    "Use position for indices",
    "Use any when only existence matters"]

/-- Array Some/Every. -/
def arraySomeEvery : Idiom where
  id := "array-some-every"
  name := "Array Some/Every"
  category := .arrayOperations
  difficulty := .beginner
  rule := "\\.(?:some|every)\\("
  confidence := 0.85
  beforeExample :=
    "const hasErrors = results.some(r => r.failed);"
  afterExample :=
    "let has_errors = results.iter().any(|r| r.failed);"
  narrative := {
    celebrate :=
      "Asking yes/no questions of a collection is already idiomatic thinking."
    minimize :=
      "some and every become any and all."
    better :=
      "Both short-circuit and need no allocation."
    safety :=
      "The result is a plain bool with no truthiness surprises."
    pointer :=
      "let all_valid = inputs.iter().all(|i| i.is_valid());" }
  tags := StringSet.ofList ["array", "iterator", "predicate"]
  related := ["array-find", "array-filter"]
  objectives := [
    "Test collections with any and all"]
  mistakes := [
    "Counting matches just to compare with zero"]
  practices := [
    "Use any and all for existence checks"]

/-- For...of Loop. -/
def forOfLoop : Idiom where
  id := "for-of-loop"
  name := "For...of Loop"
  category := .iteration
  difficulty := .beginner
  rule := "\\bfor\\s*\\(\\s*(?:const|let|var)\\s+[\\w\\[\\]\x7b\x7d,\\s]+\\s+of\\b"
  confidence := 0.9
  beforeExample :=
    "for (const item of items) \x7b\n  process(item);\n\x7d"
  afterExample :=
    "for item in &items \x7b\n    process(item);\n\x7d"
  narrative := {
    celebrate :=
      "for...of already iterates values instead of indices, just like Rust."
    minimize :=
      "Rust's for loop is for...of with a borrow."
    better :=
      "Choosing between &items, &mut items and items makes ownership explicit."
    safety :=
      "Modifying a collection while iterating it is a compile error, not a runtime bug."
    pointer :=
      "for (index, item) in items.iter().enumerate() \x7b\n    println!(\"\x7bindex\x7d: \x7bitem\x7d\");\n\x7d" }
  tags := StringSet.ofList ["loop", "iterator"]
  related := ["foreach-loop", "array-map"]
  objectives := [
    "Iterate by reference, mutable reference and value",
    "Use enumerate for indices"]
  mistakes := [
    "Moving a collection into a loop and using it afterwards",
    "Indexing with a counter variable"]
  practices := [
    "Iterate over &collection by default",
    "Use enumerate instead of manual counters"]

/-- forEach Callback. -/
def foreachLoop : Idiom where
  id := "foreach-loop"
  name := "forEach Callback"
  category := .iteration
  difficulty := .beginner
  rule := "\\.forEach\\("
  confidence := 0.85
  beforeExample :=
    "items.forEach(item => console.log(item));"
  afterExample :=
    "items.iter().for_each(|item| println!(\"\x7bitem\x7d\"));"
  narrative := {
    celebrate :=
      "Passing a callback to forEach shows you are comfortable with closures."
    minimize :=
      "Rust has for_each, though a plain for loop is usually clearer."
    better :=
      "A for loop supports break and ?, which for_each does not."
    safety :=
      "Closures borrow what they capture, so nothing escapes unexpectedly."
    pointer :=
      "for item in &items \x7b\n    println!(\"\x7bitem\x7d\");\n\x7d" }
  tags := StringSet.ofList ["loop", "iterator", "callback"]
  related := ["for-of-loop", "array-map"]
  objectives := [
    "Choose between for loops and for_each"]
  mistakes := [
    "Trying to break out of for_each"]
  practices := [
    "Use for loops for side effects",
    "Use for_each at the end of a long adapter chain"]

/-- Object Destructuring. -/
def objectDestructuring : Idiom where
  id := "object-destructuring"
  name := "Object Destructuring"
  category := .destructuring
  difficulty := .beginner
  rule := "\\b(?:const|let|var)\\s*\\\x7b[^\x7d=]*\\\x7d\\s*="
  confidence := 0.85
  beforeExample :=
    "const \x7b name, age \x7d = person;"
  afterExample :=
    "let Person \x7b name, age, .. \x7d = person;"
  narrative := {
    celebrate :=
      "Destructuring shows you already pull out exactly the fields you need."
    minimize :=
      "Rust destructures structs with the same braces."
    better :=
      "Patterns are checked against the struct definition, so a typo is a compile error."
    safety :=
      "Fields that do not exist cannot be read as undefined."
    pointer :=
      "fn greet(&Person \x7b ref name, .. \x7d: &Person) \x7b\n    println!(\"hi \x7bname\x7d\");\n\x7d" }
  tags := StringSet.ofList ["destructuring", "struct", "pattern"]
  related := ["array-destructuring", "object-spread"]
  objectives := [
    "Destructure structs with let patterns",
    "Ignore remaining fields with .."]
  mistakes := [
    "Moving fields out of a borrowed struct"]
  practices := [
    "Destructure in function parameters when it helps readability"]

/-- Array Destructuring. -/
def arrayDestructuring : Idiom where
  id := "array-destructuring"
  name := "Array Destructuring"
  category := .destructuring
  difficulty := .beginner
  rule := "\\b(?:const|let|var)\\s*\\[[\\w\\s,.]*\\]\\s*="
  confidence := 0.85
  beforeExample :=
    "const [first, second] = pair;"
  afterExample :=
    "let (first, second) = pair;"
  narrative := {
    celebrate :=
      "Positional destructuring is already how you unpack pairs."
    minimize :=
      "Rust uses tuples and slice patterns for the same thing."
    better :=
      "Slice patterns are exhaustive, so the empty and single-element cases are handled too."
    safety :=
      "Reading past the end of an array cannot silently yield undefined."
    pointer :=
      "if let [first, .., last] = values.as_slice() \x7b\n    println!(\"\x7bfirst\x7d..\x7blast\x7d\");\n\x7d" }
  tags := StringSet.ofList ["destructuring", "tuple", "pattern"]
  related := ["object-destructuring", "switch-statement"]
  objectives := [
    "Destructure tuples and slices"]
  mistakes := [
    "Indexing a slice without checking its length"]
  practices := [
    "Return tuples for small multi-value results",
    "Match slice patterns to handle lengths"]

/-- Object Spread. -/
def objectSpread : Idiom where
  id := "object-spread"
  name := "Object Spread"
  category := .objectManipulation
  difficulty := .intermediate
  rule := "\\\x7b\\s*\\.\\.\\.\\w"
  confidence := 0.8
  beforeExample :=
    "const updated = \x7b ...config, verbose: true \x7d;"
  afterExample :=
    "let updated = Config \x7b verbose: true, ..config \x7d;"
  narrative := {
    celebrate :=
      "Spreading an object shows you prefer building new values over mutating old ones."
    minimize :=
      "Struct update syntax is Rust's spread."
    better :=
      "The result is still a fully typed struct with every field present."
    safety :=
      "Unknown keys cannot sneak in through a spread."
    pointer :=
      "let options = Options \x7b retries: 3, ..Options::default() \x7d;" }
  tags := StringSet.ofList ["object", "spread", "struct"]
  related := ["object-destructuring", "object-freeze"]
  objectives := [
    "Build structs with struct update syntax"]
  mistakes := [
    "Expecting the source struct to remain usable after moving non-Copy fields"]
  practices := [
    "Combine struct update syntax with Default"]

/-- Template Literal. -/
def templateLiteral : Idiom where
  id := "template-literal"
  name := "Template Literal"
  category := .stringManipulation
  difficulty := .beginner
  rule := "`[^`]*\\$\\\x7b[^\x7d]+\\\x7d[^`]*`"
  confidence := 0.9
  beforeExample :=
    "const greeting = `Hello, $\x7bname\x7d!`;"
  afterExample :=
    "let greeting = format!(\"Hello, \x7bname\x7d!\");"
  narrative := {
    celebrate :=
      "Template literals show you already avoid string concatenation soup."
    minimize :=
      "format! captures variables by name in the same way."
    better :=
      "Format strings are checked at compile time."
    safety :=
      "A misspelled placeholder is a compile error, not a literal $\x7btypo\x7d in output."
    pointer :=
      "let line = format!(\"\x7b:>8\x7d | \x7b:.2\x7d\", label, value);" }
  tags := StringSet.ofList ["string", "format", "interpolation"]
  related := ["string-methods"]
  objectives := [
    "Interpolate with format! and inline captures",
    "Use width and precision specifiers"]
  mistakes := [
    "Using + to build strings in loops"]
  practices := [
    "Use write! into an existing String for repeated appends"]

/-- String Methods. -/
def stringMethods : Idiom where
  id := "string-methods"
  name := "String Methods"
  category := .stringManipulation
  difficulty := .beginner
  rule := "\\.(?:split|trim|toUpperCase|toLowerCase|startsWith|endsWith|includes|replace)\\("
  confidence := 0.75
  beforeExample :=
    "const words = text.trim().toLowerCase().split(' ');"
  afterExample :=
    "let words: Vec<String> = text.trim().to_lowercase().split(' ').map(String::from).collect();"
  narrative := {
    celebrate :=
      "Chaining string methods is a habit that carries straight over."
    minimize :=
      "Rust's str has trim, split, starts_with and friends under snake_case names."
    better :=
      "Methods that can borrow return &str slices without copying."
    safety :=
      "Strings are always valid UTF-8, so slicing cannot produce garbage characters."
    pointer :=
      "let is_comment = line.trim_start().starts_with(\"//\");" }
  tags := StringSet.ofList ["string", "text"]
  related := ["template-literal"]
  objectives := [
    "Process text with str methods",
    "Distinguish String from &str"]
  mistakes := [
    "Indexing strings by byte position",
    "Allocating a String for every intermediate step"]
  practices := [
    "Accept &str parameters",
    "Use char_indices for character-aware indexing"]

/-- typeof Guard. -/
def typeofCheck : Idiom where
  id := "typeof-check"
  name := "typeof Guard"
  category := .typeChecking
  difficulty := .beginner
  rule := "\\btypeof\\s+[\\w.]+\\s*[!=]==?"
  confidence := 0.9
  beforeExample :=
    "if (typeof value === 'string') \x7b\n  return value.length;\n\x7d"
  afterExample :=
    "match value \x7b\n    Value::Text(s) => s.len(),\n    Value::Number(_) => 0,\n\x7d"
  narrative := {
    celebrate :=
      "Guarding on a runtime type shows you already handle values that can be several things."
    minimize :=
      "In Rust the several things become enum variants."
    better :=
      "match makes you cover every variant, so no type is forgotten."
    safety :=
      "Type confusion is ruled out before the program runs."
    pointer :=
      "enum Value \x7b\n    Text(String),\n    Number(f64),\n\x7d" }
  tags := StringSet.ofList ["type", "guard", "enum"]
  related := ["instanceof-check", "union-type", "switch-statement"]
  objectives := [
    "Replace runtime type checks with enums"]
  mistakes := [
    "Using strings to tag types manually"]
  practices := [
    "Model alternatives as enum variants",
    "Let match exhaustiveness guide refactors"]

/-- instanceof Check. -/
def instanceofCheck : Idiom where
  id := "instanceof-check"
  name := "instanceof Check"
  category := .typeChecking
  difficulty := .intermediate
  rule := "\\binstanceof\\s+[A-Z]\\w*"
  confidence := 0.85
  beforeExample :=
    "if (err instanceof NotFoundError) \x7b\n  return null;\n\x7d"
  afterExample :=
    "match err \x7b\n    AppError::NotFound => None,\n    other => return Err(other),\n\x7d"
  narrative := {
    celebrate :=
      "Distinguishing error kinds shows you handle failures precisely."
    minimize :=
      "Rust matches on enum variants instead of class hierarchies."
    better :=
      "Variants are closed, so the compiler knows every possibility."
    safety :=
      "There is no prototype chain to fool."
    pointer :=
      "if let AppError::NotFound = err \x7b\n    return Ok(None);\n\x7d" }
  tags := StringSet.ofList ["type", "guard", "class"]
  related := ["typeof-check", "class-declaration"]
  objectives := [
    "Match on enum variants instead of instanceof"]
  mistakes := [
    "Downcasting trait objects where an enum would do"]
  practices := [
    "Prefer enums for closed sets of kinds"]

/-- Class Declaration. -/
def classDeclaration : Idiom where
  id := "class-declaration"
  name := "Class Declaration"
  category := .classes
  difficulty := .intermediate
  rule := "\\bclass\\s+[A-Z]\\w*"
  confidence := 0.9
  beforeExample :=
    "class Counter \x7b\n  constructor() \x7b this.count = 0; \x7d\n  increment() \x7b this.count++; \x7d\n\x7d"
  afterExample :=
    "struct Counter \x7b\n    count: u32,\n\x7d\n\nimpl Counter \x7b\n    fn new() -> Self \x7b Self \x7b count: 0 \x7d \x7d\n    fn increment(&mut self) \x7b self.count += 1; \x7d\n\x7d"
  narrative := {
    celebrate :=
      "Grouping data with the methods that use it is exactly what Rust structs do."
    minimize :=
      "A class becomes a struct plus an impl block."
    better :=
      "Methods declare whether they read or modify self."
    safety :=
      "Mutation through a shared reference is rejected at compile time."
    pointer :=
      "impl Default for Counter \x7b\n    fn default() -> Self \x7b Self::new() \x7d\n\x7d" }
  tags := StringSet.ofList ["class", "struct", "oop"]
  related := ["interface-declaration", "instanceof-check"]
  objectives := [
    "Translate classes into structs with impl blocks",
    "Choose between &self and &mut self"]
  mistakes := [
    "Reaching for inheritance",
    "Making every field pub"]
  practices := [
    "Compose structs instead of inheriting",
    "Provide new and Default constructors"]

/-- Interface Declaration. -/
def interfaceDeclaration : Idiom where
  id := "interface-declaration"
  name := "Interface Declaration"
  category := .interfaces
  difficulty := .intermediate
  rule := "\\binterface\\s+[A-Z]\\w*"
  confidence := 0.95
  beforeExample :=
    "interface Shape \x7b\n  area(): number;\n\x7d"
  afterExample :=
    "trait Shape \x7b\n    fn area(&self) -> f64;\n\x7d"
  narrative := {
    celebrate :=
      "Describing behavior separately from implementation is already good design."
    minimize :=
      "Rust traits are interfaces with a few extra powers."
    better :=
      "Traits can carry default methods and be implemented for types you do not own."
    safety :=
      "An implementation missing a method does not compile."
    pointer :=
      "impl Shape for Circle \x7b\n    fn area(&self) -> f64 \x7b PI * self.r * self.r \x7d\n\x7d" }
  tags := StringSet.ofList ["interface", "trait", "type"]
  related := ["class-declaration", "generic-function"]
  objectives := [
    "Declare behavior with traits",
    "Implement traits for your types"]
  mistakes := [
    "Using traits purely as data shapes"]
  practices := [
    "Keep traits small and focused",
    "Use generics bounded by traits for static dispatch"]

/-- Generic Function. -/
def genericFunction : Idiom where
  id := "generic-function"
  name := "Generic Function"
  category := .generics
  difficulty := .advanced
  rule := "\\bfunction\\s+\\w+\\s*<\\s*[A-Z]"
  confidence := 0.85
  beforeExample :=
    "function first<T>(items: T[]): T | undefined \x7b\n  return items[0];\n\x7d"
  afterExample :=
    "fn first<T>(items: &[T]) -> Option<&T> \x7b\n    items.first()\n\x7d"
  narrative := {
    celebrate :=
      "Writing generic code shows you already design for reuse."
    minimize :=
      "Rust generics look the same and add trait bounds where needed."
    better :=
      "Generic functions are monomorphized, so there is no runtime cost."
    safety :=
      "Bounds ensure every type parameter supports the operations you use."
    pointer :=
      "fn largest<T: PartialOrd + Copy>(items: &[T]) -> Option<T> \x7b\n    items.iter().copied().reduce(|a, b| if b > a \x7b b \x7d else \x7b a \x7d)\n\x7d" }
  tags := StringSet.ofList ["generic", "type"]
  related := ["interface-declaration", "union-type"]
  objectives := [
    "Write generic functions with trait bounds"]
  mistakes := [
    "Over-constraining type parameters"]
  practices := [
    "Add only the bounds the body needs",
    "Use where clauses for long bounds"]

/-- Union Type. -/
def unionType : Idiom where
  id := "union-type"
  name := "Union Type"
  category := .unionTypes
  difficulty := .intermediate
  rule := "\\btype\\s+\\w+\\s*=\\s*[^;=]*\\|"
  confidence := 0.8
  beforeExample :=
    "type Shape = Circle | Square;"
  afterExample :=
    "enum Shape \x7b\n    Circle(Circle),\n    Square(Square),\n\x7d"
  narrative := {
    celebrate :=
      "Union types show you already model values that can take several forms."
    minimize :=
      "Rust enums are tagged unions with names for each case."
    better :=
      "Each variant can carry its own data."
    safety :=
      "match must handle every variant, so adding one points to every place to update."
    pointer :=
      "fn area(shape: &Shape) -> f64 \x7b\n    match shape \x7b\n        Shape::Circle(c) => c.area(),\n        Shape::Square(s) => s.area(),\n    \x7d\n\x7d" }
  tags := StringSet.ofList ["union", "enum", "type"]
  related := ["enum-declaration", "typeof-check", "switch-statement"]
  objectives := [
    "Model unions as enums with data"]
  mistakes := [
    "Using a struct full of Option fields instead of an enum"]
  practices := [
    "Give each variant exactly the data it needs"]

/-- Enum Declaration. -/
def enumDeclaration : Idiom where
  id := "enum-declaration"
  name := "Enum Declaration"
  category := .enums
  difficulty := .beginner
  rule := "\\benum\\s+[A-Z]\\w*\\s*\\\x7b"
  confidence := 0.95
  beforeExample :=
    "enum Direction \x7b\n  Up,\n  Down,\n\x7d"
  afterExample :=
    "#[derive(Debug, Clone, Copy, PartialEq, Eq)]\nenum Direction \x7b\n    Up,\n    Down,\n\x7d"
  narrative := {
    celebrate :=
      "Using enums shows you already prefer named cases over magic strings."
    minimize :=
      "The syntax carries over almost unchanged."
    better :=
      "Rust enums can hold data and implement methods."
    safety :=
      "Only declared variants can exist, so an out-of-range value is impossible."
    pointer :=
      "impl Direction \x7b\n    fn flip(self) -> Self \x7b\n        match self \x7b Self::Up => Self::Down, Self::Down => Self::Up \x7d\n    \x7d\n\x7d" }
  tags := StringSet.ofList ["enum", "type"]
  related := ["union-type", "switch-statement"]
  objectives := [
    "Declare enums and derive common traits"]
  mistakes := [
    "Casting enums to integers for comparison"]
  practices := [
    "Derive Copy for small field-less enums",
    "Add methods in an impl block"]

/-- ES Module Import. -/
def esModuleImport : Idiom where
  id := "es-module-import"
  name := "ES Module Import"
  category := .modules
  difficulty := .beginner
  rule := "(?m)^\\s*import\\s+[\\w\x7b*][^;]*\\bfrom\\s+[\"']"
  confidence := 0.9
  beforeExample :=
    "import \x7b parse \x7d from './parser';"
  afterExample :=
    "use crate::parser::parse;"
  narrative := {
    celebrate :=
      "Explicit imports show you already keep dependencies visible."
    minimize :=
      "Rust's use brings items into scope the same way."
    better :=
      "Visibility is private by default and opened with pub."
    safety :=
      "Importing something that does not exist fails the build."
    pointer :=
      "mod parser;\npub use parser::parse;" }
  tags := StringSet.ofList ["module", "import"]
  related := ["class-declaration"]
  objectives := [
    "Organize code with mod and use",
    "Control visibility with pub"]
  mistakes := [
    "Glob-importing everything",
    "Making every item pub"]
  practices := [
    "Re-export a crate's public surface from lib.rs"]

/-- Const Binding. -/
def constDeclaration : Idiom where
  id := "const-declaration"
  name := "Const Binding"
  category := .immutability
  difficulty := .beginner
  rule := "\\bconst\\s+\\w+\\s*="
  confidence := 0.7
  beforeExample :=
    "const limit = 10;"
  afterExample :=
    "let limit = 10;"
  narrative := {
    celebrate :=
      "Preferring const means you already default to immutable bindings."
    minimize :=
      "In Rust every let is immutable unless marked mut."
    better :=
      "Immutability extends to the value, not just the binding."
    safety :=
      "Nothing can change data you did not declare mutable."
    pointer :=
      "let mut count = 0;\ncount += 1;" }
  tags := StringSet.ofList ["immutability", "binding"]
  related := ["object-freeze"]
  objectives := [
    "Default to immutable bindings",
    "Add mut only when needed"]
  mistakes := [
    "Sprinkling mut everywhere out of habit"]
  practices := [
    "Shadow a binding instead of mutating it when transforming a value"]

/-- Object.freeze. -/
def objectFreeze : Idiom where
  id := "object-freeze"
  name := "Object.freeze"
  category := .immutability
  difficulty := .intermediate
  rule := "\\bObject\\.freeze\\("
  confidence := 0.9
  beforeExample :=
    "const settings = Object.freeze(\x7b debug: false \x7d);"
  afterExample :=
    "let settings = Settings \x7b debug: false \x7d;"
  narrative := {
    celebrate :=
      "Freezing objects shows you care that shared data cannot change underneath you."
    minimize :=
      "Rust values are frozen by default."
    better :=
      "Freezing is deep and checked statically, not shallow and at runtime."
    safety :=
      "Shared references can never be used to mutate."
    pointer :=
      "fn log(settings: &Settings) \x7b\n    println!(\"\x7b\x7d\", settings.debug);\n\x7d" }
  tags := StringSet.ofList ["immutability", "object"]
  related := ["const-declaration", "object-spread"]
  objectives := [
    "Rely on immutability by default"]
  mistakes := [
    "Wrapping everything in RefCell to regain mutability"]
  practices := [
    "Pass &T when a function only reads"]

/-- Map and Set. -/
def mapSetCollection : Idiom where
  id := "map-set-collection"
  name := "Map and Set"
  category := .collections
  difficulty := .intermediate
  rule := "\\bnew\\s+(?:Map|Set|WeakMap|WeakSet)\\b"
  confidence := 0.9
  beforeExample :=
    "const seen = new Set();\nconst counts = new Map();"
  afterExample :=
    "let mut seen = HashSet::new();\nlet mut counts: HashMap<String, usize> = HashMap::new();"
  narrative := {
    celebrate :=
      "Using Map and Set shows you pick the right collection for lookups."
    minimize :=
      "HashMap and HashSet are the direct equivalents."
    better :=
      "Keys and values are typed, and BTreeMap gives sorted iteration for free."
    safety :=
      "Looking up a missing key returns Option instead of undefined."
    pointer :=
      "*counts.entry(word).or_insert(0) += 1;" }
  tags := StringSet.ofList ["collection", "map", "set"]
  related := ["array-map", "promise-all"]
  objectives := [
    "Use HashMap, HashSet and BTreeMap",
    "Update maps with the entry API"]
  mistakes := [
    "Calling get then insert instead of entry"]
  practices := [
    "Use the entry API for counters",
    "Choose BTreeMap when order matters"]

/-- Closure Factory. -/
def closure : Idiom where
  id := "closure"
  name := "Closure Factory"
  category := .closures
  difficulty := .advanced
  rule := "\\breturn\\s+(?:function\\b|\\([^)]*\\)\\s*=>|\\w+\\s*=>)"
  confidence := 0.75
  beforeExample :=
    "function makeCounter() \x7b\n  let count = 0;\n  return () => ++count;\n\x7d"
  afterExample :=
    "fn make_counter() -> impl FnMut() -> u32 \x7b\n    let mut count = 0;\n    move || \x7b count += 1; count \x7d\n\x7d"
  narrative := {
    celebrate :=
      "Returning functions that remember state is advanced JavaScript you already know."
    minimize :=
      "Rust closures capture state the same way, with move to take ownership."
    better :=
      "The Fn, FnMut and FnOnce traits say exactly how a closure uses its captures."
    safety :=
      "Captured data cannot outlive the closure or be shared unsafely."
    pointer :=
      "let add = |a: i32| move |b: i32| a + b;\nassert_eq!(add(2)(3), 5);" }
  tags := StringSet.ofList ["closure", "function", "state"]
  related := ["array-reduce", "foreach-loop"]
  objectives := [
    "Return closures with impl Fn",
    "Understand move closures"]
  mistakes := [
    "Forgetting move when returning a closure"]
  practices := [
    "Return impl Fn for single closure types",
    "Box<dyn Fn> only when types differ"]

/-- Switch Statement. -/
def switchStatement : Idiom where
  id := "switch-statement"
  name := "Switch Statement"
  category := .patternMatching
  difficulty := .beginner
  rule := "\\bswitch\\s*\\([^)]*\\)\\s*\\\x7b"
  confidence := 0.85
  beforeExample :=
    "switch (status) \x7b\n  case 'ok': return 200;\n  case 'missing': return 404;\n  default: return 500;\n\x7d"
  afterExample :=
    "match status \x7b\n    Status::Ok => 200,\n    Status::Missing => 404,\n    Status::Failed => 500,\n\x7d"
  narrative := {
    celebrate :=
      "Branching on a value with switch is the seed of pattern matching."
    minimize :=
      "Rust's match is switch without fallthrough or break."
    better :=
      "match destructures data and binds variables as it branches."
    safety :=
      "A missing case is a compile error rather than an accidental default."
    pointer :=
      "let label = match code \x7b\n    200..=299 => \"success\",\n    400..=499 => \"client error\",\n    _ => \"other\",\n\x7d;" }
  tags := StringSet.ofList ["switch", "match", "pattern"]
  related := ["enum-declaration", "union-type", "typeof-check"]
  objectives := [
    "Branch with match expressions",
    "Use ranges and guards in patterns"]
  mistakes := [
    "Adding a catch-all arm that hides new variants"]
  practices := [
    "Avoid _ arms on enums you own",
    "Use match as an expression"]

/-- The built-in idioms in order. -/
def idioms : List Idiom := [
  nullCheckBasic, optionalChaining, nullishCoalescing, asyncAwait, promiseThen, promiseAll,
  tryCatch, errorThrow, arrayMap, arrayFilter, arrayReduce, arrayFind, arraySomeEvery, forOfLoop,
  foreachLoop, objectDestructuring, arrayDestructuring, objectSpread, templateLiteral,
  stringMethods, typeofCheck, instanceofCheck, classDeclaration, interfaceDeclaration,
  genericFunction, unionType, enumDeclaration, esModuleImport, constDeclaration, objectFreeze,
  mapSetCollection, closure, switchStatement]

/-- The built-in catalog over a registry. -/
def catalog (r : Registry) : Except CatalogError Catalog := Catalog.ofIdioms idioms r

end CodeIdioms.Builtin
