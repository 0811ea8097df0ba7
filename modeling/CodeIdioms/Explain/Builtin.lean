import CodeIdioms.Explain.Template

/-! # The built-in templates

The sentences from which explanations are drawn, by category, with a bundle for all others. -/

namespace CodeIdioms.Builtin

/-- The built-in bundles by key. -/
def bundles : SortedMap Bundle := SortedMap.ofList [
  ("default",
    {
      celebrate := [
        "You already reach for a clear, established idiom here.",
        "This is thoughtful code; the intent reads at a glance.",
        "Nice instinct: this construct shows you think about structure."],
      minimize := [
        "\x7btarget\x7d has a close cousin of this idea, so most of what you know carries over.",
        "The translation to \x7btarget\x7d is mostly a change of spelling, not of thinking.",
        "Only a few details differ in \x7btarget\x7d; the shape stays the same."],
      better := [
        "In \x7btarget\x7d the compiler checks what you currently check by hand.",
        "\x7btarget\x7d makes the same intent explicit in the types.",
        "The \x7btarget\x7d version costs nothing extra at runtime."],
      safety := [
        "Mistakes that surface at runtime here become compile errors in \x7btarget\x7d.",
        "\x7btarget\x7d rules out a whole class of bugs before the program runs.",
        "The type system in \x7btarget\x7d keeps this code honest as it grows."] }),
  ("null_safety",
    {
      celebrate := [
        "You already guard against missing values, which is the hardest habit to learn.",
        "Checking for absence before use shows real care for the edge cases.",
        "You treat null as a case to handle, not an afterthought."],
      minimize := [
        "\x7btarget\x7d's Option is your null check with a name.",
        "Some and None map directly onto the checks you already write.",
        "The idea is identical; \x7btarget\x7d only moves it into the type."],
      better := [
        "The compiler will not let you forget the None case.",
        "Combinators like map and unwrap_or remove the boilerplate of repeated checks.",
        "Absence is visible in every signature, so callers know what to expect."],
      safety := [
        "Null pointer dereferences cannot happen in safe \x7btarget\x7d.",
        "There is no undefined to leak through a forgotten branch.",
        "Every missing value is handled before it is used."] }),
  ("async",
    {
      celebrate := [
        "You already structure asynchronous work so it reads top to bottom.",
        "Using await shows you understand sequencing without callback nesting.",
        "Your async code is already linear and readable."],
      minimize := [
        "\x7btarget\x7d uses the same async and await keywords.",
        "The mental model of futures is the same as promises.",
        "Only the position of await changes in \x7btarget\x7d."],
      better := [
        "Futures in \x7btarget\x7d are lazy and allocate nothing until polled.",
        "Errors travel through Result, so the ? operator replaces try/catch around awaits.",
        "The executor is your choice, tuned to the workload."],
      safety := [
        "The borrow checker proves data shared across await points stays alive.",
        "Data races between tasks are rejected at compile time.",
        "Forgotten futures produce a compiler warning instead of silent no-ops."] }),
  ("error_handling",
    {
      celebrate := [
        "You plan for failure instead of hoping it never happens.",
        "Handling errors explicitly is a mark of production-ready code.",
        "You already separate the happy path from the failure path."],
      minimize := [
        "\x7btarget\x7d returns errors as values, a small shift from throwing them.",
        "Result is try/catch spelled in the return type.",
        "The ? operator does what rethrowing does, in one character."],
      better := [
        "Every fallible call announces itself in its signature.",
        "Typed error enums let callers match on exactly what went wrong.",
        "Context can be attached as errors propagate, keeping diagnostics rich."],
      safety := [
        "No error can be thrown past code that forgot to catch it.",
        "Ignoring a Result triggers a compiler warning.",
        "Failure paths are checked by the compiler like any other code."] }),
  ("array_operations",
    {
      celebrate := [
        "You already transform data declaratively instead of looping by hand.",
        "Chaining collection methods shows a functional mindset.",
        "Your data pipeline reads like a description of the result."],
      minimize := [
        "\x7btarget\x7d iterators offer the same map, filter and find.",
        "Add iter() at the start and collect() at the end, and the chain carries over.",
        "The adapters have the same names and the same meaning."],
      better := [
        "Iterator chains compile to the same code as a hand-written loop.",
        "Adapters are lazy, so no intermediate arrays are built.",
        "The element type flows through the chain and is checked at every step."],
      safety := [
        "There are no indices to get out of bounds.",
        "The source collection cannot be mutated while it is being iterated.",
        "Type errors inside a chain are caught before the code runs."] }),
  ("type_checking",
    {
      celebrate := [
        "You already handle values that can take several shapes.",
        "Guarding on types shows you respect what the data might be.",
        "You check before you trust, which is exactly right."],
      minimize := [
        "In \x7btarget\x7d those shapes become enum variants.",
        "match is your type guard with the compiler keeping score.",
        "The checks you write now become patterns in \x7btarget\x7d."],
      better := [
        "match must cover every variant, so no case is forgotten.",
        "Adding a variant points the compiler at every place that needs updating.",
        "No runtime type tags need to be compared by hand."],
      safety := [
        "Type confusion is impossible once the program compiles.",
        "A value can only be used as the type it actually is.",
        "There is no typeof result to misspell."] }),
  ("iteration",
    {
      celebrate := [
        "You already iterate over values rather than juggling indices.",
        "Your loops say what they visit, not how to count.",
        "Clean iteration like this is easy to read and review."],
      minimize := [
        "\x7btarget\x7d's for loop is for...of with an explicit borrow.",
        "The loop looks almost identical in \x7btarget\x7d.",
        "You choose between borrowing and consuming, and that is the only new idea."],
      better := [
        "enumerate, zip and windows replace manual counters.",
        "Borrowing in the loop header documents whether the collection changes.",
        "Loops over iterators optimize as well as raw indexing."],
      safety := [
        "Modifying a collection while looping over it is a compile error.",
        "Out-of-bounds access cannot happen without an index.",
        "Ownership rules stop the loop body from invalidating the iterator."] }),
  ("classes",
    {
      celebrate := [
        "You already group data with the behavior that uses it.",
        "Encapsulation like this keeps responsibilities clear.",
        "Your class has a focused purpose, which translates well."],
      minimize := [
        "A class in \x7btarget\x7d is a struct plus an impl block.",
        "Methods and constructors carry over almost one to one.",
        "Composition replaces inheritance, and you likely use it already."],
      better := [
        "Each method states whether it reads or modifies self.",
        "Traits add shared behavior without a fragile base class.",
        "Derive macros generate equality, hashing and debugging output for free."],
      safety := [
        "Mutation through a shared reference is rejected by the compiler.",
        "Fields are private by default, so invariants stay protected.",
        "There is no this to lose when a method is passed around."] }),
  ("immutability",
    {
      celebrate := [
        "You already default to values that do not change.",
        "Preferring immutable data shows discipline about shared state.",
        "You treat mutation as the exception, which is exactly the right bias."],
      minimize := [
        "In \x7btarget\x7d everything is immutable unless you say mut.",
        "Your const habit is the \x7btarget\x7d default.",
        "There is nothing new to learn here, only less to type."],
      better := [
        "Immutability in \x7btarget\x7d is deep, not just at the binding.",
        "The compiler tells you when a mut is unnecessary.",
        "Shared references guarantee no one else changes the value underneath you."],
      safety := [
        "Data races on immutable data are impossible.",
        "A value borrowed as shared cannot be modified by anyone.",
        "Freezing is enforced at compile time, not at runtime."] }),
  ("pattern_matching",
    {
      celebrate := [
        "Branching on a value is the seed of pattern matching, and you already use it.",
        "Your switch shows you think in terms of cases.",
        "Separating cases explicitly makes intent easy to follow."],
      minimize := [
        "\x7btarget\x7d's match is switch without fallthrough.",
        "Each case becomes an arm, and break disappears.",
        "The structure of your branches stays exactly the same."],
      better := [
        "match destructures data and binds variables as it branches.",
        "Guards and ranges make complex conditions readable.",
        "match is an expression, so each branch can produce a value."],
      safety := [
        "A missing case is a compile error rather than an accidental default.",
        "Fallthrough bugs cannot exist.",
        "Exhaustiveness checking keeps branches in sync with the data."] })]

/-- The built-in template store. -/
def templates : Except TemplateError TemplateStore := TemplateStore.ofBundles bundles

end CodeIdioms.Builtin
