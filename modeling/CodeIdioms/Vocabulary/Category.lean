import CodeIdioms.Vocabulary.Name

/-! # Categories

The twenty-one topics that idioms belong to. -/

namespace CodeIdioms

/-- The topic of an idiom. -/
inductive Category where
  | nullSafety
  | async
  | errorHandling
  | arrayOperations
  | objectManipulation
  | stringManipulation
  | typeChecking
  | destructuring
  | iteration
  | higherOrderFunctions
  | closures
  | classes
  | interfaces
  | generics
  | unionTypes
  | enums
  | modules
  | immutability
  | collections
  | concurrency
  | patternMatching
deriving DecidableEq, Repr, Inhabited

namespace Category

/-- All categories, in order. -/
def all : List Category := [
  .nullSafety, .async, .errorHandling, .arrayOperations, .objectManipulation,
  .stringManipulation, .typeChecking, .destructuring, .iteration, .higherOrderFunctions,
  .closures, .classes, .interfaces, .generics, .unionTypes, .enums, .modules, .immutability,
  .collections, .concurrency, .patternMatching]

/-- The written name. -/
def name : Category → String
  | nullSafety => "null_safety"
  | async => "async"
  | errorHandling => "error_handling"
  | arrayOperations => "array_operations"
  | objectManipulation => "object_manipulation"
  | stringManipulation => "string_manipulation"
  | typeChecking => "type_checking"
  | destructuring => "destructuring"
  | iteration => "iteration"
  | higherOrderFunctions => "higher_order_functions"
  | closures => "closures"
  | classes => "classes"
  | interfaces => "interfaces"
  | generics => "generics"
  | unionTypes => "union_types"
  | enums => "enums"
  | modules => "modules"
  | immutability => "immutability"
  | collections => "collections"
  | concurrency => "concurrency"
  | patternMatching => "pattern_matching"

/-- The name for readers. -/
def label : Category → String
  | nullSafety => "Null Safety"
  | async => "Async"
  | errorHandling => "Error Handling"
  | arrayOperations => "Array Operations"
  | objectManipulation => "Object Manipulation"
  | stringManipulation => "String Manipulation"
  | typeChecking => "Type Checking"
  | destructuring => "Destructuring"
  | iteration => "Iteration"
  | higherOrderFunctions => "Higher-Order Functions"
  | closures => "Closures"
  | classes => "Classes"
  | interfaces => "Interfaces"
  | generics => "Generics"
  | unionTypes => "Union Types"
  | enums => "Enums"
  | modules => "Modules"
  | immutability => "Immutability"
  | collections => "Collections"
  | concurrency => "Concurrency"
  | patternMatching => "Pattern Matching"

instance : Vocabulary Category := ⟨all, name, label⟩

/-- Every category is listed. -/
theorem mem_all (c : Category) : c ∈ all := by cases c <;> decide

/-- The category that a spelling names. -/
def ofSpelling (s : String) : Except NameError Category :=
  match Vocabulary.ofSpelling? s with
  | some c => .ok c
  | none => .error (.unknownCategory s)

end Category

end CodeIdioms
