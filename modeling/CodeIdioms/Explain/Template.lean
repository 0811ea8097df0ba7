import CodeIdioms.Narrative.Basic
import CodeIdioms.Vocabulary.Category
import CodeIdioms.Text.Replace

/-! # Templates

A bundle holds, for each of four sections, a pool of sentences from which explanations are drawn.
A store has bundles for some categories and possibly a default bundle for the others.  Sentences
may mention the target language by a placeholder, which is filled in for the whole store. -/

namespace CodeIdioms

/-- Pools of sentences for the four drawn sections. -/
structure Bundle where
  celebrate : List String := []
  minimize : List String := []
  better : List String := []
  safety : List String := []
deriving DecidableEq, Repr, Inhabited

/-- The mark in a sentence that stands for the target language. -/
def placeholder : String := "\x7btarget\x7d"

namespace Bundle

/-- The pool of a section; examples are not drawn. -/
def pool (b : Bundle) : Section → List String
  | .celebrate => b.celebrate
  | .minimize => b.minimize
  | .better => b.better
  | .safety => b.safety
  | .«example» => []

/-- Whether all pools are empty. -/
def isEmpty (b : Bundle) : Bool :=
  b.celebrate.isEmpty && b.minimize.isEmpty && b.better.isEmpty && b.safety.isEmpty

/-- The bundle with the placeholder filled in. -/
def withTarget (b : Bundle) (target : String) : Bundle :=
  let fill := List.map (Text.replace placeholder target)
  { celebrate := fill b.celebrate, minimize := fill b.minimize, better := fill b.better,
    safety := fill b.safety }

open Document in
/-- The codec of bundles; pools that are missing are empty. -/
def codec : Codec Bundle :=
  let pool := fun name => defaulting name (Codec.list Codec.string) []
  Codec.record "struct TemplateBundle"
    (.cons (pool "celebrate") <| .cons (pool "minimize") <| .cons (pool "better") <|
     .cons (pool "safety") .nil)
    (fun (a, b, c, d, _) => ⟨a, b, c, d⟩)
    fun b => (b.celebrate, b.minimize, b.better, b.safety, ())

end Bundle

/-- Why a template store cannot be built. -/
inductive TemplateError where
  | parse (problem : Document.Problem)
  | unsupportedVersion (found : UInt32)
  | unknownCategory (key : String)
deriving Repr

/-- The text of an error. -/
def TemplateError.message : TemplateError → String
  | parse p => "failed to parse narrative templates: " ++ p.message
  | unsupportedVersion n =>
    "unsupported template data version " ++ toString n.toNat ++ " (supported: 1)"
  | unknownCategory key => "template bundle for unknown category '" ++ key ++ "'"

/-- Bundles by category, and a bundle for all other categories. -/
structure TemplateStore where
  bundles : Category → Option Bundle := fun _ => none
  default : Option Bundle := none

namespace TemplateStore

/-- The key of the default bundle, which is spelled in one way only. -/
def defaultKey : String := "default"

/-- The store with no bundles. -/
def empty : TemplateStore := {}

/-- The store with the bundle of a key replaced or added. -/
def add (s : TemplateStore) (key : String) (b : Bundle) : Except TemplateError TemplateStore :=
  if key = defaultKey then .ok { s with default := some b }
  else match Category.ofSpelling key with
    | .error _ => .error (.unknownCategory key)
    | .ok category =>
      .ok { s with bundles := fun c => if c = category then some b else s.bundles c }

/-- The store with the bundles of several keys, one after the other. -/
def addAll : List (String × Bundle) → TemplateStore → Except TemplateError TemplateStore
  | [], s => .ok s
  | (key, b) :: es, s => do
    let s ← s.add key b
    addAll es s

/-- The store of a map of bundles, whose keys are visited in order. -/
def ofBundles (bundles : SortedMap Bundle) : Except TemplateError TemplateStore :=
  addAll bundles.entries empty

/-- The version of template documents that can be read. -/
def supportedVersion : UInt32 := 1

open Document in
/-- The codec of template documents: a version and bundles by key. -/
def documentCodec : Codec (UInt32 × SortedMap Bundle) :=
  Codec.record "struct TemplateDocument"
    (.cons (required "version" Codec.word32) <|
     .cons (required "bundles" (Codec.map Bundle.codec)) .nil)
    (fun (v, bs, _) => (v, bs))
    fun d => (d.1, d.2, ())

/-- The store of a document; its version is checked before its keys. -/
def ofDocument (document : UInt32 × SortedMap Bundle) : Except TemplateError TemplateStore :=
  if document.1 = supportedVersion then ofBundles document.2
  else .error (.unsupportedVersion document.1)

/-- A store from the text of its document. -/
def read (text : String) : Except TemplateError TemplateStore :=
  match documentCodec.readText text with
  | .error p => .error (.parse p)
  | .ok document => ofDocument document

/-! ### Looking up -/

/-- Whether a category has a bundle of its own. -/
def hasBundle (s : TemplateStore) (c : Category) : Bool := (s.bundles c).isSome

/-- The bundle for categories without one; empty when the store has none. -/
def defaultBundle (s : TemplateStore) : Bundle := s.default.getD {}

/-- The bundle of a category: its own, or the default one. -/
def resolve (s : TemplateStore) (c : Category) : Bundle := (s.bundles c).getD s.defaultBundle

/-- The bundle of a spelling; one that names no category gets the default bundle. -/
def resolveKey (s : TemplateStore) (key : String) : Bundle :=
  match Category.ofSpelling key with
  | .ok c => s.resolve c
  | .error _ => s.defaultBundle

/-- The store with the placeholder filled in, in all bundles. -/
def withTarget (s : TemplateStore) (target : String) : TemplateStore :=
  { bundles := fun c => (s.bundles c).map (·.withTarget target),
    default := s.default.map (·.withTarget target) }

end TemplateStore

end CodeIdioms
