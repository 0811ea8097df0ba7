/-! # Replacing a part of a text

Occurrences are replaced from left to right in one pass, so what is put in is never looked at
again. -/

namespace CodeIdioms.Text

/-- Replaces the occurrences of `needle`, which is not empty; `skip` characters belong to an
occurrence that has been replaced already. -/
def replaceFrom (needle new : List Char) : Nat → List Char → List Char
  | _, [] => []
  | skip + 1, _ :: cs => replaceFrom needle new skip cs
  | 0, c :: cs =>
    if needle.isPrefixOf (c :: cs) then new ++ replaceFrom needle new (needle.length - 1) cs
    else c :: replaceFrom needle new 0 cs

/-- The text with every occurrence of `needle` replaced. -/
def replace (needle new s : String) : String :=
  String.ofList (replaceFrom needle.toList new.toList 0 s.toList)

end CodeIdioms.Text
