/-! # Columns

Texts in columns are filled up with spaces to a number of characters; longer texts stay as they
are. -/

namespace CodeIdioms.Text

/-- A text filled up on the right. -/
def padRight (width : Nat) (s : String) : String :=
  s ++ String.ofList (List.replicate (width - s.length) ' ')

end CodeIdioms.Text
