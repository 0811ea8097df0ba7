import CodeIdioms.FileTree.Path
import CodeIdioms.Proofs.Text.ByteOrder

/-! # Components of paths

A path is taken apart at its slashes.  Empty pieces and dots are dropped, except that a path may begin
at the top of the tree or with a dot, and two dots lead to the directory above (`Path.components`).
Paths are ordered by their components, one after the other (`Path.Before`), so `a/b.js` comes before
`a-b.js` though a hyphen comes before a slash.

The name of a file is none of these pieces (`FileName.IsProper`).  Hence a path that is entered by such
a name has one component more, however it is written (`Path.components_push`). -/

namespace CodeIdioms

/-- A part of a path: the top of the tree, the directory itself, the directory above, or a name. -/
inductive Component where
  | top
  | here
  | above
  | name (n : FileName)
deriving DecidableEq, Repr

namespace Component

/-- The place of a kind of components in their order. -/
def rank : Component → Nat
  | top => 0
  | here => 1
  | above => 2
  | name _ => 3

/-- The order of components: by kinds, and names by bytes. -/
def Before : Component → Component → Prop
  | name m, name n => List.Lex (· < ·) m n
  | c, d => c.rank < d.rank

instance : DecidableRel Before := fun c d => by
  cases c <;> cases d <;> unfold Before <;> infer_instance

theorem not_before_self (c : Component) : ¬ Before c c := by
  cases c with
  | top => exact lt_irrefl _
  | here => exact lt_irrefl _
  | above => exact lt_irrefl _
  | name n => exact List.lt_irrefl n

/-- The component that a piece of a path is. -/
def ofPiece? (piece : List UInt8) : Option Component :=
  if piece = [] ∨ piece = FileName.here then none
  else if piece = FileName.above then some above
  else some (name piece)

end Component

/-- A name that a directory can have an entry by. -/
structure FileName.IsProper (n : FileName) : Prop where
  ne_nil : n ≠ []
  no_slash : FileName.slash ∉ n
  ne_here : n ≠ FileName.here
  ne_above : n ≠ FileName.above

instance (n : FileName) : Decidable n.IsProper :=
  decidable_of_iff (n ≠ [] ∧ FileName.slash ∉ n ∧ n ≠ FileName.here ∧ n ≠ FileName.above)
    ⟨fun ⟨h₁, h₂, h₃, h₄⟩ => ⟨h₁, h₂, h₃, h₄⟩, fun ⟨h₁, h₂, h₃, h₄⟩ => ⟨h₁, h₂, h₃, h₄⟩⟩

namespace Path

/-- The component that a path begins with, if it begins at the top of the tree or with a dot. -/
def start (path : List UInt8) : List Component :=
  if path.head? = some FileName.slash then [.top]
  else if (splitAt FileName.slash path).head? = some FileName.here then [.here]
  else []

/-- The components of a path. -/
def components (path : List UInt8) : List Component :=
  start path ++ (splitAt FileName.slash path).filterMap Component.ofPiece?

/-- The order of paths. -/
def Before (p q : String) : Prop :=
  List.Lex Component.Before (components (FileName.ofString p)) (components (FileName.ofString q))

instance : DecidableRel Before := fun p q => by
  unfold Before
  infer_instance

theorem not_before_self (path : String) : ¬ Before path path := by
  intro h
  have hsame := Text.lex_append_left Component.not_before_self (components (FileName.ofString path)) [] []
  rw [List.append_nil] at hsame
  cases hsame.1 h

example : Before "a/b.js" "a-b.js" := by decide +kernel

/-- The path to an entry of the directory at a path. -/
def push (path : List UInt8) (n : FileName) : List UInt8 :=
  (if path = [] ∨ path.getLast? = some FileName.slash then path else path ++ [FileName.slash]) ++ n

/-! ### Pieces -/

section
variable {separator : UInt8}

theorem splitAt_ne_nil (bytes : List UInt8) : splitAt separator bytes ≠ [] := by
  cases bytes with
  | nil => exact List.cons_ne_nil _ _
  | cons b bytes =>
    rw [splitAt]
    split
    · exact List.cons_ne_nil _ _
    · split <;> exact List.cons_ne_nil _ _

theorem splitAt_append (before after : List UInt8) :
    splitAt separator (before ++ separator :: after)
      = splitAt separator before ++ splitAt separator after := by
  induction before with
  | nil => simp [splitAt]
  | cons b before ih =>
    rw [List.cons_append, splitAt, splitAt, ih]
    split
    · rfl
    · obtain ⟨piece, pieces, h⟩ : ∃ piece pieces, splitAt separator before = piece :: pieces :=
        List.exists_cons_of_ne_nil (splitAt_ne_nil before)
      rw [h]
      rfl

theorem splitAt_of_not_mem {bytes : List UInt8} (h : separator ∉ bytes) :
    splitAt separator bytes = [bytes] := by
  induction bytes with
  | nil => rfl
  | cons b bytes ih =>
    obtain ⟨hb, h⟩ := not_or.1 (List.mem_cons.not.1 h)
    rw [splitAt, if_neg (Ne.symm hb), ih h]

end

theorem ofPiece?_of_isProper {n : FileName} (h : n.IsProper) : Component.ofPiece? n = some (.name n) := by
  unfold Component.ofPiece?
  rw [if_neg (not_or.2 ⟨h.ne_nil, h.ne_here⟩), if_neg h.ne_above]

/-! ### Entering a directory -/

theorem filterMap_splitAt_of_isProper {n : FileName} (h : n.IsProper) :
    (splitAt FileName.slash n).filterMap Component.ofPiece? = [.name n] := by
  rw [splitAt_of_not_mem h.no_slash, List.filterMap_cons, ofPiece?_of_isProper h]
  rfl

/-- What follows a slash is taken apart on its own. -/
theorem components_append_slash {path : List UInt8} (hpath : path ≠ []) (rest : List UInt8) :
    components (path ++ FileName.slash :: rest)
      = components path ++ (splitAt FileName.slash rest).filterMap Component.ofPiece? := by
  have hstart : start (path ++ FileName.slash :: rest) = start path := by
    unfold start
    rw [splitAt_append, List.head?_append_of_ne_nil _ (splitAt_ne_nil _),
      List.head?_append_of_ne_nil _ hpath]
  unfold components
  rw [hstart, splitAt_append, List.filterMap_append, List.append_assoc]

/-- A path to an entry has the name of the entry as its last component. -/
theorem components_push (path : List UInt8) {n : FileName} (h : n.IsProper) :
    components (push path n) = components path ++ [.name n] := by
  have hn := filterMap_splitAt_of_isProper h
  unfold push
  split
  · rename_i hends
    rcases hends with rfl | hends
    · -- the path of the working directory, written with nothing
      have hstart : start n = [] := by
        unfold start
        rw [splitAt_of_not_mem h.no_slash, if_neg, if_neg]
        · exact fun hhere => h.ne_here (Option.some.inj hhere)
        · exact fun hslash => h.no_slash (List.mem_of_head? hslash)
      rw [List.nil_append]
      unfold components
      rw [hstart, hn]
      rfl
    · obtain ⟨before, rfl⟩ := List.getLast?_eq_some_iff.1 hends
      rw [List.append_assoc, List.singleton_append]
      cases before with
      | nil =>
        show components (FileName.slash :: n) = [.top] ++ [.name n]
        unfold components
        rw [show FileName.slash :: n = [] ++ FileName.slash :: n from rfl, splitAt_append,
          List.filterMap_append, hn]
        rfl
      | cons b before =>
        rw [components_append_slash (List.cons_ne_nil _ _), hn,
          components_append_slash (List.cons_ne_nil _ _) [], List.append_assoc]
        rfl
  · rename_i hends
    rw [List.append_assoc, List.singleton_append,
      components_append_slash (not_or.1 hends).1, hn]

/-- The components of a location below a path are those of the path and the names. -/
theorem components_foldl_push (path : List UInt8) {l : Location} (h : ∀ n ∈ l, FileName.IsProper n) :
    components (l.foldl push path) = components path ++ l.map .name := by
  induction l generalizing path with
  | nil => simp
  | cons n l ih =>
    obtain ⟨hn, hl⟩ := List.forall_mem_cons.1 h
    rw [List.foldl_cons, ih _ hl, components_push path hn, List.append_assoc]
    rfl

end Path

end CodeIdioms
