import CodeIdioms.Proofs.FileTree.Component
import CodeIdioms.Proofs.Location
import CodeIdioms.Scan.Selection

/-! # Paths below a root

A walk meets an entry at the path of its root, entered by one name after the other.  If all names are
texts then so is the path, and it is the one that is shown (`ofString_join`).  If one of them is not,
neither is the path (`ofBytes?_foldl_push`): no part of a character in UTF-8 is a slash, so the pieces of
a text are texts (`exists_ofString_of_mem_splitAt`).

Paths below one root are in the order of the names on their way (`before_join_iff`). -/

namespace CodeIdioms

/-! ### Texts and their bytes -/

namespace Text

theorem ofBytes?_eq_some_iff {bytes : List UInt8} {s : String} :
    ofBytes? bytes = some s ↔ FileName.ofString s = bytes := by
  have hbytes : FileName.ofString s = bytes ↔ s.toByteArray = ⟨bytes.toArray⟩ := by
    constructor
    · rintro rfl
      rfl
    · intro h
      show s.toByteArray.data.toList = bytes
      rw [h]
  rw [hbytes]
  unfold ofBytes? String.fromUTF8?
  constructor
  · intro h
    split at h
    · obtain rfl := Option.some.inj h
      rfl
    · cases h
  · intro h
    rw [← h, dif_pos s.isValidUTF8]
    rfl

/-- A slash is a part of no other character. -/
theorem slash_not_mem_encode {c : Char} (h : c ≠ '/') :
    FileName.slash ∉ String.utf8EncodeChar c := by
  have hc : c.val.toNat ≠ 47 := fun hval => h (Char.ext (UInt32.toNat_inj.1 hval))
  have hbyte {n : Nat} (hn : n < 256) (hne : n ≠ 47) : FileName.slash ≠ UInt8.ofNat n := by
    intro heq
    rw [← UInt8.toNat_inj, UInt8.toNat_ofNat_of_lt' hn] at heq
    exact hne heq.symm
  unfold String.utf8EncodeChar
  dsimp only
  split_ifs <;> simp only [List.mem_cons, List.not_mem_nil, or_false, not_or] <;> and_intros <;>
    exact hbyte (by omega) (by omega)

end Text

namespace Path

/-- Bytes without separators lengthen the first piece of what follows. -/
theorem splitAt_append_of_not_mem {separator : UInt8} {bytes rest piece : List UInt8}
    {pieces : List (List UInt8)} (h : separator ∉ bytes) (hrest : splitAt separator rest = piece :: pieces) :
    splitAt separator (bytes ++ rest) = (bytes ++ piece) :: pieces := by
  induction bytes with
  | nil => exact hrest
  | cons b bytes ih =>
    obtain ⟨hb, h⟩ := not_or.1 (List.mem_cons.not.1 h)
    rw [List.cons_append, splitAt, if_neg (Ne.symm hb), ih h]
    rfl

theorem exists_pieces (cs : List Char) :
    ∃ pieces : List (List Char), splitAt FileName.slash (cs.flatMap String.utf8EncodeChar)
      = pieces.map fun piece => piece.flatMap String.utf8EncodeChar := by
  induction cs with
  | nil => exact ⟨[[]], rfl⟩
  | cons c cs ih =>
    obtain ⟨pieces, h⟩ := ih
    rw [List.flatMap_cons]
    by_cases hc : c = '/'
    · subst hc
      refine ⟨[] :: pieces, ?_⟩
      rw [show String.utf8EncodeChar '/' = [FileName.slash] from rfl, List.singleton_append,
        ← List.nil_append (FileName.slash :: _), splitAt_append, h]
      rfl
    · obtain ⟨piece, pieces, rfl⟩ : ∃ piece pieces', pieces = piece :: pieces' :=
        List.exists_cons_of_ne_nil fun hnil => splitAt_ne_nil _ (by rw [h, hnil]; rfl)
      refine ⟨(c :: piece) :: pieces, ?_⟩
      rw [splitAt_append_of_not_mem (Text.slash_not_mem_encode hc) h]
      rfl

/-- The pieces of a text are texts. -/
theorem exists_ofString_of_mem_splitAt {s : String} {piece : List UInt8}
    (h : piece ∈ splitAt FileName.slash (FileName.ofString s)) : ∃ t, FileName.ofString t = piece := by
  obtain ⟨pieces, hpieces⟩ := exists_pieces s.toList
  rw [show FileName.ofString s = _ from Text.bytesOf_eq s, hpieces] at h
  obtain ⟨cs, -, rfl⟩ := List.mem_map.1 h
  refine ⟨String.ofList cs, ?_⟩
  rw [show FileName.ofString (String.ofList cs) = _ from Text.bytesOf_eq _, String.toList_ofList]

theorem mem_splitAt_of_name_mem {path : List UInt8} {n : FileName}
    (h : Component.name n ∈ components path) : n ∈ splitAt FileName.slash path := by
  obtain hstart | hpiece := List.mem_append.1 h
  · unfold start at hstart
    split at hstart
    · cases List.mem_singleton.1 hstart
    · split at hstart
      · cases List.mem_singleton.1 hstart
      · cases hstart
  · obtain ⟨piece, hmem, hpiece⟩ := List.mem_filterMap.1 hpiece
    unfold Component.ofPiece? at hpiece
    split at hpiece
    · cases hpiece
    · split at hpiece
      · cases hpiece
      · obtain rfl := Component.name.inj (Option.some.inj hpiece)
        exact hmem

/-! ### Joining -/

section
variable {root : String}

theorem getLast?_append_ne {before bytes : List UInt8} (hne : bytes ≠ [])
    (hslash : FileName.slash ∉ bytes) : (before ++ bytes).getLast? ≠ some FileName.slash := by
  rw [List.getLast?_append]
  cases hlast : bytes.getLast? with
  | none => exact absurd (List.getLast?_eq_none_iff.1 hlast) hne
  | some b =>
    rw [Option.some_or]
    exact fun h => hslash (Option.some.inj h ▸ List.mem_of_getLast? hlast)

/-- Whether a path needs no slash before a name that is joined to it. -/
theorem isSeparated_iff : (root.isEmpty || root.endsWith "/") = true ↔
    FileName.ofString root = [] ∨ (FileName.ofString root).getLast? = some FileName.slash := by
  have hends : root.endsWith "/" = true ↔ ['/'] <:+ root.toList := by
    rw [String.endsWith_eq_endsWith_toSlice]
    have hslice : root.toSlice.endsWith "/" = true ↔ _ := String.Slice.endsWith_string_iff
    simpa using hslice
  have hbytes : FileName.ofString root = root.toList.flatMap String.utf8EncodeChar :=
    Text.bytesOf_eq root
  rw [Bool.or_eq_true, hends, hbytes]
  rcases List.eq_nil_or_concat root.toList with hnil | ⟨cs, c, hcs⟩
  · rw [hnil]
    simp [String.toList_eq_nil_iff.1 hnil]
  · rw [List.concat_eq_append] at hcs
    have hne : root.isEmpty = true ↔ False := by
      rw [String.isEmpty_iff, ← String.toList_eq_nil_iff, hcs]
      simp
    have hsuffix : ['/'] <:+ cs ++ [c] ↔ c = '/' := by
      rw [List.singleton_suffix_iff_getLast?_eq_some, List.getLast?_concat, Option.some_inj]
    have hbytes : (cs ++ [c]).flatMap String.utf8EncodeChar = [] ↔ False := by
      simp
    rw [hne, hcs, hsuffix, hbytes, false_or, false_or, List.flatMap_append, List.flatMap_singleton]
    constructor
    · rintro rfl
      exact List.getLast?_concat
    · intro hlast
      by_contra hc
      exact getLast?_append_ne (Text.encode_ne_nil c) (Text.slash_not_mem_encode hc) hlast

theorem join_eq (root name : String) (names : List String) : join root (name :: names)
    = (if root.isEmpty || root.endsWith "/" then root else root ++ "/")
      ++ "/".intercalate (name :: names) := rfl

theorem ofString_join_singleton (name : String) :
    FileName.ofString (join root [name]) = push (FileName.ofString root) (FileName.ofString name) := by
  rw [join_eq, String.intercalate_singleton]
  show Span.bytesOf _ = _
  rw [Span.bytesOf_append]
  unfold push
  simp only [isSeparated_iff]
  split
  · rfl
  · rw [Span.bytesOf_append]
    rfl

theorem not_separated_push (path : List UInt8) {n : FileName} (h : n.IsProper) :
    ¬ (push path n = [] ∨ (push path n).getLast? = some FileName.slash) := by
  unfold push
  rw [List.append_eq_nil_iff]
  rintro (⟨-, hnil⟩ | hlast)
  · exact h.ne_nil hnil
  · exact getLast?_append_ne h.ne_nil h.no_slash hlast

/-- Names are joined one after the other. -/
theorem join_cons {name : String} (hname : (FileName.ofString name).IsProper) (names : List String) :
    join root (name :: names) = join (join root [name]) names := by
  cases names with
  | nil => rfl
  | cons name' names =>
    have hopen : ¬ ((join root [name]).isEmpty || (join root [name]).endsWith "/") = true := by
      rw [isSeparated_iff, ofString_join_singleton]
      exact not_separated_push _ hname
    rw [join_eq (join root [name]), if_neg hopen, join_eq root, join_eq root,
      String.intercalate_cons_cons, String.intercalate_singleton]
    simp only [String.append_assoc]

/-- A path below a root is the root, entered by the bytes of the names. -/
theorem ofString_join {names : List String} (h : ∀ name ∈ names, (FileName.ofString name).IsProper) :
    FileName.ofString (join root names)
      = (names.map FileName.ofString).foldl push (FileName.ofString root) := by
  induction names generalizing root with
  | nil => rfl
  | cons name names ih =>
    obtain ⟨hname, hnames⟩ := List.forall_mem_cons.1 h
    rw [join_cons hname, ih hnames, ofString_join_singleton]
    rfl

/-- The components of a path below a root are those of the root and the names. -/
theorem components_join {names : List String} (h : ∀ name ∈ names, (FileName.ofString name).IsProper) :
    components (FileName.ofString (join root names))
      = components (FileName.ofString root) ++ names.map fun name => .name (FileName.ofString name) := by
  rw [ofString_join h, components_foldl_push _ fun n hn => ?_, List.map_map]
  · rfl
  · obtain ⟨name, hname, rfl⟩ := List.mem_map.1 hn
    exact h name hname

theorem before_name_iff {s t : String} :
    Component.Before (.name (FileName.ofString s)) (.name (FileName.ofString t)) ↔ s < t :=
  Text.lt_iff_bytesBefore.symm

theorem ofString_inj {s t : String} : FileName.ofString s = FileName.ofString t ↔ s = t := by
  constructor
  · intro h
    exact Option.some.inj ((Text.ofBytes?_eq_some_iff.2 h).symm.trans (Text.ofBytes?_eq_some_iff.2 rfl))
  · rintro rfl
    rfl

theorem lex_map_name_iff (names names' : List String) :
    List.Lex Component.Before (names.map fun name => .name (FileName.ofString name))
      (names'.map fun name => .name (FileName.ofString name)) ↔ names < names' := by
  induction names generalizing names' with
  | nil => cases names' <;> simp
  | cons name names ih =>
    cases names' with
    | nil => simp
    | cons name' names' =>
      rw [List.map_cons, List.map_cons, List.cons_lex_cons_iff, before_name_iff, ih,
        Component.name.injEq, ofString_inj, List.cons_lt_cons_iff]

/-- Paths below a root are in the order of the names that lead to them. -/
theorem before_join_iff {names names' : List String}
    (h : ∀ name ∈ names, (FileName.ofString name).IsProper)
    (h' : ∀ name ∈ names', (FileName.ofString name).IsProper) :
    Before (join root names) (join root names') ↔ names < names' := by
  unfold Before
  rw [components_join h, components_join h', Text.lex_append_left Component.not_before_self,
    lex_map_name_iff]

end

end Path

/-! ### Names that are texts -/

theorem text?_ofString (s : String) : (FileName.ofString s).text? = some s :=
  Text.ofBytes?_eq_some_iff.2 rfl

namespace Selection

theorem namesOf?_eq_some_iff {l : Location} {names : List String} :
    namesOf? l = some names ↔ names.map FileName.ofString = l := by
  unfold namesOf?
  induction l generalizing names with
  | nil => cases names <;> simp
  | cons n l ih =>
    rw [List.mapM_cons]
    simp only [Option.bind_eq_bind, Option.bind_eq_some_iff, Option.pure_def, Option.some_inj, ih,
      FileName.text?, Text.ofBytes?_eq_some_iff]
    constructor
    · rintro ⟨name, rfl, names, rfl, rfl⟩
      rfl
    · intro h
      cases names with
      | nil => cases h
      | cons name names =>
        obtain ⟨hname, hnames⟩ := List.cons.inj h
        exact ⟨name, hname, names, hnames, rfl⟩

theorem isProper_of_namesOf? {l : Location} (h : ∀ n ∈ l, FileName.IsProper n) {names : List String}
    (hnames : namesOf? l = some names) : ∀ name ∈ names, (FileName.ofString name).IsProper := by
  rw [← namesOf?_eq_some_iff.1 hnames] at h
  exact fun name hname => h _ (List.mem_map_of_mem hname)

/-- The path at which a walk meets an entry is a text if and only if all names are. -/
theorem ofBytes?_foldl_push (root : String) {l : Location} (h : ∀ n ∈ l, FileName.IsProper n) :
    Text.ofBytes? (l.foldl Path.push (FileName.ofString root)) = (namesOf? l).map (Path.join root) := by
  cases hnames : namesOf? l with
  | some names =>
    rw [Option.map_some, Text.ofBytes?_eq_some_iff, Path.ofString_join (isProper_of_namesOf? h hnames),
      namesOf?_eq_some_iff.1 hnames]
  | none =>
    rw [Option.map_none, Option.eq_none_iff_forall_ne_some]
    intro path hpath
    rw [Text.ofBytes?_eq_some_iff] at hpath
    have htext : ∀ n ∈ l, ∃ name, FileName.ofString name = n := by
      intro n hn
      apply Path.exists_ofString_of_mem_splitAt (s := path)
      apply Path.mem_splitAt_of_name_mem
      rw [hpath, Path.components_foldl_push _ h]
      exact List.mem_append_right _ (List.mem_map_of_mem hn)
    obtain ⟨names, hl⟩ : l ∈ Set.range (List.map FileName.ofString) := by
      rw [Set.range_list_map]
      exact htext
    rw [namesOf?_eq_some_iff.2 hl] at hnames
    cases hnames

end Selection

end CodeIdioms
