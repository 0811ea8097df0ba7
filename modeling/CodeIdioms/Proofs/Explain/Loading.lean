import CodeIdioms.Explain.Template
import CodeIdioms.Proofs.SortedMap
import CodeIdioms.Proofs.Text.ByteOrder
import Mathlib

/-! # Loading templates

A document of templates makes a store if and only if its version is 1 and every key is the default
key or names a category; otherwise the version is told, or else the least key that is neither
(`Fault`).  The default key has one spelling, and a category has many, so several keys can name one
category.  Entries are taken in the order of their keys, and every entry replaces what was taken for
its category: what a store holds in the end is what the last entry gave (`addAll_of_valid`), which
is the one with the greatest key.  A category without an entry has the default bundle, and without a
default entry the empty one (`IsBundleOf`); a spelling is looked up as the category that it names
(`resolveKey_of_named`).  All of it is `ofDocument_iff`. -/

namespace CodeIdioms.TemplateStore

/-! ### Keys -/

/-- A key that a document may have: the default one, or one that names a category. -/
def KeyValid (key : String) : Prop := key = defaultKey ∨ ∃ c, Category.ofSpelling key = .ok c

/-- A key that is not the default one names a category. -/
def Names (key : String) (c : Category) : Prop :=
  key ≠ defaultKey ∧ Category.ofSpelling key = .ok c

instance (key : String) (c : Category) : Decidable (Names key c) :=
  inferInstanceAs (Decidable (_ ∧ _))

section
variable {s : TemplateStore} {key : String} {b : Bundle}

theorem add_of_not_valid (h : ¬ KeyValid key) : s.add key b = .error (.unknownCategory key) := by
  obtain ⟨hdefault, hunnamed⟩ := not_or.1 h
  unfold add
  rw [if_neg hdefault]
  cases hc : Category.ofSpelling key with
  | error _ => rfl
  | ok c => exact absurd ⟨c, hc⟩ hunnamed

/-- A valid entry replaces the bundle of its category, or the default one, and nothing else. -/
theorem add_of_valid (h : KeyValid key) : ∃ s', s.add key b = .ok s' ∧
    (∀ c, s'.bundles c = if Names key c then some b else s.bundles c) ∧
    s'.default = if key = defaultKey then some b else s.default := by
  unfold add
  by_cases hdefault : key = defaultKey
  · rw [if_pos hdefault]
    refine ⟨_, rfl, fun c => ?_, (if_pos hdefault).symm⟩
    rw [if_neg fun hnames => hnames.1 hdefault]
  · obtain ⟨c, hc⟩ := h.resolve_left hdefault
    rw [if_neg hdefault, hc]
    refine ⟨_, rfl, fun c' => ?_, (if_neg hdefault).symm⟩
    have hnames : Names key c' ↔ c' = c := by
      unfold Names
      rw [hc, Except.ok.injEq, eq_comm]
      exact and_iff_right hdefault
    simp only [hnames]

/-! ### Entries -/

/-- The bundle of the last entry whose key passes a test. -/
def lastBundle? (p : String → Bool) (es : List (String × Bundle)) : Option Bundle :=
  (es.findRev? fun x => p x.1).map (·.2)

/-- The first entry decides if no later one does. -/
theorem lastBundle?_cons_or (p : String → Bool) (x : String × Bundle) (es : List (String × Bundle))
    (o : Option Bundle) :
    (lastBundle? p (x :: es)).or o = (lastBundle? p es).or (if p x.1 then some x.2 else o) := by
  unfold lastBundle?
  rw [List.findRev?]
  cases es.findRev? fun x => p x.1 with
  | some y => rfl
  | none => cases p x.1 <;> rfl

/-- Entries are taken up to the first one with a key that a document may not have. -/
theorem addAll_of_not_valid {before after : List (String × Bundle)} {x : String × Bundle}
    (hbefore : ∀ y ∈ before, KeyValid y.1) (hx : ¬ KeyValid x.1) :
    addAll (before ++ x :: after) s = .error (.unknownCategory x.1) := by
  induction before generalizing s with
  | nil =>
    rw [List.nil_append, addAll, add_of_not_valid hx]
    rfl
  | cons y before ih =>
    obtain ⟨hy, hbefore⟩ := List.forall_mem_cons.1 hbefore
    obtain ⟨s', hadd, _⟩ := add_of_valid (s := s) (b := y.2) hy
    rw [List.cons_append, addAll, hadd]
    exact ih hbefore

/-- Valid entries are all taken, and of several for one bundle the last one counts. -/
theorem addAll_of_valid {es : List (String × Bundle)} (h : ∀ x ∈ es, KeyValid x.1) :
    ∃ s', addAll es s = .ok s' ∧
      (∀ c, s'.bundles c = (lastBundle? (fun k => Names k c) es).or (s.bundles c)) ∧
      s'.default = (lastBundle? (fun k => k = defaultKey) es).or s.default := by
  induction es generalizing s with
  | nil => exact ⟨s, rfl, fun c => rfl, rfl⟩
  | cons x es ih =>
    obtain ⟨hx, hes⟩ := List.forall_mem_cons.1 h
    obtain ⟨s₁, hadd, hbundles₁, hdefault₁⟩ := add_of_valid (s := s) (b := x.2) hx
    obtain ⟨s₂, haddAll, hbundles₂, hdefault₂⟩ := ih (s := s₁) hes
    refine ⟨s₂, ?_, fun c => ?_, ?_⟩
    · rw [addAll, hadd]
      exact haddAll
    · rw [hbundles₂, hbundles₁, lastBundle?_cons_or]
      simp only [decide_eq_true_eq]
    · rw [hdefault₂, hdefault₁, lastBundle?_cons_or]
      simp only [decide_eq_true_eq]

/-- Of two spellings of a category the later one counts. -/
example (b b' : Bundle) : (addAll [("Async", b), ("async", b')] empty).map (·.bundles .async)
    = .ok (some b') := by
  rfl

end

/-! ### Documents -/

section
variable (version : UInt32) (bundles : SortedMap Bundle)

/-- A document that makes a store. -/
structure Accepts : Prop where
  version_eq : version = 1
  keys : ∀ x ∈ bundles.entries, KeyValid x.1

/-- Why a document makes no store: its version is another one, or else a key is not valid and all
smaller keys are. -/
inductive Fault : TemplateError → Prop
  | version (wrong : version ≠ 1) : Fault (.unsupportedVersion version)
  | key {x : String × Bundle} (supported : version = 1) (mem : x ∈ bundles.entries)
      (bad : ¬ KeyValid x.1)
      (least : ∀ y ∈ bundles.entries, Text.BytesBefore y.1 x.1 → KeyValid y.1) :
      Fault (.unknownCategory x.1)

/-- The bundle for what has none of its own: that of the default key, or the empty one. -/
inductive IsDefault : Bundle → Prop
  | given {b : Bundle} (mem : (defaultKey, b) ∈ bundles.entries) : IsDefault b
  | missing (none : ∀ x ∈ bundles.entries, x.1 ≠ defaultKey) :
      IsDefault { celebrate := [], minimize := [], better := [], safety := [] }

/-- The bundle of a category: that of the greatest key which names the category, or the default one
if no key does. -/
inductive IsBundleOf (c : Category) : Bundle → Prop
  | own {x : String × Bundle} (mem : x ∈ bundles.entries) (names : Names x.1 c)
      (greatest : ∀ y ∈ bundles.entries, Names y.1 c → y.1 = x.1 ∨ Text.BytesBefore y.1 x.1) :
      IsBundleOf c x.2
  | default {b : Bundle} (unnamed : ∀ x ∈ bundles.entries, ¬ Names x.1 c)
      (default : IsDefault bundles b) : IsBundleOf c b

/-- The store of a document: what it finds for categories and for spellings. -/
structure IsStoreOf (s : TemplateStore) : Prop where
  resolve_iff (c : Category) (b : Bundle) : s.resolve c = b ↔ IsBundleOf bundles c b
  hasBundle_iff (c : Category) : s.hasBundle c = true ↔ ∃ x ∈ bundles.entries, Names x.1 c
  resolveKey_of_named {key : String} {c : Category} (named : Category.ofSpelling key = .ok c) :
    s.resolveKey key = s.resolve c
  resolveKey_of_unnamed {key : String} (unnamed : ∀ c, Category.ofSpelling key ≠ .ok c)
    (b : Bundle) : s.resolveKey key = b ↔ IsDefault bundles b

end

section
variable {version : UInt32} {bundles : SortedMap Bundle} {s : TemplateStore}

/-- The last bundle for a test is that of the greatest key that passes it. -/
theorem lastBundle?_eq_some {p : String → Bool} {b : Bundle} :
    lastBundle? p bundles.entries = some b ↔ ∃ x ∈ bundles.entries, p x.1 = true ∧
      (∀ y ∈ bundles.entries, p y.1 = true → y.1 = x.1 ∨ Text.BytesBefore y.1 x.1) ∧ x.2 = b := by
  unfold lastBundle?
  rw [Option.map_eq_some_iff]
  simp only [SortedMap.findRev?_entries_eq_some, Text.lt_iff_bytesBefore, and_assoc]

theorem lastBundle?_eq_none {p : String → Bool} :
    lastBundle? p bundles.entries = none ↔ ∀ x ∈ bundles.entries, ¬ p x.1 = true := by
  unfold lastBundle?
  rw [Option.map_eq_none_iff, SortedMap.findRev?_entries_eq_none]

/-! ### Looking up -/

/-- What a store holds that was made of entries: of several for one bundle the last one. -/
structure MadeOf (bundles : SortedMap Bundle) (s : TemplateStore) : Prop where
  bundles_eq (c : Category) : s.bundles c = lastBundle? (fun k => Names k c) bundles.entries
  default_eq : s.default = lastBundle? (fun k => k = defaultKey) bundles.entries

theorem hasBundle_iff (h : MadeOf bundles s) (c : Category) :
    s.hasBundle c = true ↔ ∃ x ∈ bundles.entries, Names x.1 c := by
  unfold hasBundle
  rw [h.bundles_eq, ← not_iff_not, Bool.not_eq_true, Option.isSome_eq_false_iff,
    Option.isNone_iff_eq_none, lastBundle?_eq_none]
  simp only [decide_eq_true_eq, not_exists, not_and]

theorem defaultBundle_iff (h : MadeOf bundles s) (b : Bundle) :
    s.defaultBundle = b ↔ IsDefault bundles b := by
  unfold defaultBundle
  rw [h.default_eq]
  cases hlast : lastBundle? (fun k => k = defaultKey) bundles.entries with
  | none =>
    rw [lastBundle?_eq_none] at hlast
    simp only [decide_eq_true_eq] at hlast
    constructor
    · rintro rfl
      exact .missing hlast
    · rintro (hmem | _)
      · exact absurd rfl (hlast _ hmem)
      · rfl
  | some b' =>
    obtain ⟨⟨key, _⟩, hmem, hkey, _, rfl⟩ := lastBundle?_eq_some.1 hlast
    obtain rfl : key = defaultKey := of_decide_eq_true hkey
    constructor
    · rintro rfl
      exact .given hmem
    · rintro (hmem' | hnone)
      · rw [← SortedMap.get?_eq_some] at hmem hmem'
        exact Option.some.inj (hmem.symm.trans hmem')
      · exact absurd rfl (hnone _ hmem)

theorem resolve_iff (h : MadeOf bundles s) (c : Category) (b : Bundle) :
    s.resolve c = b ↔ IsBundleOf bundles c b := by
  unfold resolve
  rw [h.bundles_eq]
  cases hlast : lastBundle? (fun k => Names k c) bundles.entries with
  | none =>
    rw [lastBundle?_eq_none] at hlast
    simp only [decide_eq_true_eq] at hlast
    rw [Option.getD_none, defaultBundle_iff h]
    constructor
    · exact .default hlast
    · rintro (⟨hmem, hnames, _⟩ | ⟨_, hdefault⟩)
      · exact absurd hnames (hlast _ hmem)
      · exact hdefault
  | some b' =>
    obtain ⟨x, hmem, hnames, hgreatest, rfl⟩ := lastBundle?_eq_some.1 hlast
    simp only [decide_eq_true_eq] at hnames hgreatest
    constructor
    · rintro rfl
      exact .own hmem hnames hgreatest
    · rintro (⟨hmem', hnames', hgreatest'⟩ | ⟨hunnamed, _⟩)
      · have hlast' := lastBundle?_eq_some (p := fun k => Names k c)
          |>.2 ⟨_, hmem', by simpa using hnames', by simpa using hgreatest', rfl⟩
        exact Option.some.inj (hlast.symm.trans hlast')
      · exact absurd hnames (hunnamed x hmem)

theorem isStoreOf_of_madeOf (h : MadeOf bundles s) : IsStoreOf bundles s where
  resolve_iff := resolve_iff h
  hasBundle_iff := hasBundle_iff h
  resolveKey_of_named {key c} named := by
    unfold resolveKey
    rw [named]
  resolveKey_of_unnamed {key} unnamed b := by
    unfold resolveKey
    cases hc : Category.ofSpelling key with
    | error _ => exact defaultBundle_iff h b
    | ok c => exact absurd hc (unnamed c)

/-! ### Reading -/

theorem ofDocument_of_version (h : version = 1) :
    ofDocument (version, bundles) = ofBundles bundles := if_pos h

theorem ofDocument_of_accepts (h : Accepts version bundles) :
    ∃ s, ofDocument (version, bundles) = .ok s ∧ MadeOf bundles s := by
  obtain ⟨s, hs, hbundles, hdefault⟩ := addAll_of_valid (s := empty) h.keys
  refine ⟨s, ?_, fun c => ?_, ?_⟩
  · rw [ofDocument_of_version h.version_eq]
    exact hs
  · rw [hbundles]
    exact Option.or_none
  · rw [hdefault]
    exact Option.or_none

theorem ofDocument_of_fault {e : TemplateError} (h : Fault version bundles e) :
    ofDocument (version, bundles) = .error e := by
  cases h with
  | version wrong => exact if_neg wrong
  | @key x supported mem bad least =>
    obtain ⟨before, after, hsplit⟩ := List.append_of_mem mem
    have hbefore : ∀ y ∈ before, KeyValid y.1 := by
      intro y hy
      obtain ⟨hmem, hkey⟩ := (SortedMap.mem_before_iff (hsplit ▸ bundles.ascending)).1 hy
      exact least y (hsplit ▸ hmem) (Text.lt_iff_bytesBefore.1 hkey)
    rw [ofDocument_of_version supported, ofBundles, hsplit]
    exact addAll_of_not_valid hbefore bad

variable (version bundles) in
theorem accepts_or_fault : Accepts version bundles ∨ ∃ e, Fault version bundles e := by
  by_cases hversion : version = 1
  · by_cases hkeys : ∀ x ∈ bundles.entries, KeyValid x.1
    · exact .inl ⟨hversion, hkeys⟩
    · push Not at hkeys
      obtain ⟨x, hmem, hx⟩ := hkeys
      obtain ⟨x, hfirst⟩ := Lookup.exists_first (P := fun x => ¬ KeyValid x.1) hmem hx
      refine .inr ⟨_, .key hversion hfirst.mem hfirst.found fun y hy hkey => ?_⟩
      obtain ⟨split, hbefore, _⟩ := hfirst
      refine not_not.1 (hbefore y ((SortedMap.mem_before_iff (split ▸ bundles.ascending)).2 ?_))
      exact ⟨split ▸ hy, Text.lt_iff_bytesBefore.2 hkey⟩
  · exact .inr ⟨_, .version hversion⟩

theorem exists_ofDocument_iff :
    (∃ s, ofDocument (version, bundles) = .ok s) ↔ Accepts version bundles := by
  constructor
  · rintro ⟨s, hs⟩
    refine (accepts_or_fault version bundles).resolve_right ?_
    rintro ⟨e, fault⟩
    rw [ofDocument_of_fault fault] at hs
    cases hs
  · intro h
    obtain ⟨s, hs, _⟩ := ofDocument_of_accepts h
    exact ⟨s, hs⟩

theorem ofDocument_eq_error {e : TemplateError} :
    ofDocument (version, bundles) = .error e ↔ Fault version bundles e := by
  refine ⟨fun h => ?_, ofDocument_of_fault⟩
  obtain accepts | ⟨e', fault⟩ := accepts_or_fault version bundles
  · obtain ⟨s, hs, _⟩ := ofDocument_of_accepts accepts
    rw [hs] at h
    cases h
  · rw [ofDocument_of_fault fault, Except.error.injEq] at h
    exact h ▸ fault

theorem madeOf_ofDocument (h : ofDocument (version, bundles) = .ok s) : MadeOf bundles s := by
  obtain ⟨s', hs', hmade⟩ := ofDocument_of_accepts (exists_ofDocument_iff.1 ⟨s, h⟩)
  rw [h, Except.ok.injEq] at hs'
  exact hs' ▸ hmade

end

/-- **Loading templates.**  A document makes a store if and only if its version is 1 and all its
keys are valid; of others the version is told, or else the least key that is not valid; and the
store finds for a category the bundle of the greatest key that names it, or the default bundle, or
the empty one, and for a spelling what it finds for the category that the spelling names. -/
theorem ofDocument_iff (version : UInt32) (bundles : SortedMap Bundle) :
    ((∃ s, ofDocument (version, bundles) = .ok s) ↔ Accepts version bundles) ∧
      (∀ e, ofDocument (version, bundles) = .error e ↔ Fault version bundles e) ∧
      (∀ s, ofDocument (version, bundles) = .ok s → IsStoreOf bundles s) ∧
      ∀ text, documentCodec.readText text = .ok (version, bundles) →
        read text = ofDocument (version, bundles) := by
  refine ⟨exists_ofDocument_iff, fun e => ofDocument_eq_error,
    fun s h => isStoreOf_of_madeOf (madeOf_ofDocument h), fun text h => ?_⟩
  unfold read
  rw [h]

end CodeIdioms.TemplateStore
