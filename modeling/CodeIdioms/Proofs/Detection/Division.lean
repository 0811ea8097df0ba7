import CodeIdioms.Detection.RuleSet
import Mathlib.Data.List.Induction
import Mathlib.Data.List.Nodup
import Mathlib.Logic.Basic

/-! # Rule sets divide catalogs

Every idiom of a catalog has its rule either built or rejected, whatever the engine makes of it.  A
built rule has the position of its idiom; a rejected rule has none, so a division names the positions
of rejected rules beside the rule set (`IsDivision`).

Rules are built for one idiom after the other.  With one idiom more, one of the two lists of a rule
set grows at its end (`compileFrom_concat`), and what was a division of the idioms so far becomes one
with the new idiom (`IsDivision.push_built`, `IsDivision.push_rejected`).  So the rule set is a
division after every idiom (`exists_isDivision`), and in the end one of the catalog
(`divides_compile`). -/

namespace CodeIdioms

/-- A rejected rule tells the id and the rule of an idiom, and why the engine does not build it. -/
structure RejectedRule.Tells (E : RuleEngine) (limits : RuleLimits) (r : RejectedRule) (p : Idiom) :
    Prop where
  id_eq : r.id = p.id
  rule_eq : r.rule = p.rule
  refused : E.build p.rule limits = .error r.reason

namespace RuleSet

variable {E : RuleEngine} {limits : RuleLimits} {ps : List Idiom} {s : RuleSet E}
  {placed : List (Nat × RejectedRule)} {p : Idiom}

/-- The positions of built rules. -/
def positions (s : RuleSet E) : List Nat := s.rules.map (·.index)

/-- A rule set divides a list of idioms: a built rule is that of the idiom at its position, a
rejected rule tells of the idiom at the position that it is placed at, both kinds are in the order of
the list, and every position of the list is that of one rule. -/
structure IsDivision (limits : RuleLimits) (ps : List Idiom) (placed : List (Nat × RejectedRule))
    (s : RuleSet E) : Prop where
  places : placed.map (·.2) = s.rejected
  built : ∀ r ∈ s.rules, ∃ p, ps[r.index]? = some p ∧ E.build p.rule limits = .ok r.program
  rejected : ∀ x ∈ placed, ∃ p, ps[x.1]? = some p ∧ x.2.Tells E limits p
  ascending : s.positions.Pairwise (· < ·)
  ascending_rejected : (placed.map (·.1)).Pairwise (· < ·)
  perm : (s.positions ++ placed.map (·.1)).Perm (List.range ps.length)

/-! ### One idiom more -/

/-- Adds the rule of an idiom at a position, at the end of the built or of the rejected rules. -/
def push (limits : RuleLimits) (s : RuleSet E) (i : Nat) (p : Idiom) : RuleSet E :=
  match E.build p.rule limits with
  | .ok program => { s with rules := s.rules ++ [⟨i, program⟩] }
  | .error reason => { s with rejected := s.rejected ++ [⟨p.id, p.rule, reason⟩] }

theorem push_of_ok {program : E.Compiled} (h : E.build p.rule limits = .ok program) (i : Nat) :
    s.push limits i p = { s with rules := s.rules ++ [⟨i, program⟩] } := by
  unfold push
  rw [h]

theorem push_of_error {reason : Rejection} (h : E.build p.rule limits = .error reason) (i : Nat) :
    s.push limits i p = { s with rejected := s.rejected ++ [⟨p.id, p.rule, reason⟩] } := by
  unfold push
  rw [h]

/-- The rule of the last idiom is added last. -/
theorem compileFrom_concat (i : Nat) (ps : List Idiom) (p : Idiom) :
    compileFrom E limits i (ps ++ [p])
      = (compileFrom E limits i ps).push limits (i + ps.length) p := by
  induction ps generalizing i with
  | nil => rfl
  | cons q ps ih =>
    have hposition : i + (q :: ps).length = i + 1 + ps.length := by
      rw [List.length_cons]
      omega
    rw [List.cons_append, compileFrom, compileFrom, ih, hposition]
    -- the first rule goes to the front of a list, the last one to the end of the same or the other
    cases E.build q.rule limits with
    | ok first =>
      cases hp : E.build p.rule limits with
      | ok last => simp [push_of_ok hp]
      | error reason => simp [push_of_error hp]
    | error first =>
      cases hp : E.build p.rule limits with
      | ok last => simp [push_of_ok hp]
      | error reason => simp [push_of_error hp]

/-- Ascending positions with a greater one behind them ascend. -/
theorem pairwise_concat {is : List Nat} {n : Nat} (h : is.Pairwise (· < ·))
    (hlt : ∀ i ∈ is, i < n) : (is ++ [n]).Pairwise (· < ·) := by
  rw [List.pairwise_append]
  refine ⟨h, List.pairwise_singleton _ _, ?_⟩
  intro i hi j hj
  rw [List.mem_singleton.1 hj]
  exact hlt i hi

theorem getElem?_concat_of_some {i : Nat} {q : Idiom} (h : ps[i]? = some q) :
    (ps ++ [p])[i]? = some q := by
  obtain ⟨hi, -⟩ := List.getElem?_eq_some_iff.1 h
  rw [List.getElem?_append_left hi]
  exact h

namespace IsDivision

theorem nil : IsDivision limits [] [] (⟨[], []⟩ : RuleSet E) where
  places := rfl
  built := by simp
  rejected := by simp
  ascending := List.Pairwise.nil
  ascending_rejected := List.Pairwise.nil
  perm := List.Perm.nil

/-- The positions of both kinds of rules are those of the list. -/
theorem mem_iff (h : IsDivision limits ps placed s) (i : Nat) :
    i ∈ s.positions ∨ i ∈ placed.map (·.1) ↔ i < ps.length := by
  rw [← List.mem_append, h.perm.mem_iff, List.mem_range]

theorem built_concat (h : IsDivision limits ps placed s) (p : Idiom) :
    ∀ r ∈ s.rules, ∃ q, (ps ++ [p])[r.index]? = some q ∧ E.build q.rule limits = .ok r.program := by
  intro r hr
  obtain ⟨q, hq, hbuild⟩ := h.built r hr
  exact ⟨q, getElem?_concat_of_some hq, hbuild⟩

theorem rejected_concat (h : IsDivision limits ps placed s) (p : Idiom) :
    ∀ x ∈ placed, ∃ q, (ps ++ [p])[x.1]? = some q ∧ x.2.Tells E limits q := by
  intro x hx
  obtain ⟨q, hq, htells⟩ := h.rejected x hx
  exact ⟨q, getElem?_concat_of_some hq, htells⟩

/-- An idiom more whose rule can be built. -/
theorem push_built (h : IsDivision limits ps placed s) {program : E.Compiled}
    (hp : E.build p.rule limits = .ok program) :
    IsDivision limits (ps ++ [p]) placed (s.push limits ps.length p) := by
  have hpositions : (s.push limits ps.length p).positions = s.positions ++ [ps.length] := by
    rw [push_of_ok hp]
    simp [positions]
  constructor
  case places =>
    rw [push_of_ok hp]
    exact h.places
  case built =>
    rw [push_of_ok hp]
    intro r hr
    obtain hr | hr := List.mem_append.1 hr
    · exact h.built_concat p r hr
    · rw [List.mem_singleton.1 hr]
      exact ⟨p, List.getElem?_concat_length, hp⟩
  case rejected => exact h.rejected_concat p
  case ascending =>
    rw [hpositions]
    apply pairwise_concat h.ascending
    intro i hi
    exact (h.mem_iff i).1 (.inl hi)
  case ascending_rejected => exact h.ascending_rejected
  case perm =>
    rw [hpositions, List.append_assoc, List.length_append, List.length_singleton, List.range_succ]
    calc s.positions ++ ([ps.length] ++ placed.map (·.1))
        |>.Perm (s.positions ++ (placed.map (·.1) ++ [ps.length])) :=
          List.perm_append_comm.append_left s.positions
      _ |>.Perm (List.range ps.length ++ [ps.length]) := by
          rw [← List.append_assoc]
          exact h.perm.append_right [ps.length]

/-- An idiom more whose rule cannot be built. -/
theorem push_rejected (h : IsDivision limits ps placed s) {reason : Rejection}
    (hp : E.build p.rule limits = .error reason) :
    IsDivision limits (ps ++ [p]) (placed ++ [(ps.length, ⟨p.id, p.rule, reason⟩)])
      (s.push limits ps.length p) := by
  rw [push_of_error hp]
  constructor
  case places => simp [h.places]
  case built => exact h.built_concat p
  case rejected =>
    intro x hx
    obtain hx | hx := List.mem_append.1 hx
    · exact h.rejected_concat p x hx
    · rw [List.mem_singleton.1 hx]
      exact ⟨p, List.getElem?_concat_length, rfl, rfl, hp⟩
  case ascending => exact h.ascending
  case ascending_rejected =>
    rw [List.map_append, List.map_singleton]
    apply pairwise_concat h.ascending_rejected
    intro i hi
    exact (h.mem_iff i).1 (.inr hi)
  case perm =>
    rw [List.map_append, List.map_singleton, List.length_append, List.length_singleton,
      List.range_succ, ← List.append_assoc]
    exact h.perm.append_right [ps.length]

end IsDivision

/-! ### All idioms -/

/-- After any number of idioms, the rules so far divide these idioms. -/
theorem exists_isDivision (E : RuleEngine) (limits : RuleLimits) (ps : List Idiom) :
    ∃ placed, IsDivision limits ps placed (compileFrom E limits 0 ps) := by
  induction ps using List.reverseRecOn with
  | nil => exact ⟨[], IsDivision.nil⟩
  | append_singleton ps p ih =>
    obtain ⟨placed, h⟩ := ih
    rw [compileFrom_concat, Nat.zero_add]
    cases hp : E.build p.rule limits with
    | ok program => exact ⟨placed, h.push_built hp⟩
    | error reason => exact ⟨_, h.push_rejected hp⟩

namespace IsDivision

theorem length_add (h : IsDivision limits ps placed s) :
    s.rules.length + s.rejected.length = ps.length := by
  have hlength := h.perm.length_eq
  rw [List.length_append, positions, List.length_map, List.length_map, List.length_range] at hlength
  rw [← h.places, List.length_map]
  exact hlength

/-- Where ids are distinct, an idiom has a built rule or a rejected one, and not both. -/
theorem xor_of_mem (h : IsDivision limits ps placed s) (hd : (ps.map (·.id)).Nodup) (hp : p ∈ ps) :
    Xor (∃ r ∈ s.rules, ps[r.index]? = some p) (∃ r ∈ s.rejected, r.id = p.id) := by
  rw [xor_iff_or_and_not_and]
  constructor
  · obtain ⟨i, hi, rfl⟩ := List.mem_iff_getElem.1 hp
    obtain hbuilt | hrejected := (h.mem_iff i).2 hi
    · obtain ⟨r, hr, rfl⟩ := List.mem_map.1 hbuilt
      exact .inl ⟨r, hr, List.getElem?_eq_getElem hi⟩
    · obtain ⟨x, hx, rfl⟩ := List.mem_map.1 hrejected
      obtain ⟨q, hq, htells⟩ := h.rejected x hx
      obtain ⟨_, rfl⟩ := List.getElem?_eq_some_iff.1 hq
      exact .inr ⟨x.2, h.places ▸ List.mem_map_of_mem hx, htells.id_eq⟩
  · rintro ⟨⟨r, hr, hindex⟩, ⟨t, ht, hid⟩⟩
    obtain ⟨q, hq, hbuilt⟩ := h.built r hr
    obtain rfl := Option.some.inj (hindex.symm.trans hq)
    rw [← h.places] at ht
    obtain ⟨x, hx, rfl⟩ := List.mem_map.1 ht
    obtain ⟨q, hq, htells⟩ := h.rejected x hx
    -- the rejected rule has the id of the idiom, so the engine refuses what it has built
    have hsame : q = p :=
      List.inj_on_of_nodup_map hd (List.mem_of_getElem? hq) hp (htells.id_eq.symm.trans hid)
    rw [← hsame, htells.refused] at hbuilt
    cases hbuilt

end IsDivision

/-- **Rules divide a catalog.**  The rules that are built of a catalog have ascending positions in
it, each that of the idiom whose rule is built; the rejected ones are in catalog order and tell the
ids and rules of their idioms; and every idiom has one rule among both. -/
theorem divides_compile (E : RuleEngine) (c : Catalog) (s : DetectSettings) :
    (∃ placed, IsDivision s.limits c.idioms placed (compile E c s)) ∧
    (∀ r ∈ (compile E c s).rules, r.index < c.count) ∧
    (compile E c s).rules.length + (compile E c s).rejected.length = c.count ∧
    ∀ p ∈ c.idioms, Xor (∃ r ∈ (compile E c s).rules, c.idioms[r.index]? = some p)
      (∃ r ∈ (compile E c s).rejected, r.id = p.id) := by
  obtain ⟨placed, h⟩ := exists_isDivision E s.limits c.idioms
  refine ⟨⟨placed, h⟩, ?_, h.length_add, fun p hp => h.xor_of_mem c.distinct hp⟩
  intro r hr
  exact (h.mem_iff r.index).1 (.inl (List.mem_map_of_mem hr))

end RuleSet

end CodeIdioms
