import CodeIdioms.Explain.Generator
import Mathlib.Tactic

/-! # What a run of calls draws

All calls made on one stream share it, so what a call gets depends on how many values the calls
before it have used up.  `demand` counts the values of a call without making it: none for the
narrative of an idiom itself, one for a message or a hint, and for a narrative from the templates
one for each pool of its bundle that is not empty.  `IsAnswer` says what a call gives when the next
value is the one at a position.  One call gives its answer and uses up its demand
(`isAnswer_answer`), so in a run each call is answered from the values after the demands of the
calls before it (`isRun_answers`).  Calls for an idiom's own narrative have no demand, and leaving
them out changes no other answer (`answers_filter`). -/

namespace CodeIdioms

/-! ### One pick -/

namespace Stream

theorem indexOf_lt {n : UInt64} (hn : n ≠ 0) (x : Float) : (indexOf x n).toNat < n.toNat := by
  have hpos : 0 < n.toNat := UInt64.lt_iff_toNat_lt.1 (UInt64.pos_iff_ne_zero.2 hn)
  have hlast : (n - 1).toNat = n.toNat - 1 :=
    UInt64.toNat_sub_of_le _ _ (UInt64.le_iff_toNat_le.2 hpos)
  rw [indexOf, UInt64.toNat_min, hlast]
  omega

/-- A length too great for a machine word counts as the greatest word. -/
theorem toNat_ofNatClamp (n : Nat) : (UInt64.ofNatClamp n).toNat = min n (UInt64.size - 1) := by
  rcases Nat.lt_or_ge n UInt64.size with h | h
  · rw [UInt64.toNat_ofNatClamp_of_lt h]
    omega
  · rw [UInt64.toNat_ofNatClamp_of_le h]
    omega

theorem ofNatClamp_ne_zero {n : Nat} (hn : n ≠ 0) : UInt64.ofNatClamp n ≠ 0 := by
  intro h
  have hzero := toNat_ofNatClamp n
  rw [h, UInt64.toNat_zero] at hzero
  simp only [UInt64.size] at hzero
  omega

variable {α : Type} {pool : List α}

/-- The position in a pool that a number picks. -/
def position (x : Float) (pool : List α) : Nat := (indexOf x (UInt64.ofNatClamp pool.length)).toNat

theorem position_lt (h : pool ≠ []) (x : Float) : position x pool < pool.length := by
  have hlt := indexOf_lt (ofNatClamp_ne_zero (List.length_pos_iff.2 h).ne') x
  rw [toNat_ofNatClamp] at hlt
  exact hlt.trans_le (min_le_left _ _)

theorem pick_of_ne_nil (h : pool ≠ []) (s : Stream) (i : Nat) :
    s.pick pool i = (pool[position (s i) pool]?, i + 1) := by
  have hlen : UInt64.ofNatClamp pool.length ≠ 0 :=
    ofNatClamp_ne_zero (List.length_pos_iff.2 h).ne'
  simp only [pick, pickIndex, if_neg hlen]
  rfl

/-- What follows a pick goes on with the member that the next value picks. -/
theorem pick_bind_of_ne_nil {β : Type} (h : pool ≠ []) (s : Stream) (f : Option α → Drawing β)
    (i : Nat) : (s.pick pool >>= f) i = f pool[position (s i) pool]? (i + 1) := by
  show f (s.pick pool i).1 (s.pick pool i).2 = _
  rw [pick_of_ne_nil h]

end Stream

/-! ### One narrative -/

/-- The sections that are drawn, in the order of drawing. -/
def Section.drawn : List Section := [.celebrate, .minimize, .better, .safety]

/-- The drawn sections that come before a section. -/
def Section.before (part : Section) : List Section := drawn.takeWhile (· ≠ part)

/-- The number of values that drawing some sections of a bundle uses up: one for each pool that is
not empty. -/
def Bundle.demand (b : Bundle) (parts : List Section) : Nat :=
  parts.countP fun part => !(b.pool part).isEmpty

theorem Bundle.demand_append (b : Bundle) (parts parts' : List Section) :
    b.demand (parts ++ parts') = b.demand parts + b.demand parts' := List.countP_append

/-- A sentence filled from a pool by the value at a position: the member that the value picks, and
the empty sentence only for lack of members. -/
structure Fills (s : Stream) (i : Nat) (pool : List String) (sentence : String) : Prop where
  member : pool ≠ [] → pool[Stream.position (s i) pool]? = some sentence
  blank : pool = [] → sentence = ""

theorem Fills.mem {s : Stream} {i : Nat} {pool : List String} {sentence : String}
    (h : Fills s i pool sentence) (hne : pool ≠ []) : sentence ∈ pool :=
  List.mem_of_getElem? (h.member hne)

namespace Explainer

/-- A narrative drawn from a bundle for an idiom's name, from the value at a position on: the value
of a section comes after those of the sections before it. -/
structure IsDrawn (x : Explainer) (s : Stream) (i : Nat) (b : Bundle) (name : String)
    (n : Narrative) : Prop where
  slots : ∀ part ∈ Section.drawn,
    Fills s (i + b.demand part.before) (b.pool part) (n.text part)
  pointer : n.pointer = "See how the " ++ name ++ " pattern works in " ++ x.target ++ "!"

theorem draw_of_nil {b : Bundle} {part : Section} (h : b.pool part = []) (s : Stream) (i : Nat) :
    draw s b part i = ("", i) := by
  unfold draw
  rw [h]
  rfl

theorem draw_of_ne_nil {b : Bundle} {part : Section} (h : b.pool part ≠ []) (s : Stream) (i : Nat) :
    draw s b part i = ((b.pool part)[Stream.position (s i) (b.pool part)]?.getD "", i + 1) :=
  Stream.pick_bind_of_ne_nil h s _ i

theorem fills_draw (s : Stream) (b : Bundle) (part : Section) (i : Nat) :
    Fills s i (b.pool part) (draw s b part i).1 where
  member hne := by
    rw [draw_of_ne_nil hne, List.getElem?_eq_getElem (Stream.position_lt hne (s i)),
      Option.getD_some]
  blank hnil := by rw [draw_of_nil hnil]

theorem draw_snd (s : Stream) (b : Bundle) (part : Section) (i : Nat) :
    (draw s b part i).2 = i + b.demand [part] := by
  by_cases h : b.pool part = []
  · rw [draw_of_nil h]
    simp [Bundle.demand, h]
  · rw [draw_of_ne_nil h]
    simp [Bundle.demand, h]

/-- Drawing one more section continues after the sections drawn so far. -/
theorem draw_snd_after (s : Stream) (b : Bundle) (parts : List Section) (part : Section) (i : Nat) :
    (draw s b part (i + b.demand parts)).2 = i + b.demand (parts ++ [part]) := by
  rw [draw_snd, Bundle.demand_append, Nat.add_assoc]

/-- The narrative of a bundle, with the value that each section starts from. -/
theorem ofBundle_eq (x : Explainer) (b : Bundle) (name : String) (s : Stream) (i : Nat) :
    x.ofBundle b name s i =
      ({ celebrate := (draw s b .celebrate (i + b.demand Section.celebrate.before)).1
         minimize := (draw s b .minimize (i + b.demand Section.minimize.before)).1
         better := (draw s b .better (i + b.demand Section.better.before)).1
         safety := (draw s b .safety (i + b.demand Section.safety.before)).1
         pointer := x.pointer name },
       i + b.demand Section.drawn) := by
  have celebrated : (draw s b .celebrate i).2 = i + b.demand Section.minimize.before :=
    draw_snd_after s b [] .celebrate i
  have minimized : (draw s b .minimize (i + b.demand Section.minimize.before)).2 =
      i + b.demand Section.better.before := draw_snd_after s b _ .minimize i
  have bettered : (draw s b .better (i + b.demand Section.better.before)).2 =
      i + b.demand Section.safety.before := draw_snd_after s b _ .better i
  have secured : (draw s b .safety (i + b.demand Section.safety.before)).2 =
      i + b.demand Section.drawn := draw_snd_after s b _ .safety i
  calc x.ofBundle b name s i
      = (let d₁ := draw s b .celebrate i
         let d₂ := draw s b .minimize d₁.2
         let d₃ := draw s b .better d₂.2
         let d₄ := draw s b .safety d₃.2
         (⟨d₁.1, d₂.1, d₃.1, d₄.1, x.pointer name⟩, d₄.2)) := rfl
    _ = _ := by
      simp only [celebrated, minimized, bettered, secured]
      rfl

theorem isDrawn_ofBundle (x : Explainer) (b : Bundle) (name : String) (s : Stream) (i : Nat) :
    x.IsDrawn s i b name (x.ofBundle b name s i).1 := by
  rw [ofBundle_eq]
  constructor
  · intro part hpart
    fin_cases hpart <;> exact fills_draw s b _ _
  · rfl

theorem ofBundle_snd (x : Explainer) (b : Bundle) (name : String) (s : Stream) (i : Nat) :
    (x.ofBundle b name s i).2 = i + b.demand Section.drawn := by
  rw [ofBundle_eq]

/-- An empty pool takes no value, so the pools after it move up. -/
example : ({ celebrate := ["a"], better := ["b"], safety := ["c"] } : Bundle).demand
    Section.safety.before = 2 := by decide

/-! ### One call -/

/-- A call that is made on a source of explanations. -/
inductive Call where
  | explain (p : Idiom) (mode : Mode)
  | category (c : Category) (name : String)
  | key (key name : String)
  | success (name : String)
  | hint (p : Idiom)

/-- What a call gives. -/
inductive Answer where
  | narrative (n : Narrative)
  | message (text : String)
deriving DecidableEq

/-- Whether a call asks for an idiom's own narrative. -/
def Call.isFixed : Call → Bool
  | .explain _ .fixed => true
  | _ => false

/-- The bundle and the name of a call for a narrative from the templates. -/
def template? (x : Explainer) : Call → Option (Bundle × String)
  | .explain p .variety => some (x.templates.resolve p.category, p.name)
  | .category c name => some (x.templates.resolve c, name)
  | .key key name => some (x.templates.resolveKey key, name)
  | .explain _ .fixed | .success _ | .hint _ => none

/-- The number of values that a call uses up. -/
def demand (x : Explainer) : Call → Nat
  | .explain _ .fixed => 0
  | .explain p .variety => (x.templates.resolve p.category).demand Section.drawn
  | .category c _ => (x.templates.resolve c).demand Section.drawn
  | .key key _ => (x.templates.resolveKey key).demand Section.drawn
  | .success _ | .hint _ => 1

/-- Makes a call. -/
def answer (x : Explainer) (s : Stream) : Call → Drawing Answer
  | .explain p mode => Answer.narrative <$> x.explain p mode s
  | .category c name => Answer.narrative <$> x.ofCategory c name s
  | .key key name => Answer.narrative <$> x.ofKey key name s
  | .success name => Answer.message <$> success name s
  | .hint p => Answer.message <$> x.hint p s

/-- Makes one call after the other. -/
def answers (x : Explainer) (s : Stream) (calls : List Call) : Drawing (List Answer) :=
  calls.mapM (x.answer s)

/-- The text of a hint from a labelled list: its first entry, or the general hint. -/
def IsHint (x : Explainer) (p : Idiom) (label : String) : List String → String → Prop
  | entry :: _, text => text = label ++ ": " ++ entry
  | [], text =>
    text = "Hint: look for where " ++ x.target ++ " could express " ++ p.name ++ " more directly."

/-- What a call gives when the next value is the one at a position. -/
inductive IsAnswer (x : Explainer) (s : Stream) (i : Nat) : Call → Answer → Prop
  /-- The narrative of the idiom itself. -/
  | fixed {p : Idiom} : IsAnswer x s i (.explain p .fixed) (.narrative p.narrative)
  /-- A narrative from the templates. -/
  | templated {call : Call} {b : Bundle} {name : String} {n : Narrative}
      (template : x.template? call = some (b, name)) (drawn : x.IsDrawn s i b name n) :
      IsAnswer x s i call (.narrative n)
  /-- The message that the value picks, with the name filled in. -/
  | success {name message : String}
      (picked : successMessages[Stream.position (s i) successMessages]? = some message) :
      IsAnswer x s i (.success name) (.message (Text.replace namePlaceholder name message))
  /-- A hint from the list that the value picks. -/
  | hint {p : Idiom} {label text : String} {entries : List String}
      (picked : (hintSources p)[Stream.position (s i) (hintSources p)]? = some (label, entries))
      (told : x.IsHint p label entries text) : IsAnswer x s i (.hint p) (.message text)

/-- What a call for a narrative from the templates draws from, as one case for its spellings. -/
theorem answer_of_template {x : Explainer} {call : Call} {b : Bundle} {name : String}
    (h : x.template? call = some (b, name)) (s : Stream) :
    x.answer s call = Answer.narrative <$> x.ofBundle b name s ∧
      x.demand call = b.demand Section.drawn := by
  rcases call with ⟨p, _ | _⟩ | ⟨c, n⟩ | ⟨key, n⟩ | n | p <;>
    simp only [template?, Option.some.injEq, Prod.mk.injEq, reduceCtorEq] at h
  all_goals
    obtain ⟨rfl, rfl⟩ := h
    exact ⟨rfl, rfl⟩

theorem step_of_template {x : Explainer} {call : Call} {b : Bundle} {name : String}
    (h : x.template? call = some (b, name)) (s : Stream) (i : Nat) :
    x.IsAnswer s i call (x.answer s call i).1 ∧ (x.answer s call i).2 = i + x.demand call := by
  obtain ⟨hanswer, hdemand⟩ := answer_of_template h s
  rw [hanswer, hdemand]
  exact ⟨.templated h (x.isDrawn_ofBundle b name s i), x.ofBundle_snd b name s i⟩

theorem success_eq (name : String) (s : Stream) (i : Nat) :
    ∃ m, successMessages[Stream.position (s i) successMessages]? = some m ∧
      success name s i = (Text.replace namePlaceholder name m, i + 1) := by
  have hne : successMessages ≠ [] := List.cons_ne_nil _ _
  have hlt := Stream.position_lt hne (s i)
  refine ⟨_, List.getElem?_eq_getElem hlt, ?_⟩
  unfold success
  rw [Stream.pick_bind_of_ne_nil hne, List.getElem?_eq_getElem hlt]
  rfl

theorem hint_eq (x : Explainer) (p : Idiom) (s : Stream) (i : Nat) :
    ∃ label entries text,
      (hintSources p)[Stream.position (s i) (hintSources p)]? = some (label, entries) ∧
        x.IsHint p label entries text ∧ x.hint p s i = (text, i + 1) := by
  have hne : hintSources p ≠ [] := List.cons_ne_nil _ _
  have hlt := Stream.position_lt hne (s i)
  unfold hint
  rw [Stream.pick_bind_of_ne_nil hne, List.getElem?_eq_getElem hlt]
  rcases (hintSources p)[Stream.position (s i) (hintSources p)] with ⟨label, _ | ⟨entry, rest⟩⟩
  · exact ⟨label, [], _, rfl, rfl, rfl⟩
  · exact ⟨label, entry :: rest, _, rfl, rfl, rfl⟩

/-- One call gives its answer from the value at its position and uses up its demand. -/
theorem isAnswer_answer (x : Explainer) (s : Stream) (call : Call) (i : Nat) :
    x.IsAnswer s i call (x.answer s call i).1 ∧ (x.answer s call i).2 = i + x.demand call := by
  cases call with
  | explain p mode =>
    cases mode with
    | fixed => exact ⟨.fixed, rfl⟩
    | variety => exact step_of_template rfl s i
  | category c name => exact step_of_template rfl s i
  | key key name => exact step_of_template rfl s i
  | success name =>
    obtain ⟨m, hm, hsuccess⟩ := success_eq name s i
    have hanswer : x.answer s (.success name) i =
      (.message (success name s i).1, (success name s i).2) := rfl
    rw [hanswer, hsuccess]
    exact ⟨.success hm, rfl⟩
  | hint p =>
    obtain ⟨label, entries, text, hpick, htold, hhint⟩ := x.hint_eq p s i
    have hanswer : x.answer s (.hint p) i =
      (.message (x.hint p s i).1, (x.hint p s i).2) := rfl
    rw [hanswer, hhint]
    exact ⟨.hint hpick htold, rfl⟩

theorem IsAnswer.isDrawn {x : Explainer} {s : Stream} {i : Nat} {call : Call} {a : Answer}
    {b : Bundle} {name : String} (h : x.IsAnswer s i call a)
    (template : x.template? call = some (b, name)) :
    ∃ n, a = .narrative n ∧ x.IsDrawn s i b name n := by
  cases h with
  | fixed => cases template
  | @templated _ b' name' n template' drawn =>
    cases template.symm.trans template'
    exact ⟨n, rfl, drawn⟩
  | success => cases template
  | hint => cases template

/-! ### Runs -/

/-- What the calls of a run give from one position of a stream to another. -/
structure IsRun (x : Explainer) (s : Stream) (calls : List Call) (i : Nat) (as : List Answer)
    (j : Nat) : Prop where
  /-- The calls are answered one by one. -/
  length : as.length = calls.length
  /-- A call is answered from the values after those that the calls before it use up. -/
  answer : ∀ (k : Nat) (call : Call), calls[k]? = some call →
    ∃ a, as[k]? = some a ∧ x.IsAnswer s (i + ((calls.take k).map x.demand).sum) call a
  /-- Nothing else is used up. -/
  stop : j = i + (calls.map x.demand).sum

theorem IsRun.nil (x : Explainer) (s : Stream) (i : Nat) : x.IsRun s [] i [] i where
  length := rfl
  answer := by simp
  stop := rfl

theorem IsRun.cons {x : Explainer} {s : Stream} {call : Call} {calls : List Call} {i j : Nat}
    {a : Answer} {as : List Answer} (step : x.IsAnswer s i call a)
    (run : x.IsRun s calls (i + x.demand call) as j) : x.IsRun s (call :: calls) i (a :: as) j where
  length := congrArg Nat.succ run.length
  answer k c hc := by
    cases k with
    | zero =>
      cases Option.some.inj hc
      exact ⟨a, rfl, step⟩
    | succ k =>
      obtain ⟨a', ha', hanswer⟩ := run.answer k c hc
      refine ⟨a', ha', ?_⟩
      rwa [List.take_succ_cons, List.map_cons, List.sum_cons, ← Nat.add_assoc]
  stop := by rw [run.stop, List.map_cons, List.sum_cons, Nat.add_assoc]

/-- Sentences from the templates stand in their pools. -/
theorem IsRun.mem_pool {x : Explainer} {s : Stream} {calls : List Call} {i j k : Nat}
    {as : List Answer} {call : Call} {b : Bundle} {name : String} (run : x.IsRun s calls i as j)
    (hcall : calls[k]? = some call) (template : x.template? call = some (b, name)) :
    ∃ n, as[k]? = some (.narrative n) ∧
      ∀ part ∈ Section.drawn, b.pool part ≠ [] → n.text part ∈ b.pool part := by
  obtain ⟨a, ha, hanswer⟩ := run.answer k call hcall
  obtain ⟨n, rfl, drawn⟩ := hanswer.isDrawn template
  exact ⟨n, ha, fun part hpart hne => (drawn.slots part hpart).mem hne⟩

theorem answers_cons (x : Explainer) (s : Stream) (call : Call) (calls : List Call) (i : Nat) :
    x.answers s (call :: calls) i =
      ((x.answer s call i).1 :: (x.answers s calls (x.answer s call i).2).1,
        (x.answers s calls (x.answer s call i).2).2) := by
  rw [answers, List.mapM_cons]
  rfl

/-- In a run each call gets its answer, from the values after those of the calls before it. -/
theorem isRun_answers (x : Explainer) (s : Stream) (calls : List Call) (i : Nat) :
    x.IsRun s calls i (x.answers s calls i).1 (x.answers s calls i).2 := by
  induction calls generalizing i with
  | nil => exact .nil x s i
  | cons call calls ih =>
    obtain ⟨step, used⟩ := x.isAnswer_answer s call i
    rw [answers_cons]
    exact .cons step (used ▸ ih _)

theorem demand_of_isFixed {x : Explainer} {call : Call} (h : call.isFixed) : x.demand call = 0 := by
  cases call with
  | explain p mode =>
    cases mode with
    | fixed => rfl
    | variety => cases h
  | _ => cases h

/-- Without the calls for an idiom's own narrative the others are answered as before. -/
theorem answers_filter (x : Explainer) (s : Stream) (calls : List Call) (i : Nat) :
    x.answers s (calls.filter fun call => !call.isFixed) i =
      (((calls.zip (x.answers s calls i).1).filter fun p => !p.1.isFixed).map Prod.snd,
        (x.answers s calls i).2) := by
  induction calls generalizing i with
  | nil => rfl
  | cons call calls ih =>
    rw [answers_cons, List.zip_cons_cons]
    cases hfixed : call.isFixed with
    | true =>
      -- the others start where this call starts
      have hsame : (x.answer s call i).2 = i := by
        rw [(x.isAnswer_answer s call i).2, demand_of_isFixed hfixed, Nat.add_zero]
      rw [List.filter_cons_of_neg (by simp [hfixed]), List.filter_cons_of_neg (by simp [hfixed]),
        hsame]
      exact ih i
    | false =>
      rw [List.filter_cons_of_pos (by simp [hfixed]), List.filter_cons_of_pos (by simp [hfixed]),
        answers_cons, ih]
      rfl

/-- Any calls on one stream, from any position of it, are answered one by one, each from the values
after those that the calls before it use up; sentences from the templates stand in their pools; and
leaving out the calls for an idiom's own narrative changes no other answer. -/
theorem answers_disciplined (x : Explainer) (s : Stream) (calls : List Call) (i : Nat) :
    ∃ as j, x.answers s calls i = (as, j) ∧ x.IsRun s calls i as j ∧
      (∀ (k : Nat) (call : Call) (b : Bundle) (name : String),
        calls[k]? = some call → x.template? call = some (b, name) →
          ∃ n, as[k]? = some (.narrative n) ∧
            ∀ part ∈ Section.drawn, b.pool part ≠ [] → n.text part ∈ b.pool part) ∧
      x.answers s (calls.filter fun call => !call.isFixed) i =
        (((calls.zip as).filter fun p => !p.1.isFixed).map Prod.snd, j) :=
  have run := x.isRun_answers s calls i
  ⟨_, _, rfl, run, fun _ _ _ _ hcall template => run.mem_pool hcall template,
    x.answers_filter s calls i⟩

end Explainer

end CodeIdioms
