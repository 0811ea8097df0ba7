import CodeIdioms.CommandLine.Run
import CodeIdioms.Proofs.CommandLine.Engine
import CodeIdioms.Proofs.Settings.Reading

/-! # The settings of a run

The settings of a run come in three layers: the defaults, the settings file, and the flags of the
command.  A flag changes the option that it names and no other (`overlays_iff`).  A run gets as far
as its command if and only if the file can be read and decoded, what it says is valid on its own,
and the settings with the flags laid over them are valid too (`effective_eq_ok`, `RunsWith`); so
whatever a command works with is valid, wherever it comes from (`runs_with_valid_settings`). -/

namespace CodeIdioms.CommandLine

open Document (Tree Source)

/-! ### Settings of the file -/

/-- The settings of a file that is there and can be decoded, with its document; those of no file are
the defaults. -/
inductive FileSettings (env : Surroundings) : Option String → Option Tree → Settings → Prop
  | none : FileSettings env none none {}
  | file {path text : String} {s : Settings} (contents : env.text path = .ok text)
      (decoded : Settings.codec.readText text = .ok s) :
      FileSettings env (some path) (some (Source.read text).tree) s

theorem FileSettings.isRead {env : Surroundings} {path : Option String} {document : Option Tree}
    {s : Settings} (h : FileSettings env path document s) : s.IsRead document := by
  cases h with
  | none => exact Settings.isRead_of_settles rfl
  | file contents decoded =>
    obtain ⟨s', hread, hend⟩ := Result.bind_eq_ok.1 decoded
    split at hend
    · cases hend
    · obtain rfl := Except.ok.inj hend
      exact Settings.isRead_of_settles hread

theorem ofText_eq_ok {text : String} {s : Settings} :
    Settings.ofText text = .ok s ↔ Settings.codec.readText text = .ok s ∧ s.Valid := by
  unfold Settings.ofText
  cases Settings.codec.readText text with
  | error p => exact ⟨nofun, fun h => nomatch h.1⟩
  | ok s' =>
    rw [Except.ok.injEq]
    exact Settings.checked_eq_ok.trans
      ⟨fun ⟨hvalid, heq⟩ => ⟨heq.symm, heq ▸ hvalid⟩, fun ⟨heq, hvalid⟩ => ⟨heq ▸ hvalid, heq.symm⟩⟩

theorem loadSettings_eq_ok {env : Surroundings} {path : Option String} {s : Settings} :
    loadSettings env path = .ok s ↔ (∃ document, FileSettings env path document s) ∧ s.Valid := by
  cases path with
  | none =>
    constructor
    · intro h
      obtain rfl := Except.ok.inj h
      exact ⟨⟨none, .none⟩, Settings.valid_default⟩
    · rintro ⟨⟨_, _ | _⟩, _⟩
      rfl
  | some path =>
    unfold loadSettings
    rw [Result.mapError_eq_ok]
    constructor
    · intro h
      cases hcontents : env.text path with
      | error _ =>
        rw [hcontents] at h
        cases h
      | ok text =>
        rw [hcontents] at h
        obtain ⟨hdecoded, hvalid⟩ := ofText_eq_ok.1 h
        exact ⟨⟨_, .file hcontents hdecoded⟩, hvalid⟩
    · rintro ⟨⟨_, _ | ⟨hcontents, hdecoded⟩⟩, hvalid⟩
      rw [hcontents]
      exact ofText_eq_ok.2 ⟨hdecoded, hvalid⟩

/-! ### Flags -/

/-- What the flags of a command say about settings. -/
structure Flags where
  minConfidence : Option Float := none
  targetLanguage : Option String := none
  layout : Option String := none
  variety : Bool := false
  maxJobs : Option UInt64 := none

/-- The flags that are given to a command. -/
def Command.flags : Command → Flags
  | detect o => {
      minConfidence := o.minConfidence, targetLanguage := o.narrative.target,
      layout := o.narrative.layout, variety := o.narrative.variety }
  | scan o => { minConfidence := o.minConfidence, maxJobs := o.jobs }
  | explain _ o => { targetLanguage := o.target, layout := o.layout, variety := o.variety }
  | list _ | stats _ | legend => {}

/-- Settings that come from others by flags: an option that is named by a flag has its value, the
flag for variety adds to what was there, and every other option is as it was. -/
structure Flags.Overlays (f : Flags) (base s : Settings) : Prop where
  minConfidence : s.detect.minConfidence = f.minConfidence.getD base.detect.minConfidence
  ruleSizeLimit : s.detect.ruleSizeLimit = base.detect.ruleSizeLimit
  ruleCacheLimit : s.detect.ruleCacheLimit = base.detect.ruleCacheLimit
  targetLanguage :
    s.narrative.targetLanguage = f.targetLanguage.getD base.narrative.targetLanguage
  layout : s.narrative.layout = f.layout.getD base.narrative.layout
  variety : s.narrative.variety = (base.narrative.variety || f.variety)
  extensions : s.scan.extensions = base.scan.extensions
  skipDirs : s.scan.skipDirs = base.scan.skipDirs
  maxFileBytes : s.scan.maxFileBytes = base.scan.maxFileBytes
  maxJobs : s.scan.maxJobs = f.maxJobs.or base.scan.maxJobs
  followLinks : s.scan.followLinks = base.scan.followLinks

/-- Flags leave no choice. -/
theorem Flags.Overlays.unique {f : Flags} {base s s' : Settings} (h : f.Overlays base s)
    (h' : f.Overlays base s') : s = s' := by
  obtain ⟨⟨_, _, _⟩, ⟨_, _, _⟩, ⟨_, _, _, _, _⟩⟩ := s
  obtain ⟨⟨_, _, _⟩, ⟨_, _, _⟩, ⟨_, _, _, _, _⟩⟩ := s'
  obtain ⟨rfl, rfl, rfl, rfl, rfl, rfl, rfl, rfl, rfl, rfl, rfl⟩ := h
  obtain ⟨rfl, rfl, rfl, rfl, rfl, rfl, rfl, rfl, rfl, rfl, rfl⟩ := h'
  rfl

/-- Without flags, settings stay as they are. -/
theorem overlays_self (s : Settings) : Flags.Overlays {} s s :=
  ⟨rfl, rfl, rfl, rfl, rfl, (Bool.or_false _).symm, rfl, rfl, rfl, rfl, rfl⟩

theorem overlays_overlay (c : Command) (base : Settings) :
    c.flags.Overlays base (c.overlay base) := by
  cases c with
  | detect o =>
    obtain ⟨_, _, _, _, _ | _, _⟩ := o <;>
      exact ⟨rfl, rfl, rfl, rfl, rfl, rfl, rfl, rfl, rfl, rfl, rfl⟩
  | scan o =>
    obtain ⟨_, _, _ | _, _ | _⟩ := o <;>
      exact ⟨rfl, rfl, rfl, rfl, rfl, (Bool.or_false _).symm, rfl, rfl, rfl, rfl, rfl⟩
  | explain _ o => exact ⟨rfl, rfl, rfl, rfl, rfl, rfl, rfl, rfl, rfl, rfl, rfl⟩
  | list _ | stats _ | legend => exact overlays_self base

theorem overlays_iff {c : Command} {base s : Settings} :
    c.flags.Overlays base s ↔ s = c.overlay base := by
  constructor
  · intro h
    exact h.unique (overlays_overlay c base)
  · rintro rfl
    exact overlays_overlay c base

/-! ### Settings of the run -/

theorem Session.ofExcept_bind {α β : Type} (r : Except Failure α) (f : α → Except Failure β) :
    ofExcept (r >>= f) id = ofExcept r id >>= fun x => ofExcept (f x) id := by
  cases r <;> rfl

namespace Invocation

variable {i : Invocation} {env : Surroundings}

/-- The settings that an invocation runs with, from those of its file. -/
structure RunsWith (i : Invocation) (env : Surroundings) (document : Option Tree)
    (base s : Settings) : Prop where
  file : FileSettings env (i.settings.or env.settings) document base
  base_valid : base.Valid
  overlays : i.command.flags.Overlays base s
  valid : s.Valid

theorem effective_eq_ok {s : Settings} :
    i.effective env = .ok s ↔ ∃ document base, i.RunsWith env document base s := by
  have hpath : (i.settings <|> env.settings) = i.settings.or env.settings := by
    cases i.settings <;> rfl
  unfold effective
  simp only [Result.bind_eq_ok, Result.mapError_eq_ok, hpath, loadSettings_eq_ok,
    Settings.checked_eq_ok]
  constructor
  · rintro ⟨base, ⟨⟨document, file⟩, base_valid⟩, valid, heq⟩
    exact ⟨document, base, file, base_valid, overlays_iff.2 heq, heq ▸ valid⟩
  · rintro ⟨document, base, file, base_valid, overlays, valid⟩
    obtain rfl := overlays_iff.1 overlays
    exact ⟨base, ⟨⟨document, file⟩, base_valid⟩, valid, rfl⟩

/-- The engine that an invocation runs with. -/
def engine (i : Invocation) (env : Surroundings) : Except Failure Engine := do
  Engine.load (← i.effective env)

theorem engine_eq_ok {g : Engine} : i.engine env = .ok g ↔
    g.IsLoaded g.settings ∧ ∃ document base, i.RunsWith env document base g.settings := by
  unfold engine
  simp only [Result.bind_eq_ok, Engine.load_eq_ok, effective_eq_ok]
  constructor
  · rintro ⟨s, runs, loaded⟩
    obtain rfl := loaded.settings_eq
    exact ⟨loaded, runs⟩
  · rintro ⟨loaded, runs⟩
    exact ⟨g.settings, runs, loaded⟩

theorem run_eq (i : Invocation) (env : Surroundings) :
    i.run env = Session.ofExcept (i.engine env) id >>= i.command.run env := by
  unfold run engine
  rw [Session.ofExcept_bind, bind_assoc]

theorem RunsWith.eq_of_no_flags {document : Option Tree} {base s : Settings}
    (h : i.RunsWith env document base s) (hflags : i.command.flags = {}) : s = base :=
  (hflags ▸ h.overlays).unique (overlays_self base)

/-- **Settings of a run.**  A command runs with an engine if and only if the settings of the engine
come from a file that is valid by itself, or from the defaults, with the flags of the command laid
over them, and are valid too; otherwise it does not run.  The options of the file are read from its
document, no threshold is a NaN, and commands without flags run with the settings of the file. -/
theorem runs_with_valid_settings (i : Invocation) (env : Surroundings) :
    i.run env = Session.ofExcept (i.engine env) id >>= i.command.run env ∧
      (∀ g, i.engine env = .ok g ↔
        g.IsLoaded g.settings ∧ ∃ document base, i.RunsWith env document base g.settings) ∧
      ∀ document base s, i.RunsWith env document base s →
        base.IsRead document ∧ s.detect.minConfidence.isNaN = false ∧
          match i.command with
          | .list _ | .stats _ | .legend => s = base
          | .detect _ | .scan _ | .explain _ _ => True := by
  refine ⟨i.run_eq env, fun g => engine_eq_ok, fun document base s h => ?_⟩
  refine ⟨h.file.isRead, h.valid.not_isNaN, ?_⟩
  split
  · next hc => exact h.eq_of_no_flags (congrArg Command.flags hc)
  · next hc => exact h.eq_of_no_flags (congrArg Command.flags hc)
  · next hc => exact h.eq_of_no_flags (congrArg Command.flags hc)
  all_goals trivial

end Invocation

end CodeIdioms.CommandLine
