import CodeIdioms.Proofs.Document.Record
import CodeIdioms.Settings.Basic

/-! # Reading settings

Every option is read from one place in a document: the field with its name, of the part that it
belongs to.  An option that nothing is given for has its default, be it that the option is missing,
or its part, or the whole document (`isRead_of_settles`). -/

namespace CodeIdioms.Settings

open Document

/-- What a document gives for an option: the `j`-th field of the `i`-th part of settings. -/
def option? (document : Option Tree) (part : String) (i : Nat) (name : String) (j : Nat) :
    Option Tree :=
  (document.bind (·.part? part i)).bind (·.part? name j)

/-- Settings all of whose options are read from a document, or have their defaults. -/
structure IsRead (document : Option Tree) (s : Settings) : Prop where
  minConfidence :
    Codec.float.Settles (option? document "detect" 0 "min_confidence" 0) 0.0 s.detect.minConfidence
  ruleSizeLimit :
    (Codec.word "usize").Settles (option? document "detect" 0 "rule_size_limit" 1) 1048576
      s.detect.ruleSizeLimit
  ruleCacheLimit :
    (Codec.word "usize").Settles (option? document "detect" 0 "rule_dfa_size_limit" 2) 2097152
      s.detect.ruleCacheLimit
  targetLanguage :
    Codec.string.Settles (option? document "narrative" 1 "target_language" 0) "Rust"
      s.narrative.targetLanguage
  layout :
    Codec.string.Settles (option? document "narrative" 1 "default_format" 1) "markdown"
      s.narrative.layout
  variety :
    Codec.bool.Settles (option? document "narrative" 1 "variety_mode" 2) false s.narrative.variety
  extensions :
    (Codec.list Codec.string).Settles (option? document "scan" 2 "file_extensions" 0)
      ["js", "jsx", "mjs", "cjs", "ts", "tsx"] s.scan.extensions
  skipDirs :
    (Codec.list Codec.string).Settles (option? document "scan" 2 "skip_dirs" 1) [] s.scan.skipDirs
  maxFileBytes :
    (Codec.word "u64").Settles (option? document "scan" 2 "max_file_bytes" 2) 1048576
      s.scan.maxFileBytes
  maxJobs :
    (Codec.option (Codec.word "usize")).Settles (option? document "scan" 2 "max_parallel_jobs" 3)
      none s.scan.maxJobs
  followLinks :
    Codec.bool.Settles (option? document "scan" 2 "follow_links" 4) false s.scan.followLinks

theorem isRead_of_settles {document : Option Tree} {s : Settings}
    (h : codec.Settles document {} s) : s.IsRead document := by
  obtain ⟨⟨detect, narrative, scan, _⟩, rfl, hdetect, hnarrative, hscan, _⟩ :=
    Codec.reads_of_settles h (by decide) ⟨(_, _, _, ()), rfl, rfl, rfl, rfl, trivial⟩
  obtain ⟨⟨x, size, cache, _⟩, rfl, hx, hsize, hcache, _⟩ :=
    Codec.reads_of_settles (Field.reads_defaulting.1 hdetect) (by decide)
      ⟨(_, _, _, ()), rfl, rfl, rfl, rfl, trivial⟩
  obtain ⟨⟨target, layout, variety, _⟩, rfl, htarget, hlayout, hvariety, _⟩ :=
    Codec.reads_of_settles (Field.reads_defaulting.1 hnarrative) (by decide)
      ⟨(_, _, _, ()), rfl, rfl, rfl, rfl, trivial⟩
  obtain ⟨⟨extensions, dirs, bytes, jobs, links, _⟩, rfl, hextensions, hdirs, hbytes, hjobs,
      hlinks, _⟩ :=
    Codec.reads_of_settles (Field.reads_defaulting.1 hscan) (by decide)
      ⟨(_, _, _, _, _, ()), rfl, rfl, rfl, rfl, rfl, rfl, trivial⟩
  exact {
    minConfidence := Field.reads_defaulting.1 hx
    ruleSizeLimit := Field.reads_defaulting.1 hsize
    ruleCacheLimit := Field.reads_defaulting.1 hcache
    targetLanguage := Field.reads_defaulting.1 htarget
    layout := Field.reads_defaulting.1 hlayout
    variety := Field.reads_defaulting.1 hvariety
    extensions := Field.reads_defaulting.1 hextensions
    skipDirs := Field.reads_defaulting.1 hdirs
    maxFileBytes := Field.reads_defaulting.1 hbytes
    maxJobs := Field.reads_defaulting.1 hjobs
    followLinks := Field.reads_defaulting.1 hlinks }

end CodeIdioms.Settings
