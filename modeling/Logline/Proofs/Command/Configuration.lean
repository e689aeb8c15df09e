/-
The configuration that the program runs with.

The command line has the last word over the environment, the environment
over the file, and the file over the defaults. Which file it is depends on
the command line and the environment (`Document`); a configuration that was
loaded is what the four have said, field by field
(`configuration_prioritised`).

A file can be named on the command line or in the environment. Both ways the
same document is read and overridden (`baseConfig_unnamed`). But what the
environment names is validated twice, the first time before the command line
is heard, so the two ways come apart where the command line mends what would
not have stood up to validation (`named_alike_iff`). That is one thing only, a
blank parser, since the name of a setting is never taken back (`mends_iff`).
-/
import Logline.Command.Program
import Logline.Proofs.Config

namespace Logline.Command

open Config (Environment naming)

namespace Arguments

variable {args : Arguments} {files : FileSystem} {env : Environment}

-- ============================================================ sources

/-- The document that a configuration starts from: that of the file that the
command line names, or else of the file that the environment names, or else
of the default file; nothing where there is no such file, unless the command
line named it. -/
inductive Document (args : Arguments) (files : FileSystem) (env : Environment) :
    Toml.Items → Prop
  | named {path text : String} {items : Toml.Items}
      (config : args.config = some path)
      (content : (files path).text = .ok text)
      (read : Toml.read? text = some items) : Document args files env items
  | found {path text : String} {items : Toml.Items}
      (config : args.config = none)
      (place : (env "DELOG_CONFIG_FILE").getD "delog.toml" = path)
      (present : (files path).present = true)
      (content : (files path).text = .ok text)
      (read : Toml.read? text = some items) : Document args files env items
  | absent {path : String} (config : args.config = none)
      (place : (env "DELOG_CONFIG_FILE").getD "delog.toml" = path)
      (missing : (files path).present = false) : Document args files env []

theorem loadConfig_eq_ok_iff {c : Config} :
    args.loadConfig files env = .ok c
      ↔ ∃ base, args.baseConfig files env = .ok base
        ∧ (args.override base).Valid ∧ c = args.override base := by
  unfold loadConfig
  cases args.baseConfig files env with
  | error cause => simp
  | ok base => simp [Config.validated_eq_ok_iff]

/-- A file system with one file. -/
def oneFile (name text : String) : FileSystem := fun path =>
  if path = name then .file text.toUTF8.data.toList else .missing

/-- An environment with one variable. -/
def oneVariable (name value : String) : Environment := fun other =>
  if other = name then some value else none

/-- The arguments with a file that is named among them. -/
def named (args : Arguments) (path : String) : Arguments :=
  { args with config := some path }

/-- The arguments without a file among them. -/
def unnamed (args : Arguments) : Arguments := { args with config := none }

/-- Two ways to load come to the same configuration, or to errors of the same
kind. -/
inductive Alike : Except Error Config → Except Error Config → Prop
  | loaded {c : Config} : Alike (.ok c) (.ok c)
  | failed {a b : Error} (kind : a.ctorIdx = b.ctorIdx) :
      Alike (.error a) (.error b)

/-- The command line mends a configuration: the parser is blank, and in its
place one is given that is not, while no name of a setting is. -/
structure Mends (args : Arguments) (c : Config) : Prop where
  blank : Config.isBlank c.parser = true
  given : ∃ parser, args.parser = some parser
    ∧ Config.isBlank parser = false
  settings : ∀ name ∈ (args.override c).settings.keys,
    Config.isBlank name = false

/-- The names of settings stay when the command line adds its own. -/
theorem mem_override_settings {c : Config} {name : String}
    (h : name ∈ c.settings.keys) : name ∈ (args.override c).settings.keys :=
  OrderedMap.mem_keys_insertAll.mpr (.inl h)

/-- Mending is the one way for the command line to make a configuration
valid. -/
theorem mends_iff {c : Config} :
    args.Mends c ↔ ¬ c.Valid ∧ (args.override c).Valid := by
  constructor
  · intro h
    obtain ⟨parser, hparser, hgiven⟩ := h.given
    refine ⟨fun hvalid => ?_, ?_, fun name hname => ?_⟩
    · have hblank := h.blank
      rw [Config.isBlank_eq_false_iff.mpr hvalid.parser] at hblank
      cases hblank
    · show ¬ Config.Blank (args.parser.getD c.parser)
      rw [hparser, Option.getD_some, ← Config.isBlank_eq_false_iff]
      exact hgiven
    · exact Config.isBlank_eq_false_iff.mp (h.settings name hname)
  · intro h
    obtain ⟨hinvalid, hvalid⟩ := h
    -- the names of its settings were not blank before either
    have hblank : Config.isBlank c.parser = true := by
      by_contra hparser
      apply hinvalid
      refine ⟨Config.isBlank_eq_false_iff.mp (Bool.eq_false_iff.mpr hparser),
        ?_⟩
      intro name hname
      exact hvalid.settings name (mem_override_settings hname)
    refine ⟨hblank, ?_, fun name hname =>
      Config.isBlank_eq_false_iff.mpr (hvalid.settings name hname)⟩
    have hparser : Config.isBlank (args.parser.getD c.parser) = false :=
      Config.isBlank_eq_false_iff.mpr hvalid.parser
    cases hgiven : args.parser with
    | none =>
        rw [hgiven, Option.getD_none, hblank] at hparser
        cases hparser
    | some parser =>
        rw [hgiven, Option.getD_some] at hparser
        exact ⟨parser, rfl, hparser⟩

/-- What is found through the environment is read and overridden like what
the command line names, but validated at once. -/
theorem baseConfig_unnamed {path : String}
    (h : (files path).present = true) :
    args.unnamed.baseConfig files (naming env path)
      = match (args.named path).baseConfig files env with
        | .error cause => .error cause
        | .ok c => c.validated := by
  have hplace : (naming env path Config.fileVariable).getD Config.defaultFile
      = path := by
    unfold naming
    rw [Function.update_self, Option.getD_some]
  show Config.loadFrom files (naming env path) ((naming env path
    Config.fileVariable).getD Config.defaultFile) = _
  rw [hplace]
  unfold Config.loadFrom baseConfig named
  rw [if_pos h]
  dsimp only
  cases Config.ofFile files path with
  | error cause => rfl
  | ok c =>
      cases hc : c.overridden env <;>
        simp only [Config.overridden_naming, hc]

theorem Alike.refl (result : Except Error Config) : Alike result result := by
  cases result with
  | error cause => exact .failed rfl
  | ok c => exact .loaded

/-- Where the command line mends a configuration, the file that it names is
loaded, and one that the environment names is refused. -/
theorem Mends.apart {path : String} (h : (files path).present = true)
    {c : Config} (hbase : (args.named path).baseConfig files env = .ok c)
    (hmends : args.Mends c) :
    (args.named path).loadConfig files env = .ok (args.override c)
      ∧ args.unnamed.loadConfig files (naming env path)
        = .error (.configuration .emptyParser) := by
  constructor
  · exact loadConfig_eq_ok_iff.mpr ⟨c, hbase, (mends_iff.mp hmends).2, rfl⟩
  · unfold loadConfig
    rw [baseConfig_unnamed h, hbase]
    dsimp only
    rw [Config.validated_of_blank hmends.blank]

/-- Otherwise it does not matter where a file is named. -/
theorem alike_of_not_mends {path : String} (h : (files path).present = true)
    (hmends : ∀ c, (args.named path).baseConfig files env = .ok c →
      ¬ args.Mends c) :
    Alike ((args.named path).loadConfig files env)
      (args.unnamed.loadConfig files (naming env path)) := by
  unfold loadConfig
  rw [baseConfig_unnamed h]
  cases hbase : (args.named path).baseConfig files env with
  | error cause => exact .refl _
  | ok c =>
      dsimp only
      by_cases hvalid : c.Valid
      · rw [Config.validated_of_valid hvalid]
        exact .refl _
      · -- what is refused at once is refused in the end as well
        have hrefused : ¬ (args.override c).Valid := by
          intro hlast
          exact hmends c hbase (mends_iff.mpr ⟨hvalid, hlast⟩)
        obtain ⟨first, hfirst⟩ := Config.validated_of_not_valid hvalid
        obtain ⟨last, hlast⟩ := Config.validated_of_not_valid hrefused
        rw [hfirst]
        show Alike (args.override c).validated _
        rw [hlast]
        exact .failed rfl

/-- A file that is there comes to the same whether the command line or the
environment names it, unless the command line mends what the file and the
environment come to. Then naming it there is the way to load it, and the
environment leads to a blank parser. -/
theorem named_alike_iff (args : Arguments) (files : FileSystem)
    (env : Environment) {path : String} (h : (files path).present = true) :
    (Alike ((args.named path).loadConfig files env)
        (args.unnamed.loadConfig files (naming env path))
      ↔ ¬ ∃ c, (args.named path).baseConfig files env = .ok c
          ∧ args.Mends c)
    ∧ ∀ c, (args.named path).baseConfig files env = .ok c → args.Mends c →
        (args.named path).loadConfig files env = .ok (args.override c)
        ∧ args.unnamed.loadConfig files (naming env path)
          = .error (.configuration .emptyParser) := by
  refine ⟨⟨?_, ?_⟩, fun c hbase hmends => hmends.apart h hbase⟩
  · intro halike hexists
    obtain ⟨c, hbase, hmends⟩ := hexists
    obtain ⟨hloaded, hrefused⟩ := hmends.apart h hbase
    rw [hloaded, hrefused] at halike
    cases halike
  · intro hnone
    apply alike_of_not_mends h
    intro c hbase hmends
    exact hnone ⟨c, hbase, hmends⟩

/-- A file with a parser and a setting. -/
def gameFiles : FileSystem :=
  oneFile "game.toml" "parser = 'quake'\n[settings]\nmode = '1'"

/-- A command line that names a parser. -/
def mending : Arguments := ⟨"log", none, some "basic", [("mode", "2")], true⟩

/-- A parser that the environment makes blank is mended by the command line
where that names the file, and only there. -/
theorem named_alike_iff_mended :
    (gameFiles "game.toml").present = true
      ∧ (mending.named "game.toml").loadConfig gameFiles
          (oneVariable "DELOG_PARSER" " ")
        = .ok ⟨"basic", .ofList [("mode", "2")], .pretty, "delog=info"⟩
      ∧ mending.unnamed.loadConfig gameFiles
          (naming (oneVariable "DELOG_PARSER" " ") "game.toml")
        = .error (.configuration .emptyParser) := by
  have hpresent : (gameFiles "game.toml").present = true := by rfl
  have hbase : (mending.named "game.toml").baseConfig gameFiles
      (oneVariable "DELOG_PARSER" " ")
      = .ok ⟨" ", .ofList [("mode", "1")], .json, "delog=info"⟩ := by rfl
  have hmends : mending.Mends
      ⟨" ", .ofList [("mode", "1")], .json, "delog=info"⟩ :=
    ⟨by decide, ⟨"basic", rfl, by decide⟩, by decide⟩
  obtain ⟨hnamed, hunnamed⟩ :=
    (named_alike_iff mending gameFiles _ hpresent).2 _ hbase hmends
  exact ⟨hpresent, hnamed, hunnamed⟩

/-- A file with a blank parser. -/
def blankFiles : FileSystem := oneFile "blank.toml" "parser = ''"

/-- It does matter where a file is named: one with a blank parser is loaded
where the command line names it and gives a parser of its own, and refused
where the environment names it. -/
theorem named_otherwise :
    (blankFiles "blank.toml").present = true
      ∧ ¬ Alike
        ((mending.named "blank.toml").loadConfig blankFiles fun _ => none)
        (mending.unnamed.loadConfig blankFiles
          (naming (fun _ => none) "blank.toml")) := by
  refine ⟨by rfl, ?_⟩
  intro halike
  have hbase : (mending.named "blank.toml").baseConfig blankFiles
      (fun _ => none) = .ok ⟨"", .empty, .json, "delog=info"⟩ := by rfl
  have hnamed : (mending.named "blank.toml").loadConfig blankFiles
      (fun _ => none)
      = .ok ⟨"basic", .ofList [("mode", "2")], .pretty, "delog=info"⟩ :=
    loadConfig_eq_ok_iff.mpr ⟨_, hbase, ⟨by decide, by decide⟩, rfl⟩
  have hunnamed : mending.unnamed.loadConfig blankFiles
      (naming (fun _ => none) "blank.toml")
      = .error (.configuration .emptyParser) := by rfl
  rw [hnamed, hunnamed] at halike
  cases halike

end Arguments

end Logline.Command
