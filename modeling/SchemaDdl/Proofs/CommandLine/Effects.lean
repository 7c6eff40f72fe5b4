import SchemaDdl.Proofs.CommandLine.Platform
import Mathlib.Logic.Function.Basic

/-!
# What a run leaves behind

A command makes its whole text before it gives anything out, so a run that fails has left no trace
(`safe_execute`).  A build gives its text out in one place: it prints it, or writes it where the
path asked for leads, and the text does not depend on which (`Builds`).  That path may lead to
standard output itself, which is the one case in which a build that writes a file shows something.
-/

namespace SchemaDdl.CommandLine

variable {σ : Type} {P : Platform (StateM σ)} {V : View σ} {w w₁ w₂ : σ}

/-! ## The text of a build -/

/-- The configuration of a run: that of the file asked for, which must be there, else of the first
usual file that is there, else the empty one. -/
inductive Configures (P : Platform (StateM σ)) (w : σ) : Option String → Config → Prop
  | asked {path content : String} {c : Config} (there : P.stands w path = true)
      (read : P.textAt w path = .ok content) (parse : Config.parse content = .ok c) :
      Configures P w (some path) c
  | working {content : String} {c : Config} (there : P.stands w "ddlkit.toml" = true)
      (read : P.textAt w "ddlkit.toml" = .ok content) (parse : Config.parse content = .ok c) :
      Configures P w none c
  | user {dir content : String} {c : Config} (working : P.stands w "ddlkit.toml" = false)
      (known : P.directory w = some dir) (there : P.stands w (dir ++ "/ddlkit/config.toml") = true)
      (read : P.textAt w (dir ++ "/ddlkit/config.toml") = .ok content)
      (parse : Config.parse content = .ok c) : Configures P w none c
  | empty (working : P.stands w "ddlkit.toml" = false)
      (user : ∀ dir, P.directory w = some dir →
        P.stands w (dir ++ "/ddlkit/config.toml") = false) : Configures P w none {}

/-- The text that a build makes: the configured header line, if any, and what the requests of the
schema file render to.  The dialect is the one asked for, else the one of the file, else the
configured one, else the default. -/
def Builds (P : Platform (StateM σ)) (w : σ) (config : Option String) (schema : String)
    (asked : Option Builtin) (text : String) : Prop :=
  ∃ (c : Config) (content : String) (file : SchemaFile) (b : Builder) (r : Resolver)
      (sql : String),
    Configures P w config c ∧ P.textAt w schema = .ok content ∧
    SchemaFile.parse content = .ok file ∧
    file.apply { dialect := (((asked.or file.dialect).or c.dialect).getD .mssql).dialect }
        (.new fun id => .ofId id) = (.ok b, r) ∧
    (b.build r).1 = .ok sql ∧
    text = match c.header with
      | some header => header ++ "\n" ++ sql
      | none => sql

theorem Configures.of_alike {asked : Option String} {c : Config} (h : Configures P w₁ asked c)
    (halike : P.Alike w₁ w₂) : Configures P w₂ asked c := by
  cases h with
  | asked there read parse =>
    exact .asked (halike.stands _ ▸ there) (halike.textAt _ ▸ read) parse
  | working there read parse =>
    exact .working (halike.stands _ ▸ there) (halike.textAt _ ▸ read) parse
  | user working known there read parse =>
    exact .user (halike.stands _ ▸ working) (halike.directory ▸ known) (halike.stands _ ▸ there)
      (halike.textAt _ ▸ read) parse
  | empty working user =>
    refine .empty (halike.stands _ ▸ working) fun dir hdir => ?_
    rw [← halike.stands]
    exact user dir (halike.directory.trans hdir)

/-- The text of a build depends on what can be found out only. -/
theorem Builds.of_alike {config : Option String} {schema text : String} {asked : Option Builtin}
    (h : Builds P w₁ config schema asked text) (halike : P.Alike w₁ w₂) :
    Builds P w₂ config schema asked text := by
  obtain ⟨c, content, file, b, r, sql, hconfig, hcontent, hrest⟩ := h
  exact ⟨c, content, file, b, r, sql, hconfig.of_alike halike,
    (halike.textAt schema).symm.trans hcontent, hrest⟩

/-! ## Reading -/

namespace Platform

variable (laws : P.Lawful V)

include laws

theorem reads_load {α : Type} (parse : String → Except DdlError α) (path : String) :
    Reads (P.load parse path).run :=
  Reads.bind ((laws.read path).adapt DdlError.file) fun _ => reads_pure _

theorem result_load_eq_ok_iff {α : Type} {parse : String → Except DdlError α} {path : String}
    {a : α} : result (P.load parse path) w = .ok a ↔
      ∃ content, P.textAt w path = .ok content ∧ parse content = .ok a := by
  have hread : Reads (ExceptT.adapt DdlError.file (ExceptT.mk (P.read path))).run :=
    (laws.read path).adapt DdlError.file
  rw [load, hread.result_bind_eq_ok_iff]
  simp only [result_adapt_eq_ok_iff]
  rfl

theorem run_findHeld (paths : List String) (w : σ) :
    (P.findHeld paths).run w = (paths.find? (P.stands w), w) := by
  induction paths with
  | nil => rfl
  | cons path rest ih =>
    rw [findHeld, (laws.holds path).run_bind]
    cases hpath : P.stands w path with
    | true =>
      have hthere : ((P.holds path).run w).1 = true := hpath
      rw [List.find?_cons_of_pos hpath, if_pos hthere]
      rfl
    | false =>
      have hmissing : ¬ ((P.holds path).run w).1 = true := by simpa [stands] using hpath
      rw [List.find?_cons_of_neg (by simp [hpath]), ← ih, if_neg hmissing]

theorem reads_findHeld (paths : List String) : Reads (P.findHeld paths) := by
  intro w
  rw [run_findHeld laws]

theorem reads_loadConfig (asked : Option String) : Reads (P.loadConfig asked).run := by
  cases asked with
  | some path =>
    refine Reads.bind (laws.holds path).lift fun there => ?_
    split
    · exact reads_load laws Config.parse path
    · exact reads_pure _
  | none =>
    refine Reads.bind laws.configDirectory.lift fun directory => ?_
    refine Reads.bind (reads_findHeld laws _).lift fun found => ?_
    split
    · exact reads_load laws Config.parse _
    · exact reads_pure _

theorem result_loadConfig_some (path : String) : result (P.loadConfig (some path)) w =
    if P.stands w path then result (P.load Config.parse path) w
    else .error (.config (.notFound path)) := by
  have hthere : result (liftM (P.holds path) : ExceptT DdlError (StateM σ) Bool) w
      = .ok (P.stands w path) := rfl
  rw [loadConfig, result, (laws.holds path).lift.run_bind_of_ok _ hthere]
  cases P.stands w path <;> rfl

theorem result_loadConfig_none : result (P.loadConfig none) w =
    match (configPaths (P.directory w)).find? (P.stands w) with
    | some path => result (P.load Config.parse path) w
    | none => .ok {} := by
  have hdirectory : result (liftM P.configDirectory : ExceptT DdlError (StateM σ) _) w
      = .ok (P.directory w) := rfl
  have hfound : result (liftM (P.findHeld (configPaths (P.directory w))) :
      ExceptT DdlError (StateM σ) _) w
      = .ok ((configPaths (P.directory w)).find? (P.stands w)) := by
    rw [result_lift, run_findHeld laws]
  rw [loadConfig, result, laws.configDirectory.lift.run_bind_of_ok _ hdirectory,
    (reads_findHeld laws _).lift.run_bind_of_ok _ hfound]
  cases (configPaths (P.directory w)).find? (P.stands w) <;> rfl

omit laws in
/-- The usual files of a configuration, first to last. -/
theorem find?_configPaths_cases (P : Platform (StateM σ)) (w : σ) :
    (P.stands w "ddlkit.toml" = true ∧
      (configPaths (P.directory w)).find? (P.stands w) = some "ddlkit.toml") ∨
    (P.stands w "ddlkit.toml" = false ∧ ∃ dir, P.directory w = some dir ∧
      P.stands w (dir ++ "/ddlkit/config.toml") = true ∧
      (configPaths (P.directory w)).find? (P.stands w) = some (dir ++ "/ddlkit/config.toml")) ∨
    (P.stands w "ddlkit.toml" = false ∧
      (∀ dir, P.directory w = some dir → P.stands w (dir ++ "/ddlkit/config.toml") = false) ∧
      (configPaths (P.directory w)).find? (P.stands w) = none) := by
  cases hworking : P.stands w "ddlkit.toml" with
  | true => exact .inl ⟨rfl, List.find?_cons_of_pos hworking⟩
  | false =>
    rw [configPaths, List.find?_cons_of_neg (by simp [hworking])]
    cases hknown : P.directory w with
    | none => exact .inr (.inr ⟨rfl, fun dir hdir => (by cases hdir), rfl⟩)
    | some dir =>
      cases hthere : P.stands w (dir ++ "/ddlkit/config.toml") with
      | true => exact .inr (.inl ⟨rfl, dir, rfl, hthere, List.find?_cons_of_pos hthere⟩)
      | false =>
        refine .inr (.inr ⟨rfl, fun other hother => ?_, ?_⟩)
        · cases hother
          exact hthere
        · exact List.find?_cons_of_neg (by simp [hthere])

theorem configures_of_loadConfig {asked : Option String} {c : Config}
    (h : result (P.loadConfig asked) w = .ok c) : Configures P w asked c := by
  cases asked with
  | some path =>
    rw [result_loadConfig_some laws] at h
    split at h
    · next hthere =>
      obtain ⟨content, hread, hparse⟩ := (result_load_eq_ok_iff laws).1 h
      exact .asked hthere hread hparse
    · cases h
  | none =>
    rw [result_loadConfig_none laws] at h
    obtain ⟨hworking, hfind⟩ | ⟨hworking, dir, hknown, hthere, hfind⟩ |
      ⟨hworking, huser, hfind⟩ := find?_configPaths_cases P w
    · rw [hfind] at h
      obtain ⟨content, hread, hparse⟩ := (result_load_eq_ok_iff laws).1 h
      exact .working hworking hread hparse
    · rw [hfind] at h
      obtain ⟨content, hread, hparse⟩ := (result_load_eq_ok_iff laws).1 h
      exact .user hworking hknown hthere hread hparse
    · rw [hfind] at h
      cases h
      exact .empty hworking huser

theorem loadConfig_of_configures {asked : Option String} {c : Config}
    (h : Configures P w asked c) : result (P.loadConfig asked) w = .ok c := by
  cases h with
  | asked there read parse =>
    rw [result_loadConfig_some laws, if_pos there]
    exact (result_load_eq_ok_iff laws).2 ⟨_, read, parse⟩
  | working there read parse =>
    have hfind : (configPaths (P.directory w)).find? (P.stands w) = some "ddlkit.toml" :=
      List.find?_cons_of_pos there
    rw [result_loadConfig_none laws, hfind]
    exact (result_load_eq_ok_iff laws).2 ⟨_, read, parse⟩
  | @user dir content _ working known there read parse =>
    have hfind : (configPaths (P.directory w)).find? (P.stands w)
        = some (dir ++ "/ddlkit/config.toml") := by
      rw [configPaths, known, List.find?_cons_of_neg (by simp [working])]
      exact List.find?_cons_of_pos there
    rw [result_loadConfig_none laws, hfind]
    exact (result_load_eq_ok_iff laws).2 ⟨_, read, parse⟩
  | empty working user =>
    have hfind : (configPaths (P.directory w)).find? (P.stands w) = none := by
      rw [configPaths, List.find?_cons_of_neg (by simp [working])]
      cases hknown : P.directory w with
      | none => rfl
      | some dir => exact List.find?_cons_of_neg (by simp [user dir hknown])
    rw [result_loadConfig_none laws, hfind]

theorem reads_loadBuilder (c : Config) (path : String) (asked : Option Builtin) :
    Reads (P.loadBuilder c path asked).run := by
  refine Reads.bind ((reads_load laws SchemaFile.parse path).adapt _) fun file => ?_
  dsimp only
  split <;> exact reads_pure _

theorem loadBuilder_eq_ok_iff {c : Config} {path : String} {asked : Option Builtin}
    {b : Builder} {r : Resolver} : result (P.loadBuilder c path asked) w = .ok (b, r) ↔
      ∃ content file, P.textAt w path = .ok content ∧ SchemaFile.parse content = .ok file ∧
        file.apply { dialect := (c.resolveDialect asked file.dialect).dialect }
          (.new fun id => .ofId id) = (.ok b, r) := by
  have hload := (reads_load laws SchemaFile.parse path).adapt fun e =>
    "reading " ++ path ++ ": " ++ causes e
  rw [loadBuilder, hload.result_bind_eq_ok_iff]
  simp only [result_adapt_eq_ok_iff, result_load_eq_ok_iff laws]
  constructor
  · rintro ⟨file, ⟨content, hcontent, hparse⟩, hfile⟩
    refine ⟨content, file, hcontent, hparse, ?_⟩
    split at hfile
    · next happly =>
      cases hfile
      exact happly
    · cases hfile
  · rintro ⟨content, file, hcontent, hparse, happly⟩
    refine ⟨file, ⟨content, hcontent, hparse⟩, ?_⟩
    simp only [happly, result_pure]

/-! ## Commands -/

theorem safe_deliver (output : Option String) (text : String) (blocks : Nat) :
    Safe V (P.deliver output text blocks) := by
  cases output with
  | some path =>
    have hwrite : Safe V (ExceptT.mk (P.write path text)) :=
      fun w reason hreason => laws.write_refused path text w reason hreason
    exact (hwrite.adapt _).bind_lift fun _ => P.tell _
  | none => exact safe_lift (P.print text)

theorem prints_deliver (text : String) (blocks : Nat) (w : σ) :
    V.Prints w text (after (P.deliver none text blocks) w) :=
  laws.print text w

theorem writes_deliver {path text : String} {blocks : Nat}
    (h : result (P.deliver (some path) text blocks) w = .ok ()) :
    V.Writes w path text (after (P.deliver (some path) text blocks) w) := by
  rw [deliver, result, run_run_bind] at h
  rw [deliver, after, run_run_bind]
  cases hwrite : result (ExceptT.adapt (fun reason => "writing " ++ path ++ ": " ++ reason)
      (ExceptT.mk (P.write path text))) w with
  | ok u =>
    have hwritten := laws.write path text w ((result_adapt_eq_ok_iff _).1 hwrite)
    exact hwritten.trans_same (laws.tell _ _)
  | error message =>
    rw [hwrite] at h
    cases h

theorem safe_build (c : Config) (path : String) (asked : Option Builtin)
    (output : Option String) : Safe V (P.build c path asked output) := by
  -- up to the text everything only reads, and giving it out comes last
  refine (reads_loadBuilder laws c path asked).safe_bind fun loaded => ?_
  refine Reads.safe_bind ((reads_pure _).adapt causes) fun sql => ?_
  exact safe_deliver laws output _ _

theorem safe_explain (c : Config) (path : String) (asked : Option Builtin) (format : Format) :
    Safe V (P.explain c path asked format) := by
  refine (reads_loadBuilder laws c path asked).safe_bind fun loaded => ?_
  cases format <;> exact safe_lift _

theorem safe_command (c : Config) (command : Command) : Safe V (P.command c command) := by
  cases command with
  | build schema dialect output => exact safe_build laws c schema dialect output
  | explain schema dialect format => exact safe_explain laws c schema dialect format
  | types dialect => exact safe_lift _

/-- Whatever fails in a command, it fails before anything is given out, or because nothing can be. -/
theorem safe_execute (invocation : Invocation) : Safe V (P.execute invocation) :=
  Reads.safe_bind ((reads_loadConfig laws invocation.config).adapt _) fun c =>
    safe_command laws c invocation.command

/-- A build that makes a text gives it out. -/
theorem run_execute_of_builds {config : Option String} {schema text : String}
    {asked : Option Builtin} (h : Builds P w config schema asked text) (output : Option String) :
    ∃ blocks, (P.execute ⟨config, .build schema asked output⟩).run.run w
      = (P.deliver output text blocks).run.run w := by
  obtain ⟨c, content, file, b, r, sql, hconfig, hcontent, hfile, happly, hbuild, rfl⟩ := h
  have hload : result (P.loadBuilder c schema asked) w = .ok (b, r) :=
    (loadBuilder_eq_ok_iff laws).2 ⟨content, file, hcontent, hfile, happly⟩
  have hsql : result (ExceptT.adapt causes (ExceptT.mk (pure (b.build r).1)) :
      ExceptT String (StateM σ) String) w = .ok sql :=
    (result_adapt_eq_ok_iff causes).2 hbuild
  refine ⟨b.queue.length, ?_⟩
  rw [execute, ((reads_loadConfig laws config).adapt _).run_bind_of_ok _
    ((result_adapt_eq_ok_iff _).2 (loadConfig_of_configures laws hconfig))]
  rw [command, build, (reads_loadBuilder laws c schema asked).run_bind_of_ok _ hload]
  exact ((reads_pure _).adapt causes).run_bind_of_ok _ hsql

/-- A build that does not fail has made a text. -/
theorem exists_builds {config : Option String} {schema : String} {asked : Option Builtin}
    {output : Option String}
    (h : result (P.execute ⟨config, .build schema asked output⟩) w = .ok ()) :
    ∃ text, Builds P w config schema asked text := by
  obtain ⟨c, hconfig, h⟩ := ((reads_loadConfig laws config).adapt _).result_bind_eq_ok_iff.1 h
  obtain ⟨⟨b, r⟩, hload, h⟩ := (reads_loadBuilder laws c schema asked).result_bind_eq_ok_iff.1 h
  obtain ⟨sql, hsql, -⟩ := ((reads_pure _).adapt causes).result_bind_eq_ok_iff.1 h
  obtain ⟨content, file, hcontent, hfile, happly⟩ := (loadBuilder_eq_ok_iff laws).1 hload
  exact ⟨_, c, content, file, b, r, sql,
    configures_of_loadConfig laws ((result_adapt_eq_ok_iff _).1 hconfig), hcontent, hfile, happly,
    (result_adapt_eq_ok_iff causes).1 hsql, rfl⟩

/-! ## Runs -/

variable {args : List String} {invocation : Invocation}

/-- The arguments are read, and then the command is run. -/
theorem run_of_asks (h : P.asks w args = .ok invocation) :
    (P.run args).run w = match result (P.execute invocation) w with
      | .ok () => (0, after (P.execute invocation) w)
      | .error message =>
        (1, ((P.tell ("Error: " ++ message)).run (after (P.execute invocation) w)).2) := by
  have hparse : ((P.parse args).run w).1 = .ok invocation := h
  rw [Platform.run, (laws.parse args).run_bind, hparse]
  change StateT.run (match result (P.execute invocation) w with | .ok () => _ | .error _ => _) _ = _
  cases result (P.execute invocation) w <;> rfl

/-- A run that fails leaves no trace. -/
theorem same_of_exitCode_ne_zero (h : P.exitCode w args ≠ 0) : V.Same w (P.afterRun w args) := by
  unfold exitCode at h
  unfold afterRun
  cases hasks : P.asks w args with
  | error stop =>
    have hparse : ((P.parse args).run w).1 = .error stop := hasks
    rw [Platform.run, (laws.parse args).run_bind, hparse] at h ⊢
    cases stop with
    | shown text => exact absurd rfl h
    | refused complaint => exact laws.tell complaint w
  | ok invocation =>
    rw [run_of_asks laws hasks] at h ⊢
    cases hresult : result (P.execute invocation) w with
    | ok u =>
      rw [hresult] at h
      exact absurd rfl h
    | error message => exact (safe_execute laws invocation w message hresult).trans (laws.tell _ _)

/-- A run exits with 0 just when its command does not fail. -/
theorem exitCode_eq_zero_iff (h : P.asks w args = .ok invocation) :
    P.exitCode w args = 0 ↔ result (P.execute invocation) w = .ok () := by
  rw [exitCode, run_of_asks laws h]
  cases result (P.execute invocation) w with
  | ok u => exact iff_of_true rfl rfl
  | error message => simp

theorem afterRun_of_result (h : P.asks w args = .ok invocation)
    (hresult : result (P.execute invocation) w = .ok ()) :
    P.afterRun w args = after (P.execute invocation) w := by
  rw [afterRun, run_of_asks laws h, hresult]

/-- A build without a file asked for succeeds as soon as it makes a text, and prints it. -/
theorem prints_of_builds {config : Option String} {schema text : String} {asked : Option Builtin}
    (h : P.asks w args = .ok ⟨config, .build schema asked none⟩)
    (hbuilds : Builds P w config schema asked text) :
    P.exitCode w args = 0 ∧ V.Prints w text (P.afterRun w args) := by
  obtain ⟨blocks, hrun⟩ := run_execute_of_builds laws hbuilds none
  have hresult : result (P.execute ⟨config, .build schema asked none⟩) w = .ok () := by
    rw [result, hrun]
    rfl
  refine ⟨(exitCode_eq_zero_iff laws h).2 hresult, ?_⟩
  rw [afterRun_of_result laws h hresult, after, hrun]
  exact prints_deliver laws text blocks w

/-- A build with a file asked for that succeeds has written its text there. -/
theorem writes_of_builds {config : Option String} {schema text path : String}
    {asked : Option Builtin} (h : P.asks w args = .ok ⟨config, .build schema asked (some path)⟩)
    (hbuilds : Builds P w config schema asked text) (hcode : P.exitCode w args = 0) :
    V.Writes w path text (P.afterRun w args) := by
  have hresult := (exitCode_eq_zero_iff laws h).1 hcode
  obtain ⟨blocks, hrun⟩ := run_execute_of_builds laws hbuilds (some path)
  rw [afterRun_of_result laws h hresult, after, hrun]
  refine writes_deliver laws ?_
  rw [result, hrun] at hresult
  exact hresult

omit laws in
/-- A run is all or nothing.  One that fails has printed nothing and left every file as it was.  A
build that succeeds has made its text: it has printed the text and touched no file, or it has written
the text where the path asked for leads and nowhere else, so that nothing came out unless the path
leads to standard output.  In the second case the same build without a file asked for, over the same
files and environment, succeeds and prints that text. -/
theorem run_all_or_nothing (P : Platform (StateM σ)) (V : View σ) (laws : P.Lawful V) (w : σ) :
    (∀ args, P.exitCode w args ≠ 0 → V.Same w (P.afterRun w args)) ∧
    (∀ args config schema asked,
      P.asks w args = .ok ⟨config, .build schema asked none⟩ → P.exitCode w args = 0 →
      ∃ text, Builds P w config schema asked text ∧ V.Prints w text (P.afterRun w args)) ∧
    ∀ args config schema asked path,
      P.asks w args = .ok ⟨config, .build schema asked (some path)⟩ → P.exitCode w args = 0 →
      ∃ text, Builds P w config schema asked text ∧ V.Writes w path text (P.afterRun w args) ∧
        ∀ w' args', P.Alike w w' → P.asks w' args' = .ok ⟨config, .build schema asked none⟩ →
          P.exitCode w' args' = 0 ∧ V.Prints w' text (P.afterRun w' args') := by
  refine ⟨fun args hcode => same_of_exitCode_ne_zero laws hcode,
    fun args config schema asked hasks hcode => ?_,
    fun args config schema asked path hasks hcode => ?_⟩
  · obtain ⟨text, hbuilds⟩ := exists_builds laws ((exitCode_eq_zero_iff laws hasks).1 hcode)
    exact ⟨text, hbuilds, (prints_of_builds laws hasks hbuilds).2⟩
  · obtain ⟨text, hbuilds⟩ := exists_builds laws ((exitCode_eq_zero_iff laws hasks).1 hcode)
    have hwrites := writes_of_builds laws hasks hbuilds hcode
    refine ⟨text, hbuilds, hwrites, fun w' args' halike hasks' => ?_⟩
    exact prints_of_builds laws hasks' (hbuilds.of_alike halike)

end Platform

namespace AppSchema

/-- One directory of files, and what has come out. -/
structure World where
  files : String → Option String
  stdout : String

/-- Writes a file of the directory, or to the one device there is. -/
def World.write (w : World) (path text : String) : Except String Unit × World :=
  if path = "/dev/stdout" then (.ok (), { w with stdout := w.stdout ++ text })
  else if path.toList.contains '/' then (.error "No such file or directory (os error 2)", w)
  else (.ok (), { w with files := Function.update w.files path (some text) })

/-- The directory and nothing else: no environment, and no directory of the user. -/
def platform : Platform (StateM World) where
  parse args := fun w => ((Invocation.parse args none).mapError Stop.exit, w)
  configDirectory := fun w => (none, w)
  holds path := fun w => ((w.files path).isSome, w)
  read path := fun w =>
    ((w.files path).elim (.error "No such file or directory (os error 2)") .ok, w)
  write path text := fun w => w.write path text
  print text := fun w => ((), { w with stdout := w.stdout ++ text })
  tell _ := fun w => ((), w)

def view : View World where
  File := String
  place _ path := if path = "/dev/stdout" then .output else .file path
  content w path := (w.files path).map String.toUTF8
  stdout w := w.stdout.toUTF8

theorem prints_append (w : World) (text : String) :
    view.Prints w text { w with stdout := w.stdout ++ text } :=
  ⟨String.toByteArray_append, fun _ => rfl⟩

theorem writes_write {w : World} {path text : String} (h : (w.write path text).1 = .ok ()) :
    view.Writes w path text (w.write path text).2 := by
  unfold World.write at h ⊢
  by_cases hdevice : path = "/dev/stdout"
  · rw [if_pos hdevice]
    exact .output (if_pos hdevice) (prints_append w text)
  · rw [if_neg hdevice] at h ⊢
    split at h
    · cases h
    · next hname =>
      rw [if_neg hname]
      have hhere : Function.update w.files path (some text) path = some text :=
        Function.update_self ..
      have hothers : ∀ other, other ≠ path →
          Function.update w.files path (some text) other = w.files other :=
        fun other hother => Function.update_of_ne hother ..
      exact .file path (if_neg hdevice) (congrArg (Option.map String.toUTF8) hhere)
        (fun other hother => congrArg (Option.map String.toUTF8) (hothers other hother)) rfl

theorem same_write_of_error {w : World} {path text reason : String}
    (h : (w.write path text).1 = .error reason) : view.Same w (w.write path text).2 := by
  unfold World.write at h ⊢
  split at h
  · cases h
  · next hdevice =>
    split at h
    · next hname =>
      rw [if_neg hdevice, if_pos hname]
      exact .refl view w
    · cases h

theorem lawful : platform.Lawful view where
  parse _ _ := rfl
  configDirectory _ := rfl
  holds _ _ := rfl
  read _ _ := rfl
  print text w := prints_append w text
  tell _ w := .refl view w
  write _ _ _ h := writes_write h
  write_refused _ _ _ _ h := same_write_of_error h

/-- A script of one operation, and a configured header. -/
def world : World where
  files path :=
    if path = "s.toml" then some "[[script]]\nop = \"create_schema\"\nname = \"app\"\n"
    else if path = "ddlkit.toml" then some "header = \"-- generated\"\n"
    else none
  stdout := ""

/-- What a build of the script makes. -/
def script : String := "-- generated\nCREATE SCHEMA IF NOT EXISTS app;\n"

theorem run_all_or_nothing_app :
    platform.Lawful view ∧
    (platform.exitCode world ["explain", "missing.toml"] ≠ 0 ∧
      view.Same world (platform.afterRun world ["explain", "missing.toml"])) ∧
    (platform.exitCode world ["build", "s.toml", "-o", "out.sql"] = 0 ∧
      view.Writes world "out.sql" script
        (platform.afterRun world ["build", "s.toml", "-o", "out.sql"])) ∧
    platform.exitCode world ["build", "s.toml"] = 0 ∧
    view.Prints world script (platform.afterRun world ["build", "s.toml"]) := by
  obtain ⟨hfail, -, hwrite⟩ := Platform.run_all_or_nothing platform view lawful world
  have hmissing : platform.exitCode world ["explain", "missing.toml"] ≠ 0 := by decide +kernel
  have hcode : platform.exitCode world ["build", "s.toml", "-o", "out.sql"] = 0 := by
    decide +kernel
  have hprinted : (platform.afterRun world ["build", "s.toml"]).stdout = script := by
    decide +kernel
  obtain ⟨text, -, hwrites, hsame⟩ := hwrite _ none "s.toml" none "out.sql" rfl hcode
  obtain ⟨hzero, hprints⟩ := hsame world ["build", "s.toml"] (.refl platform world) rfl
  have htext : text = script := by
    have hstdout : (platform.afterRun world ["build", "s.toml"]).stdout.toUTF8
        = ("" ++ text).toUTF8 := hprints.stdout.trans String.toByteArray_append.symm
    rw [hprinted, String.empty_append] at hstdout
    exact (String.toByteArray_inj.1 hstdout).symm
  rw [htext] at hwrites hprints
  exact ⟨lawful, ⟨hmissing, hfail _ hmissing⟩, ⟨hcode, hwrites⟩, hzero, hprints⟩

/-- Where the path leads to standard output, the text shows although a file was asked for. -/
theorem not_stdout_empty :
    ¬ ∀ (σ : Type) (P : Platform (StateM σ)) (V : View σ), P.Lawful V →
      ∀ (w : σ) (args : List String) (config : Option String) (schema : String)
        (asked : Option Builtin) (path : String),
      P.asks w args = .ok ⟨config, .build schema asked (some path)⟩ →
      P.exitCode w args = 0 → V.stdout (P.afterRun w args) = V.stdout w := by
  intro h
  have hempty := h World platform view lawful world ["build", "s.toml", "-o", "/dev/stdout"]
    none "s.toml" none "/dev/stdout" rfl (by decide +kernel)
  have hstdout : (platform.afterRun world ["build", "s.toml", "-o", "/dev/stdout"]).stdout
      = "" := String.toByteArray_inj.1 hempty
  exact absurd hstdout (by decide +kernel)

end AppSchema
end SchemaDdl.CommandLine
