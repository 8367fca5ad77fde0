import Highlighter.Proofs.CommandLine.Output

/-!
# How a run ends

A run fails where the theme cannot be loaded or the source cannot be read, and then
it has written nothing.  The theme is looked for first, so its failure is the one
that is told.  Otherwise, if standard output takes everything, the whole output
arrives and the run succeeds.
-/

set_option autoImplicit false

namespace Highlighter

/-- Bytes are a text exactly if they are the bytes of that text. -/
theorem World.decode_eq_ok_iff {bytes : ByteArray} {text : List Char} :
    decode bytes = .ok text ↔ bytes = (Utf8.encode text).toByteArray := by
  constructor
  · intro decoded
    unfold decode String.fromUTF8? at decoded
    by_cases valid : bytes.IsValidUTF8
    · rw [dif_pos valid] at decoded
      cases decoded
      rw [Utf8.toByteArray_encode, String.ofList_toList]
      rfl
    · rw [dif_neg valid] at decoded
      cases decoded
  · rintro rfl
    rw [decode, Utf8.fromUTF8?_encode]
    exact congrArg Except.ok String.toList_ofList

section Loading

variable {world : World}

/-- Without a file in the home directory the theme is the default one. -/
theorem ThemeFile.load_of_absent
    (absent : ∀ home, world.home = some home → world.isFile (pathIn home) = false) :
    load world none = .ok .default := by
  have nothing : choose? world none = none := by
    unfold choose? homePath?
    cases set : world.home with
    | none => rfl
    | some home => simp [absent home set]
  unfold load
  rw [nothing]

theorem ThemeFile.load_of_notFound {path : String} (missing : world.read path = .error .notFound) :
    load world (some path) = .error (.configNotFound path) := by
  have asked : choose? world (some path) = some path := rfl
  unfold load
  rw [asked]
  unfold readFile World.readText
  dsimp only
  rw [missing]

end Loading

namespace CommandLine

/-- The bytes that are read for the source. -/
def sourceBytes (world : World) (options : Options) : Except FileError ByteArray :=
  match options.sourceFile? with
  | some path => world.read path
  | none => world.input

theorem readSource_eq (world : World) (options : Options) :
    readSource world options = (sourceBytes world options).bind World.decode := by
  unfold readSource sourceBytes
  cases options.sourceFile? with
  | some path =>
    dsimp only
    unfold World.readText
    cases world.read path <;> rfl
  | none =>
    dsimp only
    unfold World.inputText
    cases world.input <;> rfl

theorem readSource_eq_ok_iff {world : World} {options : Options} {source : List Char} :
    readSource world options = .ok source ↔
      sourceBytes world options = .ok (Utf8.encode source).toByteArray := by
  rw [readSource_eq]
  cases sourceBytes world options with
  | error cause => exact iff_of_false nofun nofun
  | ok bytes =>
    rw [Except.ok.injEq]
    exact World.decode_eq_ok_iff

/-! ## The three ways in which a run goes -/

/-- The theme cannot be loaded. -/
def LacksTheme (world : World) (options : Options) : Prop :=
  ∃ cause, ThemeFile.load world options.config = .error cause

/-- What is read for the source is no text, or nothing can be read. -/
def LacksSource (world : World) (options : Options) : Prop :=
  ∀ source, sourceBytes world options ≠ .ok (Utf8.encode source).toByteArray

section Runs

variable {world : World} {options : Options} {theme : Theme} {source : List Char}

/-- The reports of a run that come before it reads its source. -/
def openingEvents (world : World) (options : Options) : List Event :=
  [themeEvent world options, .rulesCompiled Setanta.table.rules.length]

theorem runOn_of_load_error {cause : Failure}
    (loads : ThemeFile.load world options.config = .error cause) (stdout : Device) :
    runOn world options stdout = .failure stdout [] cause := by
  unfold runOn
  rw [loads]

theorem runOn_of_source_error {cause : FileError}
    (loads : ThemeFile.load world options.config = .ok theme)
    (reads : readSource world options = .error cause) (stdout : Device) :
    runOn world options stdout
      = .failure stdout (openingEvents world options) (.file cause) := by
  unfold runOn
  rw [loads, Setanta.setanta_eq, reads]
  rfl

theorem runOn_of_source (loads : ThemeFile.load world options.config = .ok theme)
    (reads : readSource world options = .ok source) (stdout : Device) :
    runOn world options stdout = highlight world.colors options.format theme Setanta.table source
      stdout (openingEvents world options) := by
  unfold runOn
  rw [loads, Setanta.setanta_eq, reads]
  rfl

theorem prepared_of_source (loads : ThemeFile.load world options.config = .ok theme)
    (reads : readSource world options = .ok source) :
    prepared world options = .ok (theme, Setanta.table, source) := by
  unfold prepared
  rw [loads, Setanta.setanta_eq, reads]
  rfl

/-- A run that lacks something ends before it writes. -/
theorem runOn_fails (lacks : LacksTheme world options ∨ LacksSource world options)
    (stdout : Device) : ∃ events cause, runOn world options stdout
      = .failure stdout events cause := by
  cases loads : ThemeFile.load world options.config with
  | error cause => exact ⟨[], cause, runOn_of_load_error loads stdout⟩
  | ok theme =>
    cases reads : readSource world options with
    | error cause => exact ⟨_, .file cause, runOn_of_source_error loads reads stdout⟩
    | ok source =>
      rcases lacks with ⟨cause, fails⟩ | fails
      · rw [loads] at fails
        cases fails
      · exact absurd (readSource_eq_ok_iff.mp reads) (fails source)

theorem exists_theme_source (themed : ¬ LacksTheme world options)
    (sourced : ¬ LacksSource world options) : ∃ theme source,
      ThemeFile.load world options.config = .ok theme ∧
      readSource world options = .ok source := by
  unfold LacksSource at sourced
  push Not at sourced
  obtain ⟨source, reads⟩ := sourced
  cases loads : ThemeFile.load world options.config with
  | error cause => exact absurd ⟨cause, loads⟩ themed
  | ok theme => exact ⟨theme, source, rfl, readSource_eq_ok_iff.mpr reads⟩

/-- A run that has its theme and its source succeeds if standard output takes everything. -/
theorem runOn_unlimited (loads : ThemeFile.load world options.config = .ok theme)
    (reads : readSource world options = .ok source) :
    (runOn world options (.empty none)).code = 0 ∧
      (runOn world options (.empty none)).stdout.accepted
        = rendered world.colors options.format theme source (Setanta.table.tokens source) := by
  have ready := prepared_of_source loads reads
  refine ⟨(runOn_of_ok ready none).2.mpr rfl, Array.toList_inj.mp ?_⟩
  have whole := output_of_ok ready
  rw [parted, Parted.takeAll_whole] at whole
  exact whole.trans (toList_rendered _ _ _ _ _).symm

end Runs

/-! ## What is seen of a run -/

section Reports

variable {arguments : List String} {options : Options}

theorem execute_run (world : World) (accepted : parse arguments = .ok (.run options))
    (stdout : Device) :
    execute world arguments stdout = .ofResult options (runOn world options stdout) := by
  unfold execute
  rw [accepted]

theorem execute_unlimited {world : World} {theme : Theme} {source : List Char}
    (accepted : parse arguments = .ok (.run options))
    (loads : ThemeFile.load world options.config = .ok theme)
    (reads : readSource world options = .ok source) :
    (execute world arguments (.empty none)).code = 0 ∧
      (execute world arguments (.empty none)).stdout.accepted
        = rendered world.colors options.format theme source (Setanta.table.tokens source) := by
  rw [execute_run world accepted]
  exact runOn_unlimited loads reads

/-- A failure is logged at every level. -/
theorem isLogged_failed (level : Level) (cause : Failure) : (Event.failed cause).isLogged level :=
  decide_eq_true (Nat.zero_le _)

theorem log_failure (options : Options) (stdout : Device) (events : List Event)
    (cause : Failure) : (Report.ofResult options (.failure stdout events cause)).log
      = (events.filter (·.isLogged options.logLevel)).map Event.line
        ++ [(Event.failed cause).line] := by
  have logged := isLogged_failed options.logLevel cause
  simp [Report.ofResult, Result.failure, logged]

end Reports

/-- A run fails, without any output, exactly if its theme or its source cannot be had, and the
failure of the theme is the one that is logged.  Otherwise all of the output arrives.  Without a
file in the home directory there is a theme nevertheless, but a file that is asked for has to be
there. -/
theorem execute_decided (world : World) {arguments : List String} {options : Options}
    (accepted : parse arguments = .ok (.run options)) :
    let report := execute world arguments (.empty none)
    (report.code = 1 ∧ report.stdout.accepted = #[] ↔
      LacksTheme world options ∨ LacksSource world options) ∧
    (∀ cause, ThemeFile.load world options.config = .error cause →
      report.log = [(Event.failed cause).line]) ∧
    (¬ LacksTheme world options → ∀ cause, readSource world options = .error cause →
      report.log.getLast? = some (Event.failed (.file cause)).line) ∧
    (¬ LacksTheme world options → ¬ LacksSource world options → ∃ theme source,
      ThemeFile.load world options.config = .ok theme ∧
      sourceBytes world options = .ok (Utf8.encode source).toByteArray ∧
      report.code = 0 ∧
      report.stdout.accepted
        = rendered world.colors options.format theme source (Setanta.table.tokens source)) ∧
    (options.config = none →
      (∀ home, world.home = some home → world.isFile (ThemeFile.pathIn home) = false) →
      ThemeFile.load world options.config = .ok .default) ∧
    ∀ path, options.config = some path → world.read path = .error .notFound →
      ThemeFile.load world options.config = .error (.configNotFound path) := by
  have run := execute_run world accepted (.empty none)
  intro report
  refine ⟨⟨?_, ?_⟩, ?_, ?_, ?_, ?_, ?_⟩
  · rintro ⟨code, -⟩
    by_contra has
    rw [not_or] at has
    obtain ⟨theme, source, loads, reads⟩ := exists_theme_source has.1 has.2
    have succeeds : report.code = 0 := (execute_unlimited accepted loads reads).1
    rw [succeeds] at code
    exact absurd code (by decide)
  · intro lacks
    obtain ⟨events, cause, fails⟩ := runOn_fails lacks (.empty none)
    rw [fails] at run
    exact ⟨congrArg Report.code run, congrArg (Device.accepted ∘ Report.stdout) run⟩
  · intro cause loads
    rw [runOn_of_load_error loads] at run
    exact (congrArg Report.log run).trans (log_failure options _ [] cause)
  · intro themed cause reads
    cases loads : ThemeFile.load world options.config with
    | error other => exact absurd ⟨other, loads⟩ themed
    | ok theme =>
      rw [runOn_of_source_error loads reads] at run
      have log : report.log = (Report.ofResult options (.failure (.empty none)
          (openingEvents world options) (.file cause))).log := congrArg Report.log run
      rw [log, log_failure, List.getLast?_concat]
  · intro themed sourced
    obtain ⟨theme, source, loads, reads⟩ := exists_theme_source themed sourced
    exact ⟨theme, source, loads, readSource_eq_ok_iff.mp reads,
      execute_unlimited accepted loads reads⟩
  · intro unasked absent
    rw [unasked]
    exact ThemeFile.load_of_absent absent
  · intro path asked missing
    rw [asked]
    exact ThemeFile.load_of_notFound missing

/-- Where neither the theme that is asked for nor the source is there, the theme is reported. -/
theorem execute_decided_missing :
    let arguments := ["--config", "theme.toml", "programme.set"]
    parse arguments
        = .ok (.run ⟨some "programme.set", .ansi, some "theme.toml", 0, false, none⟩) ∧
      (execute .nowhere arguments (.empty none)).code = 1 ∧
      (execute .nowhere arguments (.empty none)).stdout.accepted = #[] ∧
      (execute .nowhere arguments (.empty none)).log
        = ["ERROR Config file not found: theme.toml"] := by
  intro arguments
  have accepted : parse arguments
      = .ok (.run ⟨some "programme.set", .ansi, some "theme.toml", 0, false, none⟩) := by
    decide +kernel
  obtain ⟨fails, told, -, -, -, absent⟩ := execute_decided .nowhere accepted
  have missing := absent "theme.toml" rfl rfl
  obtain ⟨code, stdout⟩ := fails.mpr (.inl ⟨_, missing⟩)
  exact ⟨accepted, code, stdout, (told _ missing).trans (by decide +kernel)⟩

end CommandLine

end Highlighter
