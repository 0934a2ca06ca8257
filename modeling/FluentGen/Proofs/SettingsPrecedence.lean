import FluentGen.Proofs.RunEffects
/-!
# Which source decides a setting

Four sources may give a setting a value. They are asked from the strongest to the weakest, for
every setting on its own: the arguments, the environment, the configuration file, the defaults. A
flag that is off in the arguments is a flag that they do not give. The filter of the log, which is a
variable like those for settings, is none of them.

## Main definitions
* `SettingKey`: the single settings, by their kinds.
* `SettingKey.given?`: the value that assignments give a setting.
* `SettingKey.decided?`: the value of the strongest source that gives one.
* `Assignments.WellTyped`: values are of the kinds that settings take.
* `FileSystem.configuration`: the text of the configuration file.

## Main statements
* `Assignments.value?_append`: what is given later counts.
* `Settings.ofSources_eq`: what several sources come to.
* `Session.perform_load`: loading changes nothing, and looks for one file.
* `Settings.load_precedence`: every setting is decided by its strongest source.
-/
namespace FluentGen

/-! ## Single settings -/

/-- The kinds of settings. -/
inductive SettingKind where
  | path
  | flag

/-- The values of settings of a kind. -/
abbrev SettingKind.Value : SettingKind → Type
  | .path => String
  | .flag => Bool

/-- The single settings, by their kinds. -/
inductive SettingKey : SettingKind → Type where
  | input : SettingKey .path
  | outDirectory : SettingKey .path
  | failOnError : SettingKey .flag
  | jsonDiagnostics : SettingKey .flag

variable {kind : SettingKind}

namespace SettingKey

/-- The name of a setting in files and, in capitals, in variables. -/
def name : SettingKey kind → String
  | .input => "input"
  | .outDirectory => "out_dir"
  | .failOnError => "fail_on_error"
  | .jsonDiagnostics => "json_diagnostics"

/-- What a setting is in the end. -/
def get (settings : Settings) : SettingKey kind → kind.Value
  | .input => settings.input
  | .outDirectory => settings.outDirectory
  | .failOnError => settings.failOnError
  | .jsonDiagnostics => settings.jsonDiagnostics

theorem forall_iff {p : ∀ kind, SettingKey kind → Prop} :
    (∀ kind key, p kind key) ↔
      p _ .input ∧ p _ .outDirectory ∧ p _ .failOnError ∧ p _ .jsonDiagnostics := by
  constructor
  · exact fun all => ⟨all _ _, all _ _, all _ _, all _ _⟩
  · rintro ⟨input, outDirectory, failOnError, jsonDiagnostics⟩ kind key
    cases key <;> assumption

/-- What a setting is when no source gives it. There is no default for the snapshot. -/
def default? : SettingKey kind → Option kind.Value
  | .input => none
  | .outDirectory => some "generated"
  | .failOnError => some false
  | .jsonDiagnostics => some false

/-- What the arguments give a setting. A flag that is off is not given. -/
def argument? (arguments : Arguments) : SettingKey kind → Option kind.Value
  | .input => arguments.input
  | .outDirectory => arguments.outDirectory
  | .failOnError => if arguments.failOnError then some true else none
  | .jsonDiagnostics => if arguments.jsonDiagnostics then some true else none

/-- What a value means for a setting, if it is of its kind. -/
def read? : SettingKey kind → SettingValue → Option kind.Value
  | .input, .text path => some path
  | .outDirectory, .text path => some path
  | .failOnError, .flag flag => some flag
  | .jsonDiagnostics, .flag flag => some flag
  | _, _ => none

/-- The value that means something for a setting. -/
def toValue : SettingKey kind → kind.Value → SettingValue
  | .input, path => .text path
  | .outDirectory, path => .text path
  | .failOnError, flag => .flag flag
  | .jsonDiagnostics, flag => .flag flag

theorem read?_toValue (key : SettingKey kind) (setting : kind.Value) :
    key.read? (key.toValue setting) = some setting := by
  cases key <;> rfl

/-- What assignments give a setting. -/
def given? (key : SettingKey kind) (assignments : Assignments) : Option kind.Value :=
  (assignments.value? key.name).bind key.read?

/-- The value of the strongest source that gives a setting one. -/
def decided? (key : SettingKey kind) (arguments : Arguments) (environment file : Assignments) :
    Option kind.Value :=
  (key.argument? arguments).or ((key.given? environment).or ((key.given? file).or key.default?))

end SettingKey

/-! ## Assignments -/

namespace Assignments

variable {first second : Assignments}

/-- Whether all settings that are given a value are given one of their kind. -/
def WellTyped (assignments : Assignments) : Prop :=
  ∀ (kind : SettingKind) (key : SettingKey kind), ∀ value ∈ assignments.value? key.name,
    (key.read? value).isSome

instance (assignments : Assignments) : Decidable assignments.WellTyped :=
  decidable_of_iff _ SettingKey.forall_iff.symm

/-- What is given later counts. -/
theorem value?_append (first second : Assignments) (key : String) :
    value? (first ++ second) key = (second.value? key).or (first.value? key) := by
  rw [value?, List.reverse_append, List.lookup_append]
  rfl

theorem WellTyped.append (typed : first.WellTyped) (typed' : second.WellTyped) :
    WellTyped (first ++ second) := by
  intro kind key value given
  rw [value?_append, Option.mem_def, Option.or_eq_some_iff] at given
  rcases given with later | ⟨-, earlier⟩
  · exact typed' kind key value later
  · exact typed kind key value earlier

theorem WellTyped.given?_append (typed : second.WellTyped) (key : SettingKey kind) :
    key.given? (first ++ second) = (key.given? second).or (key.given? first) := by
  unfold SettingKey.given?
  rw [value?_append]
  cases later : second.value? key.name with
  | none => rfl
  | some value =>
    obtain ⟨setting, read⟩ := Option.isSome_iff_exists.mp (typed kind key value later)
    simp [read]

end Assignments

namespace Arguments

theorem value?_assignments (arguments : Arguments) (key : SettingKey kind) :
    arguments.assignments.value? key.name = (key.argument? arguments).map key.toValue := by
  obtain ⟨_, input, outDirectory, failOnError, jsonDiagnostics⟩ := arguments
  cases input <;> cases outDirectory <;> cases failOnError <;> cases jsonDiagnostics <;>
    cases key <;> rfl

theorem given?_assignments (arguments : Arguments) (key : SettingKey kind) :
    key.given? arguments.assignments = key.argument? arguments := by
  rw [SettingKey.given?, value?_assignments]
  cases key.argument? arguments with
  | none => rfl
  | some setting => exact key.read?_toValue setting

theorem wellTyped_assignments (arguments : Arguments) : arguments.assignments.WellTyped := by
  intro kind key value given
  rw [value?_assignments] at given
  obtain ⟨setting, -, rfl⟩ := Option.map_eq_some_iff.mp given
  simp [key.read?_toValue]

end Arguments

/-! ## Deciding all settings -/

namespace Settings

variable {assignments : Assignments}

theorem text?_eq (typed : assignments.WellTyped) (key : SettingKey .path) :
    text? assignments key.name = .ok (key.given? assignments) := by
  unfold text? SettingKey.given?
  cases given : assignments.value? key.name with
  | none => rfl
  | some value =>
    have read := typed .path key value given
    cases key <;> cases value <;> simp_all [SettingKey.read?]

theorem flag?_eq (typed : assignments.WellTyped) (key : SettingKey .flag) :
    flag? assignments key.name = .ok (key.given? assignments) := by
  unfold flag? SettingKey.given?
  cases given : assignments.value? key.name with
  | none => rfl
  | some value =>
    have read := typed .flag key value given
    cases key <;> cases value <;> simp_all [SettingKey.read?]

/-- Values of the right kind decide all settings, if the snapshot is given. -/
theorem ofAssignments_eq (typed : assignments.WellTyped) :
    ofAssignments assignments =
      match SettingKey.input.given? assignments with
      | none => .error .missingInput
      | some input => .ok
        { input
          outDirectory := (SettingKey.outDirectory.given? assignments).getD "generated"
          failOnError := (SettingKey.failOnError.given? assignments).getD false
          jsonDiagnostics := (SettingKey.jsonDiagnostics.given? assignments).getD false } := by
  have input : text? assignments "input" = _ := text?_eq typed .input
  have outDirectory : text? assignments "out_dir" = _ := text?_eq typed .outDirectory
  have failOnError : flag? assignments "fail_on_error" = _ := flag?_eq typed .failOnError
  have jsonDiagnostics : flag? assignments "json_diagnostics" = _ :=
    flag?_eq typed .jsonDiagnostics
  rw [ofAssignments, input, outDirectory, failOnError, jsonDiagnostics]
  cases SettingKey.input.given? assignments <;> rfl

theorem ofAssignments_eq_missingInput_iff (typed : assignments.WellTyped) :
    ofAssignments assignments = .error .missingInput ↔
      SettingKey.input.given? assignments = none := by
  rw [ofAssignments_eq typed]
  cases SettingKey.input.given? assignments <;> simp

theorem ofAssignments_eq_ok_iff (typed : assignments.WellTyped) {settings : Settings} :
    ofAssignments assignments = .ok settings ↔
      ∀ (kind : SettingKind) (key : SettingKey kind),
        (key.given? assignments).or key.default? = some (key.get settings) := by
  rw [ofAssignments_eq typed, SettingKey.forall_iff]
  obtain ⟨input, outDirectory, failOnError, jsonDiagnostics⟩ := settings
  cases SettingKey.input.given? assignments <;>
    simp [SettingKey.get, SettingKey.default?, Option.or_some]

/-- What the file, if there is one, gives to settings; `none` if it is malformed. -/
def fileAssignments? (file : Option String) : Option Assignments :=
  file.elim (some []) ConfigurationFile.parse?

section Sources

variable {file : Option String} {environment : List (String × String)} {arguments : Arguments}
  {given : Assignments}

theorem decided?_eq (typed : (ofVariables environment).WellTyped) (arguments : Arguments)
    (given : Assignments) (key : SettingKey kind) :
    key.decided? arguments (ofVariables environment) given =
      (key.given? (given ++ ofVariables environment ++ arguments.assignments)).or key.default? := by
  rw [arguments.wellTyped_assignments.given?_append, typed.given?_append,
    arguments.given?_assignments, Option.or_assoc, Option.or_assoc]
  rfl

theorem ofSources_eq (read : fileAssignments? file = some given) :
    ofSources file environment arguments =
      ofAssignments (given ++ ofVariables environment ++ arguments.assignments) := by
  cases file with
  | none =>
    cases read
    rfl
  | some text =>
    rw [ofSources, show ConfigurationFile.parse? text = some given from read]
    rfl

theorem text?_eq_error {key : String} {failure : Failure}
    (refused : text? assignments key = .error failure) :
    failure = .configuration (.wrongKind key) := by
  unfold text? at refused
  split at refused <;> cases refused
  rfl

theorem flag?_eq_error {key : String} {failure : Failure}
    (refused : flag? assignments key = .error failure) :
    failure = .configuration (.wrongKind key) := by
  unfold flag? at refused
  split at refused <;> cases refused
  rfl

theorem ofAssignments_eq_error {failure : Failure}
    (refused : ofAssignments assignments = .error failure) :
    failure = .missingInput ∨ ∃ problem, failure = .configuration problem := by
  rcases bind_eq_error_iff.mp refused with wrong | ⟨input, -, refused⟩
  · exact .inr ⟨_, text?_eq_error wrong⟩
  rcases bind_eq_error_iff.mp refused with wrong | ⟨outDirectory, -, refused⟩
  · exact .inr ⟨_, text?_eq_error wrong⟩
  rcases bind_eq_error_iff.mp refused with wrong | ⟨failOnError, -, refused⟩
  · exact .inr ⟨_, flag?_eq_error wrong⟩
  rcases bind_eq_error_iff.mp refused with wrong | ⟨jsonDiagnostics, -, refused⟩
  · exact .inr ⟨_, flag?_eq_error wrong⟩
  cases input <;> cases refused
  exact .inl rfl

/-- What is wrong with sources is never that a file is not there. -/
theorem ofSources_eq_error {failure : Failure}
    (refused : ofSources file environment arguments = .error failure) :
    failure = .missingInput ∨ ∃ problem, failure = .configuration problem := by
  cases file with
  | none => exact ofAssignments_eq_error refused
  | some text =>
    rcases bind_eq_error_iff.mp refused with malformed | ⟨given, -, refused⟩
    · cases parsed : ConfigurationFile.parse? text with
      | none => exact .inr ⟨.malformedFile, by simpa [parsed, eq_comm] using malformed⟩
      | some given => simp [parsed] at malformed
    · exact ofAssignments_eq_error refused

end Sources

end Settings

/-! ## Loading -/

namespace FileSystem

variable {files : FileSystem} {path text : String}

/-- The text of the file at a path. -/
def text? (files : FileSystem) (path : String) : Option String :=
  match files.find? path with
  | some (.file text) => some text
  | _ => none

theorem isFile_eq : files.isFile path = (files.text? path).isSome := by
  unfold isFile text?
  cases files.find? path with
  | none => rfl
  | some entry => cases entry <;> rfl

theorem text?_eq_some_iff :
    files.text? path = some text ↔
      ∃ place, files.locate path = .ok place ∧ files.entry? place = some (.file text) := by
  unfold text? find?
  cases files.locate path with
  | error _ => simp
  | ok place =>
    simp only [Except.ok.injEq, exists_eq_left']
    cases files.entry? place with
    | none => simp
    | some entry => cases entry <;> simp

theorem surroundings_eq_cons (place : Place) :
    surroundings place = place :: (surroundings place).tail := by
  simp [surroundings, List.range_succ_eq_map]

/-- A file at a path is found before all that lie further out. -/
theorem search?_of_text? (here : files.text? path = some text) :
    files.search? path = some text := by
  obtain ⟨place, located, entry⟩ := text?_eq_some_iff.mp here
  have walked : files.walk [] false (files.start path) (Path.names path) = .ok place :=
    walk_eq_ok_iff.mpr (locate_eq_ok_iff.mp located).2
  have first : ∃ others,
      (if Path.isAbsolute path then [[]] else surroundings files.workingDirectory) =
        files.start path :: others := by
    unfold start
    split
    · exact ⟨[], rfl⟩
    · exact ⟨_, surroundings_eq_cons _⟩
  obtain ⟨others, first⟩ := first
  rw [search?, first, searchIn?, walked]
  simp [Except.toOption, entry]

/-- The text of the configuration file: of the one that the arguments name, which has to exist, or
of the nearest with the usual name. -/
def configuration (files : FileSystem) (arguments : Arguments) : Except Failure (Option String) :=
  match arguments.configuration with
  | none => .ok (files.search? Settings.configurationPath)
  | some path =>
    match files.text? path with
    | some text => .ok (some text)
    | none => .error (.configurationNotFound path)

theorem configuration_eq_error_iff {arguments : Arguments} {failure : Failure} :
    files.configuration arguments = .error failure ↔
      ∃ path, arguments.configuration = some path ∧ files.isFile path = false ∧
        failure = .configurationNotFound path := by
  unfold configuration
  cases arguments.configuration with
  | none => simp
  | some path =>
    cases here : files.text? path <;> simp [isFile_eq, here, @eq_comm _ failure]

end FileSystem

namespace Settings

variable {session : Session} {arguments : Arguments} {environment : List (String × String)}

/-- Loading changes nothing. -/
theorem perform_load :
    session.perform (load arguments environment) =
      (session.files.configuration arguments >>= (ofSources · environment arguments), session) := by
  unfold load FileSystem.configuration
  cases named : arguments.configuration with
  | none =>
    have found : session.perform (findConfiguration arguments) =
        (.ok configurationPath, session) := by
      rw [findConfiguration, named]
      rfl
    rw [Session.perform_bind_ok _ found]
    exact Session.perform_liftExcept _
  | some path =>
    have found : session.perform (findConfiguration arguments) =
        (if session.files.isFile path then .ok path else .error (.configurationNotFound path),
          session) := by
      rw [findConfiguration, named]
      change session.perform (if session.files.isFile path then _ else _) = _
      split <;> rfl
    rw [FileSystem.isFile_eq] at found
    cases here : session.files.text? path with
    | none =>
      rw [here] at found
      simp only [here]
      exact Session.perform_bind_error _ found
    | some text =>
      rw [here] at found
      simp only [here]
      have searched : session.perform (Machine.search? path : StateM Session _) =
          (.ok (some text), session) := by
        rw [← FileSystem.search?_of_text? here]
        rfl
      exact (Session.perform_bind_ok _ found).trans <|
        (Session.perform_bind_ok _ searched).trans (Session.perform_liftExcept _)

/-- Whether a variable is the one with the filter of the log. -/
def IsLog (name : String) : Prop :=
  (Text.trim name).toLower = variablePrefix ++ logKey

instance (name : String) : Decidable (IsLog name) :=
  inferInstanceAs (Decidable (_ = _))

theorem variableAssignment?_of_isLog {name : String} (log : IsLog name) (value : String) :
    variableAssignment? name value = none := by
  unfold variableAssignment?
  rw [log]
  rfl

/-- **Every setting is decided by the strongest source that gives it a value.** Loading fails for a
missing configuration file exactly when the arguments name one that does not exist. Else, when the
file can be read and its values and those of the environment are of the right kinds, it fails for a
missing snapshot exactly when no source gives one, and it succeeds with exactly those settings that
are each decided by the arguments, the environment, the file and the defaults, in this order. The
variable for the log may be left out anywhere. -/
theorem load_precedence (session : Session) (arguments : Arguments)
    (environment : List (String × String)) :
    (∀ path, session.perform (load arguments environment) =
        (.error (.configurationNotFound path), session) ↔
      arguments.configuration = some path ∧ session.files.isFile path = false) ∧
    (∀ file given, session.files.configuration arguments = .ok file →
      fileAssignments? file = some given → given.WellTyped → (ofVariables environment).WellTyped →
      (session.perform (load arguments environment) = (.error .missingInput, session) ↔
        SettingKey.input.decided? arguments (ofVariables environment) given = none) ∧
      ∀ settings, session.perform (load arguments environment) = (.ok settings, session) ↔
        ∀ (kind : SettingKind) (key : SettingKey kind),
          key.decided? arguments (ofVariables environment) given = some (key.get settings)) ∧
    ∀ before after name value, environment = before ++ (name, value) :: after → IsLog name →
      session.perform (load arguments environment) =
        session.perform (load arguments (before ++ after)) := by
  refine ⟨fun path => ?_, ?_, ?_⟩
  · rw [perform_load, Prod.mk.injEq, and_iff_left rfl, bind_eq_error_iff]
    constructor
    · rintro (unfound | ⟨file, -, refused⟩)
      · obtain ⟨other, named, missing, same⟩ := FileSystem.configuration_eq_error_iff.mp unfound
        cases same
        exact ⟨named, missing⟩
      · rcases ofSources_eq_error refused with other | ⟨problem, other⟩ <;> cases other
    · rintro ⟨named, missing⟩
      exact .inl (FileSystem.configuration_eq_error_iff.mpr ⟨path, named, missing, rfl⟩)
  · intro file given found read typed typed'
    have loaded : session.perform (load arguments environment) =
        (ofAssignments (given ++ ofVariables environment ++ arguments.assignments), session) := by
      rw [perform_load, found, ← ofSources_eq read]
      rfl
    have typed := (typed.append typed').append arguments.wellTyped_assignments
    simp only [loaded, Prod.mk.injEq, and_true, decided?_eq typed' arguments given]
    refine ⟨?_, fun settings => ofAssignments_eq_ok_iff typed⟩
    rw [ofAssignments_eq_missingInput_iff typed, SettingKey.default?, Option.or_none]
  · rintro before after name value rfl log
    have same : ofVariables (before ++ (name, value) :: after) = ofVariables (before ++ after) := by
      simp [ofVariables, variableAssignment?_of_isLog log]
    rw [perform_load, perform_load]
    unfold ofSources
    rw [same]

/-- A working directory without files. -/
def bare : Session where
  files := .ofFiles ["work"] []

/-- A working directory with a configuration file. -/
def configured : Session where
  files := .ofFiles ["work"] [("buildsmith.toml",
    "input = \"file.json\"\nout_dir = \"from-file\"\nfail_on_error = true\n")]

theorem isFile_absent {session : Session} (here : session ∈ [bare, configured]) :
    session.files.isFile "absent.toml" = false := by
  have path : FileSystem.checkPath "absent.toml" = .ok () :=
    FileSystem.checkPath_eq_ok (by decide) (by decide) (by decide)
  simp only [List.mem_cons, List.not_mem_nil, or_false] at here
  unfold FileSystem.isFile FileSystem.find? FileSystem.locate
  rw [path]
  rcases here with rfl | rfl <;> rfl

theorem load_precedence_layers :
    let environment := [("BUILDSMITH_OUT_DIR", "from-env"), ("BUILDSMITH_LOG", "debug")]
    configured.perform (load { configuration := "absent.toml" } environment) =
        (.error (.configurationNotFound "absent.toml"), configured) ∧
      configured.perform (load { jsonDiagnostics := true } environment) =
        (.ok ⟨"file.json", "from-env", true, true⟩, configured) ∧
      bare.perform (load {} environment) = (.error .missingInput, bare) ∧
      bare.perform (load {} environment) =
        bare.perform (load {} [("BUILDSMITH_OUT_DIR", "from-env")]) := by
  intro environment
  have typed : (ofVariables environment).WellTyped := by decide +kernel
  refine ⟨?_, ?_, ?_, ?_⟩
  · exact ((load_precedence configured { configuration := "absent.toml" } environment).1 _).mpr
      ⟨rfl, isFile_absent (by simp)⟩
  · have decided := (load_precedence configured { jsonDiagnostics := true } environment).2.1 _
      [("input", .text "file.json"), ("out_dir", .text "from-file"), ("fail_on_error", .flag true)]
      rfl (by decide +kernel) (by decide +kernel) typed
    exact (decided.2 _).mpr (SettingKey.forall_iff.mpr (by decide +kernel))
  · have decided := (load_precedence bare {} environment).2.1 none [] rfl rfl (by decide) typed
    exact decided.1.mpr (by decide +kernel)
  · exact (load_precedence bare {} environment).2.2 [("BUILDSMITH_OUT_DIR", "from-env")] []
      "BUILDSMITH_LOG" "debug" rfl (by decide +kernel)

/-- When the configuration file that the arguments name is missing, this is what loading fails with,
though no source gives the snapshot either. -/
theorem load_absent_configuration :
    let arguments : Arguments := { configuration := "absent.toml" }
    SettingKey.input.decided? arguments (ofVariables []) [] = none ∧
      bare.perform (load arguments []) ≠ (.error .missingInput, bare) := by
  intro arguments
  have unfound : bare.files.configuration arguments =
      .error (.configurationNotFound "absent.toml") :=
    FileSystem.configuration_eq_error_iff.mpr ⟨_, rfl, isFile_absent (by simp), rfl⟩
  refine ⟨rfl, ?_⟩
  rw [perform_load, unfound]
  rintro ⟨⟩

end Settings

end FluentGen
