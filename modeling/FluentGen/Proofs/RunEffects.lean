import FluentGen.Proofs.PrintedLines
import FluentGen.Proofs.WrittenFiles
/-!
# What a run leaves behind

A run has three parts: it reads the snapshot, it prints and writes, and it decides how it ends. The
first part changes nothing and the last part changes nothing, so a run that cannot read its snapshot
leaves everything as it was, and whether errors make a run fail does not show in what it leaves.
In between, the only changes are directories that were missing on the way to the output directory
and the files at the places that generated names lead to.

## Main definitions
* `Session.perform`: the result of an action, and the session after it.
* `FileSystem.snapshot`: the compilation that a path leads to.
* `FileSystem.Provides`: a directory is there, or can be made.
* `FileSystem.OpensApart`: names below a directory lead to files at different places.
* `Settings.outcome`: how a run with some report ends.

## Main statements
* `FileSystem.run_ensureDirectory_iff`: what it takes to have a directory.
* `FileSystem.Provides.gainsDirectories`: nothing but directories is made on the way.
* `Session.perform_writeFiles`: every file gets its text, and other places stay as they are.
* `run_effects`: the effects of a run.
-/
namespace FluentGen

/-! ## Actions on a session -/

namespace Session

variable {α β : Type} {session between : Session}

theorem run_bind_eq {action : StateM Session α} {value : α} (next : α → StateM Session β)
    (done : action.run session = (value, between)) :
    (action >>= next).run session = (next value).run between := by
  rw [StateT.run_bind, done]
  rfl

/-- The result of an action, and the session after it. -/
def perform (session : Session) (action : ExceptT Failure (StateM Session) α) :
    Except Failure α × Session :=
  action.run.run session

theorem perform_bind_ok {action : ExceptT Failure (StateM Session) α} {value : α}
    (next : α → ExceptT Failure (StateM Session) β)
    (done : session.perform action = (.ok value, between)) :
    session.perform (action >>= next) = between.perform (next value) := by
  unfold perform at done ⊢
  rw [ExceptT.run_bind, run_bind_eq _ done]

theorem perform_bind_error {action : ExceptT Failure (StateM Session) α} {failure : Failure}
    (next : α → ExceptT Failure (StateM Session) β)
    (failed : session.perform action = (.error failure, between)) :
    session.perform (action >>= next) = (.error failure, between) := by
  unfold perform at failed ⊢
  rw [ExceptT.run_bind, run_bind_eq _ failed]
  rfl

theorem perform_orFail (path : String) (operation : StateM Session (Except AccessError α)) :
    session.perform (orFail path operation) =
      ((operation.run session).1.mapError (.access path), (operation.run session).2) :=
  rfl

theorem perform_printError (text : String) :
    session.perform (Machine.printError text : StateM Session Unit) =
      (.ok (), { session with printed := session.printed ++ text }) :=
  rfl

theorem perform_liftExcept (result : Except Failure α) :
    session.perform (liftExcept result) = (result, session) := by
  cases result <;> rfl

/-- Actions that leave the session as it is leave it so one after the other. -/
theorem perform_bind_still {action : ExceptT Failure (StateM Session) α}
    {next : α → ExceptT Failure (StateM Session) β} {result : Except Failure α}
    {rest : α → Except Failure β} (first : session.perform action = (result, session))
    (second : ∀ value, session.perform (next value) = (rest value, session)) :
    session.perform (action >>= next) = (result >>= rest, session) := by
  cases result with
  | ok value => rw [perform_bind_ok next first, second]; rfl
  | error failure => rw [perform_bind_error next first]; rfl

/-- The session after two actions is that after two others if the second ones agree on it. -/
theorem perform_bind_snd_congr {action : ExceptT Failure (StateM Session) α}
    {next next' : α → ExceptT Failure (StateM Session) β}
    (same : ∀ value session,
      (perform session (next value)).2 = (perform session (next' value)).2) :
    (session.perform (action >>= next)).2 = (session.perform (action >>= next')).2 := by
  rcases performed : session.perform action with ⟨result, between⟩
  cases result with
  | ok value => rw [perform_bind_ok next performed, perform_bind_ok next' performed, same]
  | error failure => rw [perform_bind_error next performed, perform_bind_error next' performed]

end Session

/-! ## Reading the snapshot -/

/-- The text of the snapshot at a path. A directory that is missing is what the failure names. -/
def FileSystem.inputText (files : FileSystem) (path : String) : Except Failure String := do
  let (directory, name) ← (Path.split? path).elim (.error (.access path .invalidPath)) .ok
  discard <| (files.directory directory).mapError (.access directory)
  (files.read directory name).mapError (.access path)

/-- The compilation that the snapshot at a path describes, or why there is none. -/
def FileSystem.snapshot (files : FileSystem) (path : String) : Except Failure Compilation := do
  (Compilation.ofText (← files.inputText path)).mapError (.snapshot path)

namespace FileSystem

variable {files : FileSystem} {path directory name text : String} {model : Compilation}

theorem inputText_eq_ok_iff :
    files.inputText path = .ok text ↔
      ∃ directory name, Path.split? path = some (directory, name) ∧
        files.read directory name = .ok text := by
  unfold inputText
  cases Path.split? path with
  | none => simp [bind, Except.bind]
  | some found =>
    obtain ⟨directory, name⟩ := found
    change (discard ((files.directory directory).mapError (Failure.access directory)) >>= fun _ =>
      (files.read directory name).mapError (Failure.access path)) = .ok text ↔ _
    constructor
    · intro done
      obtain ⟨_, -, read⟩ := bind_eq_ok_iff.mp done
      exact ⟨directory, name, rfl, mapError_eq_ok_iff.mp read⟩
    · rintro ⟨_, _, ⟨⟩, read⟩
      obtain ⟨place, there, -⟩ := read_eq_ok_iff.mp read
      rw [there, read]
      rfl

/-- A snapshot is read if its path leads to a file and the text of the file can be read. -/
theorem snapshot_eq_ok_iff :
    files.snapshot path = .ok model ↔
      ∃ directory name text, Path.split? path = some (directory, name) ∧
        files.read directory name = .ok text ∧ Compilation.ofText text = .ok model := by
  simp only [snapshot, bind_eq_ok_iff, mapError_eq_ok_iff, inputText_eq_ok_iff]
  constructor
  · rintro ⟨text, ⟨directory, name, split, read⟩, parsed⟩
    exact ⟨directory, name, text, split, read, parsed⟩
  · rintro ⟨directory, name, text, split, read, parsed⟩
    exact ⟨text, ⟨directory, name, split, read⟩, parsed⟩

/-- A snapshot that was printed to a file is what is read from there. -/
theorem snapshot_toText {nullableEnabled : Bool} {assemblyAttributes : List Attribute}
    {types : List NamedType}
    (fits : (Compilation.toJson { nullableEnabled, assemblyAttributes, types }).nesting ≤
      Snapshot.nestingLimit)
    (split : Path.split? path = some (directory, name))
    (text : files.read directory name =
      .ok (Compilation.toText { nullableEnabled, assemblyAttributes, types })) :
    files.snapshot path = .ok { nullableEnabled, assemblyAttributes, types } := by
  refine snapshot_eq_ok_iff.mpr ⟨directory, name, _, split, text, ?_⟩
  have read := Snapshot.reads_compilation nullableEnabled assemblyAttributes types fits
  rw [Compilation.ofText, Compilation.toText,
    Json.ofText_pretty (Snapshot.isPrintable_compilation _)]
  simp only [Compilation.ofJson, read]
  rfl

end FileSystem

namespace Session

theorem perform_readInput (session : Session) (path : String) :
    session.perform (readInput path) = (session.files.inputText path, session) := by
  unfold readInput FileSystem.inputText
  cases Path.split? path with
  | none => rfl
  | some found =>
    obtain ⟨directory, name⟩ := found
    have opened : session.perform (orFail directory (Machine.openDirectory directory)) =
        (discard <| (session.files.directory directory).mapError (.access directory), session) := by
      rw [perform_orFail]
      change (((session.files.directory directory).map fun _ => ()).mapError _, session) = _
      cases session.files.directory directory <;> rfl
    exact perform_bind_still opened fun _ => rfl

/-- Reading the snapshot changes nothing. -/
theorem perform_readSnapshot (session : Session) (path : String) :
    session.perform (readSnapshot path) = (session.files.snapshot path, session) := by
  refine perform_bind_still (perform_readInput session path) fun text => ?_
  cases Compilation.ofText text <;> rfl

end Session

/-! ## The output directory -/

namespace FileSystem

/-- Making directories one after another, each of which can be made or is there. -/
inductive Makes : FileSystem → List String → FileSystem → Prop where
  | done {files : FileSystem} : Makes files [] files
  | made {files between after : FileSystem} {path : String} {paths : List String}
      (new : files.makeDirectory path = .ok between) (rest : Makes between paths after) :
      Makes files (path :: paths) after
  | there {files after : FileSystem} {path : String} {paths : List String} {place : Place}
      (old : files.makeDirectory path = .error .alreadyExists)
      (opened : files.directory path = .ok place) (rest : Makes files paths after) :
      Makes files (path :: paths) after

/-- Whether there is a directory at a path, or it can be made with those that it is in. -/
inductive Provides (files : FileSystem) (path : String) : FileSystem → Prop where
  | there {place : Place} (opened : files.directory path = .ok place) : Provides files path files
  | made {after : FileSystem} (missing : files.directory path = .error .notFound)
      (makes : Makes files (Path.steps path) after) : Provides files path after

variable {files between after : FileSystem} {path printed : String} {paths : List String}
  {place : Place}

theorem run_makeDirectories_cons :
    (makeDirectories (path :: paths) : StateM Session _).run ⟨files, printed⟩ =
      match files.makeDirectory path with
      | .ok between => (makeDirectories paths : StateM Session _).run ⟨between, printed⟩
      | .error .alreadyExists =>
        match files.directory path with
        | .ok _ => (makeDirectories paths : StateM Session _).run ⟨files, printed⟩
        | .error _ => (.error .alreadyExists, ⟨files, printed⟩)
      | .error refusal => (.error refusal, ⟨files, printed⟩) := by
  have tried : (Machine.makeDirectory path : StateM Session _).run ⟨files, printed⟩ =
      Session.update ⟨files, printed⟩ (files.makeDirectory path) := rfl
  have opened : (Machine.openDirectory path : StateM Session _).run ⟨files, printed⟩ =
      ((files.directory path).map fun _ => (), ⟨files, printed⟩) := rfl
  rw [makeDirectories, Session.run_bind_eq _ tried]
  cases files.makeDirectory path with
  | ok between => rfl
  | error refusal =>
    cases refusal with
    | alreadyExists =>
      refine (Session.run_bind_eq _ opened).trans ?_
      cases files.directory path <;> rfl
    | _ => rfl

theorem run_makeDirectories_iff :
    (makeDirectories paths : StateM Session _).run ⟨files, printed⟩ = (.ok (), ⟨after, printed⟩) ↔
      Makes files paths after := by
  induction paths generalizing files with
  | nil =>
    constructor
    · rintro ⟨⟩
      exact .done
    · rintro ⟨⟩
      rfl
  | cons path paths ih =>
    rw [run_makeDirectories_cons]
    constructor
    · intro made
      cases tried : files.makeDirectory path with
      | ok between =>
        rw [tried] at made
        exact .made tried (ih.mp made)
      | error refusal =>
        rw [tried] at made
        cases refusal with
        | alreadyExists =>
          cases opened : files.directory path with
          | ok place =>
            rw [opened] at made
            exact .there tried opened (ih.mp made)
          | error _ =>
            rw [opened] at made
            cases made
        | _ => cases made
    · rintro (_ | ⟨new, rest⟩ | ⟨old, opened, rest⟩)
      · rw [new]
        exact ih.mpr rest
      · rw [old, opened]
        exact ih.mpr rest

/-- What it takes to have a directory: it is there, or it is missing and can be made. -/
theorem run_ensureDirectory_iff :
    (ensureDirectory path : StateM Session _).run ⟨files, printed⟩ = (.ok (), ⟨after, printed⟩) ↔
      Provides files path after := by
  have opened : (Machine.openDirectory path : StateM Session _).run ⟨files, printed⟩ =
      ((files.directory path).map fun _ => (), ⟨files, printed⟩) := rfl
  rw [ensureDirectory, Session.run_bind_eq _ opened]
  constructor
  · intro ensured
    cases tried : files.directory path with
    | ok place =>
      rw [tried] at ensured
      cases ensured
      exact .there tried
    | error refusal =>
      rw [tried] at ensured
      cases refusal with
      | notFound => exact .made tried (run_makeDirectories_iff.mp ensured)
      | _ => cases ensured
  · rintro (⟨there⟩ | ⟨missing, makes⟩)
    · rw [there]
      rfl
    · rw [missing]
      exact run_makeDirectories_iff.mpr makes

/-- Whether a file system has the entries of another and, besides, only directories. -/
def GainsDirectories (files after : FileSystem) : Prop :=
  ∀ place, after.entry? place = files.entry? place ∨
    files.entry? place = none ∧ after.entry? place = some .directory

theorem GainsDirectories.trans (first : GainsDirectories files between)
    (second : GainsDirectories between after) : GainsDirectories files after := by
  intro place
  rcases first place with same | ⟨missing, new⟩
  · simpa only [same] using second place
  · rcases second place with same' | ⟨missing', -⟩
    · exact .inr ⟨missing, same'.trans new⟩
    · simp [new] at missing'

/-- A directory is made where nothing was, inside a directory that the names before lead to. -/
theorem makeDirectory_eq_ok (made : files.makeDirectory path = .ok after) :
    checkPath path = .ok () ∧
      ∃ last above place, (Path.names path).reverse.dropWhile (· == "") = last :: above ∧
        files.walk [] false (files.start path) above.reverse = .ok place ∧
        files.entry? place = some .directory ∧ files.entry? (place ++ [last]) = none ∧
        Path.isTurn last = false ∧ checkName last = .ok () ∧
        after = files.insert (place ++ [last]) .directory := by
  unfold makeDirectory at made
  obtain ⟨checked, made⟩ := then_eq_ok_iff.mp made
  split at made
  · cases made
  · next last above reversed =>
    obtain ⟨place, walked, made⟩ := bind_eq_ok_iff.mp made
    split at made
    · cases made
    · cases made
    · next here missing =>
      split at made
      · cases made
      · next straight =>
        obtain ⟨named, made⟩ := then_eq_ok_iff.mp made
        cases made
        exact ⟨checked, last, above, place, reversed, walked, here, missing,
          eq_false_of_ne_true straight, named, rfl⟩
    · cases made

theorem gainsDirectories_of_makeDirectory (made : files.makeDirectory path = .ok after) :
    GainsDirectories files after := by
  obtain ⟨-, last, -, place, -, -, -, missing, -, -, rfl⟩ := makeDirectory_eq_ok made
  have inside : place ++ [last] ≠ [] := by simp
  intro other
  by_cases same : other = place ++ [last]
  · subst same
    exact .inr ⟨missing, entry?_insert_self files inside _⟩
  · exact .inl (entry?_insert_of_ne files same _)

theorem Leads.append {confined : Bool} {below target : Place} {names names' : List String}
    (first : Leads files [] confined below names place)
    (second : Leads files [] confined place names' target) :
    Leads files [] confined below (names ++ names') target := by
  induction first with
  | done => exact second
  | stay here idle _ ih => exact .stay here idle (ih second)
  | down here busy forward fits _ ih => exact .down here busy forward fits (ih second)
  | up here inside _ ih => exact .up here inside (ih second)

theorem leads_blanks {confined : Bool} {names : List String}
    (here : files.entry? place = some .directory) (blank : ∀ name ∈ names, name = "") :
    Leads files [] confined place names place := by
  induction names with
  | nil => exact .done
  | cons name names ih =>
    obtain ⟨rfl, others⟩ := List.forall_mem_cons.mp blank
    exact .stay here rfl (ih others)

/-- Names end in what is left of them from the back, and blanks. -/
theorem exists_blanks {names above : List String} {last : String}
    (left : names.reverse.dropWhile (· == "") = last :: above) :
    ∃ blanks, names = above.reverse ++ last :: blanks ∧ (∀ name ∈ blanks, name = "") ∧
      last ≠ "" := by
  refine ⟨(names.reverse.takeWhile (· == "")).reverse, ?_, fun name hname => ?_, ?_⟩
  · calc names
      _ = (names.reverse.takeWhile (· == "") ++ names.reverse.dropWhile (· == "")).reverse := by
          rw [List.takeWhile_append_dropWhile, List.reverse_reverse]
      _ = above.reverse ++ last :: (names.reverse.takeWhile (· == "")).reverse := by
          rw [left]
          simp
  · simpa using List.mem_takeWhile_imp (p := (· == "")) (List.mem_reverse.mp hname)
  · have := List.head?_dropWhile_not (· == "") names.reverse
    simpa [left] using this

/-- A directory that has been made is there. -/
theorem directory_of_makeDirectory (made : files.makeDirectory path = .ok after) :
    ∃ place, after.directory path = .ok place := by
  obtain ⟨checked, last, above, place, reversed, walked, here, missing, straight, named, rfl⟩ :=
    makeDirectory_eq_ok made
  have absent : files.entry? (place ++ [last]) ≠ some .directory := by simp [missing]
  have new : FileSystem.entry? (files.insert (place ++ [last]) .directory) (place ++ [last]) =
      some .directory :=
    entry?_insert_self files (by simp) _
  have old : FileSystem.entry? (files.insert (place ++ [last]) .directory) place =
      some .directory := by
    rw [entry?_insert_of_ne files (by simp), here]
  obtain ⟨blanks, names, blank, filled⟩ := exists_blanks reversed
  obtain ⟨busy, forward⟩ : Path.isIdle last = false ∧ last ≠ ".." := by
    simp_all [Path.isIdle, Path.isTurn]
  refine ⟨place ++ [last], directory_eq_ok_iff.mpr ⟨locate_eq_ok_iff.mpr ⟨checked, ?_⟩, new⟩⟩
  rw [names]
  exact ((walk_eq_ok_iff.mp walked).insert absent).append
    (.down old busy forward named (leads_blanks new blank))

theorem Makes.directory (makes : Makes files (paths ++ [path]) after) :
    ∃ place, after.directory path = .ok place := by
  generalize all : paths ++ [path] = steps at makes
  induction makes generalizing paths with
  | done => simp at all
  | made new rest ih =>
    cases paths with
    | nil =>
      obtain ⟨rfl, rfl⟩ := List.cons.inj all
      cases rest
      exact directory_of_makeDirectory new
    | cons _ paths => exact ih (List.cons.inj all).2
  | there _ opened rest ih =>
    cases paths with
    | nil =>
      obtain ⟨rfl, rfl⟩ := List.cons.inj all
      cases rest
      exact ⟨_, opened⟩
    | cons _ paths => exact ih (List.cons.inj all).2

theorem Makes.gainsDirectories (makes : Makes files paths after) :
    GainsDirectories files after := by
  induction makes with
  | done => exact fun _ => .inl rfl
  | made new _ ih => exact (gainsDirectories_of_makeDirectory new).trans ih
  | there _ _ _ ih => exact ih

/-- A directory that has been provided is there. -/
theorem Provides.directory (provides : Provides files path after) :
    ∃ place, after.directory path = .ok place := by
  cases provides with
  | there opened => exact ⟨_, opened⟩
  | made _ makes => exact makes.directory

/-- Nothing but directories is made on the way to a directory. -/
theorem Provides.gainsDirectories (provides : Provides files path after) :
    GainsDirectories files after := by
  cases provides with
  | there => exact fun _ => .inl rfl
  | made _ makes => exact makes.gainsDirectories

end FileSystem

/-! ## The generated files -/

namespace FileSystem

variable {files : FileSystem} {directory name : String} {names : List String} {base place : Place}

/-- The text of the file that a name leads to below a directory. -/
def textBelow? (files : FileSystem) (directory name : String) : Option String :=
  match (files.filePlace directory name).toOption.bind files.entry? with
  | some (.file text) => some text
  | _ => none

/-- Whether names can be opened for writing below a directory, each as a file of its own. -/
structure OpensApart (files : FileSystem) (directory : String) (names : List String) : Prop where
  opened : ∀ name ∈ names, ∃ place, files.filePlace directory name = .ok place
  apart : (names.map (files.filePlace directory)).Nodup

theorem textBelow?_eq (opened : files.filePlace directory name = .ok place) :
    files.textBelow? directory name =
      match files.entry? place with
      | some (.file text) => some text
      | _ => none := by
  rw [textBelow?, opened]
  rfl

/-- Names that lead to one place have one text. -/
theorem textBelow?_of_filePlace {other text : String}
    (same : ∀ place, files.filePlace directory name = .ok place →
      files.filePlace directory other = .ok place)
    (here : files.textBelow? directory name = some text) :
    files.textBelow? directory other = some text := by
  cases opened : files.filePlace directory name with
  | error _ =>
    rw [textBelow?, opened] at here
    cases here
  | ok place => rwa [textBelow?_eq (same place opened), ← textBelow?_eq opened]

end FileSystem

namespace Session

variable {start : Session} {directory : String} {names : List String}

/-- What holds while files with some names are written below a directory: nothing is printed, the
directory and the names lead where they led, and no place changes that no name leads to. -/
structure Fills (start : Session) (directory : String) (names : List String) (session : Session) :
    Prop where
  printed : session.printed = start.printed
  there : session.files.directory directory = start.files.directory directory
  opened : ∀ name ∈ names,
    session.files.filePlace directory name = start.files.filePlace directory name
  others : ∀ place, (∀ name ∈ names, start.files.filePlace directory name ≠ .ok place) →
    session.files.entry? place = start.files.entry? place

/-- Names that lead to different files keep their texts apart, wherever below a directory these
are. -/
theorem keepsApart_of_opensApart (opens : start.files.OpensApart directory names) :
    KeepsApart directory names (Fills start directory names)
      fun session name => session.files.textBelow? directory name where
  write := by
    rintro ⟨files, printed⟩ here name hname text
    obtain ⟨place, hplace⟩ := opens.opened name hname
    have opened : files.filePlace directory name = .ok place :=
      (here.opened name hname).trans hplace
    obtain ⟨base, hbase, -, -, -, free⟩ := FileSystem.filePlace_eq_ok_iff.mp opened
    have inside : place ≠ [] := by
      rintro rfl
      exact free rfl
    have keeps {other : String} {target : Place}
        (there : files.filePlace directory other = .ok target) :
        (files.insert place (.file text)).filePlace directory other = .ok target :=
      FileSystem.filePlace_insert free there
    have still :
        (files.insert place (.file text)).directory directory = files.directory directory :=
      (FileSystem.directory_insert free hbase).trans hbase.symm
    refine ⟨⟨files.insert place (.file text), printed⟩, ?_,
      ⟨here.printed, still.trans here.there, ?_, ?_⟩, ?_, ?_⟩
    · change Session.update ⟨files, printed⟩ (files.write directory name text) = _
      rw [FileSystem.write_eq_map, opened]
      rfl
    · intro other hother
      obtain ⟨target, htarget⟩ := opens.opened other hother
      exact (keeps ((here.opened other hother).trans htarget)).trans htarget.symm
    · intro target unused
      have apart : target ≠ place := by
        rintro rfl
        exact unused name hname hplace
      rw [FileSystem.entry?_insert_of_ne files apart]
      exact here.others target unused
    · rw [FileSystem.textBelow?_eq (keeps opened), FileSystem.entry?_insert_self files inside]
    · intro other hother different
      obtain ⟨target, htarget⟩ := opens.opened other hother
      have there : files.filePlace directory other = .ok target :=
        (here.opened other hother).trans htarget
      have apart : target ≠ place := by
        rintro rfl
        exact different
          (List.inj_on_of_nodup_map opens.apart hother hname (htarget.trans hplace.symm))
      rw [FileSystem.textBelow?_eq (keeps there), FileSystem.textBelow?_eq there,
        FileSystem.entry?_insert_of_ne files apart]

/-- Every file gets its text, nothing is printed, and other places stay as they are, among them the
directory. -/
theorem perform_writeFiles {generated : List GeneratedFile}
    (opens : start.files.OpensApart directory (generated.map (·.name))) :
    ∃ after, start.perform (writeFiles directory generated) =
        (.ok (generated.map fun file => Path.join directory file.name),
          { start with files := after }) ∧
      after.directory directory = start.files.directory directory ∧
      (∀ file ∈ generated, after.textBelow? directory file.name = some file.text) ∧
      ∀ place,
        (∀ file ∈ generated, start.files.filePlace directory file.name ≠ .ok place) →
        after.entry? place = start.files.entry? place := by
  obtain ⟨⟨after, printed⟩, written, texts, -, filled⟩ :=
    writeFiles_run (keepsApart_of_opensApart opens)
      (fun file hfile => List.mem_map_of_mem hfile) opens.apart.of_map
      ⟨rfl, rfl, fun _ _ => rfl, fun _ _ => rfl⟩
  obtain rfl : printed = start.printed := filled.printed
  refine ⟨after, written, filled.there, texts, fun place unused => filled.others place ?_⟩
  exact List.forall_mem_map.mpr unused

end Session

/-! ## The whole run -/

/-- How a run ends that got some report and has written files at some paths. -/
def Settings.outcome (settings : Settings) (report : Report) (written : List String) :
    Except Failure RunSummary :=
  if settings.failOnError ∧ 0 < report.count .error then
    .error (.errorDiagnostics (report.count .error))
  else
    .ok { written, errors := report.count .error, warnings := report.count .warning }

namespace Session

variable (session : Session) (settings : Settings)

/-- Deciding how a run ends changes nothing. -/
theorem perform_conclusion (report : Report) (written : List String) :
    session.perform (do
      if settings.failOnError && report.count .error != 0 then
        throw (.errorDiagnostics (report.count .error))
      return { written, errors := report.count .error, warnings := report.count .warning }) =
    (settings.outcome report written, session) := by
  unfold Settings.outcome
  by_cases fails : settings.failOnError ∧ 0 < report.count .error
  · have test : (settings.failOnError && report.count .error != 0) = true := by
      simpa [Nat.pos_iff_ne_zero] using fails
    rw [if_pos fails, if_pos test]
    rfl
  · have test : ¬ (settings.failOnError && report.count .error != 0) = true := by
      simpa [Nat.pos_iff_ne_zero] using fails
    rw [if_neg fails, if_neg test]
    rfl

theorem perform_run_of_error {failure : Failure}
    (unread : session.files.snapshot settings.input = .error failure) :
    session.perform (run settings) = (.error failure, session) := by
  have read := session.perform_readSnapshot settings.input
  rw [unread] at read
  exact perform_bind_error _ read

theorem perform_run_snd (flag : Bool) :
    (session.perform (run { settings with failOnError := flag })).2 =
      (session.perform (run settings)).2 := by
  unfold run
  refine perform_bind_snd_congr fun model session => ?_
  refine perform_bind_snd_congr fun _ session => ?_
  refine perform_bind_snd_congr fun _ session => ?_
  refine perform_bind_snd_congr fun written session => ?_
  have changed :=
    perform_conclusion session { settings with failOnError := flag } model.generate written
  have unchanged := perform_conclusion session settings model.generate written
  exact (congrArg Prod.snd changed).trans (congrArg Prod.snd unchanged).symm

theorem perform_run_of_ok {model : Compilation} {made : FileSystem}
    (read : session.files.snapshot settings.input = .ok model)
    (provided : session.files.Provides settings.outDirectory made)
    (opens : made.OpensApart settings.outDirectory (model.generate.files.map (·.name))) :
    ∃ after : FileSystem,
      session.perform (run settings) =
          (settings.outcome model.generate
            (model.generate.files.map fun file => Path.join settings.outDirectory file.name),
          { files := after
            printed := session.printed ++ settings.format.print model.generate.diagnostics }) ∧
        after.directory settings.outDirectory = made.directory settings.outDirectory ∧
        (∀ file ∈ model.generate.files,
          after.textBelow? settings.outDirectory file.name = some file.text) ∧
        ∀ place,
          (∀ file ∈ model.generate.files,
            made.filePlace settings.outDirectory file.name ≠ .ok place) →
          after.entry? place = made.entry? place := by
  let printed := session.printed ++ settings.format.print model.generate.diagnostics
  obtain ⟨after, written, there, texts, others⟩ := @perform_writeFiles ⟨made, printed⟩ _ _ opens
  have reading := session.perform_readSnapshot settings.input
  rw [read] at reading
  have making : perform ⟨session.files, printed⟩
      (orFail settings.outDirectory (ensureDirectory settings.outDirectory)) =
        (.ok (), ⟨made, printed⟩) := by
    rw [perform_orFail, FileSystem.run_ensureDirectory_iff.mpr provided]
    rfl
  refine ⟨after, ?_, there, texts, others⟩
  calc session.perform (run settings)
    _ = session.perform _ := perform_bind_ok _ reading
    _ = perform ⟨session.files, printed⟩ _ := perform_bind_ok _ (perform_printError _)
    _ = perform ⟨made, printed⟩ _ := perform_bind_ok _ making
    _ = perform ⟨after, printed⟩ _ := perform_bind_ok _ written
    _ = _ := perform_conclusion _ settings model.generate _

end Session

/-- **The effects of a run**: when the snapshot cannot be read, the run ends with that failure, and
nothing is printed or changed. When it can, the output directory is there or can be made, and the
generated names can be opened for writing as different files, then all diagnostics are printed, each
with a line break behind it, the directory is there in the end, and in it every generated file with its
text; the run ends with the count of errors if there are any and it was told so, and else with the
summary. No place has changed but those of the files and of directories that were missing. Where the
walks over the snapshot end, the files and diagnostics do not depend on how soon they would be cut off.
Whether errors make a run fail never shows in what it prints and writes. -/
theorem run_effects (settings : Settings) (session : Session) :
    (∀ failure, session.files.snapshot settings.input = .error failure →
      session.perform (run settings) = (.error failure, session)) ∧
    (∀ model made, session.files.snapshot settings.input = .ok model →
      session.files.Provides settings.outDirectory made →
      made.OpensApart settings.outDirectory (model.generate.files.map (·.name)) →
      ∃ (after : FileSystem) (printed : String),
        session.perform (run settings) =
            (settings.outcome model.generate
              (model.generate.files.map fun file => Path.join settings.outDirectory file.name),
            { files := after, printed := session.printed ++ printed }) ∧
          printed = String.join (model.generate.diagnostics.map fun diagnostic =>
            settings.format.line diagnostic ++ "\n") ∧
          (Text.lines printed = model.generate.diagnostics.map settings.format.line ++ [""] ↔
            ∀ diagnostic ∈ model.generate.diagnostics,
              Text.OnOneLine (settings.format.line diagnostic)) ∧
          (∃ place, after.directory settings.outDirectory = .ok place) ∧
          (∀ file ∈ model.generate.files,
            after.textBelow? settings.outDirectory file.name = some file.text) ∧
          ∀ place,
            (∀ file ∈ model.generate.files,
              made.filePlace settings.outDirectory file.name ≠ .ok place) →
            after.entry? place = session.files.entry? place ∨
              session.files.entry? place = none ∧ after.entry? place = some .directory) ∧
    (∀ model, session.files.snapshot settings.input = .ok model → model.WalksEnd →
      ∀ limit ≥ model.walkLimit, (model.withLimit limit).generate = model.generate) ∧
    ∀ flag, (session.perform (run { settings with failOnError := flag })).2 =
      (session.perform (run settings)).2 := by
  refine ⟨fun failure => session.perform_run_of_error settings,
    fun model made read provided opens => ?_,
    fun model _ ends _ => Compilation.generate_withLimit ends, session.perform_run_snd settings⟩
  obtain ⟨after, performed, there, texts, others⟩ :=
    session.perform_run_of_ok settings read provided opens
  obtain ⟨place, opened⟩ := provided.directory
  refine ⟨after, _, performed, rfl, DiagnosticFormat.printsLines_iff_forall, ⟨place, there.trans opened⟩,
    texts, fun place unused => ?_⟩
  rw [others place unused]
  exact provided.gainsDirectories place

/-- A class with its builder, and a builder of a class that is missing. -/
def halfFinished : Compilation where
  types :=
    [{ name := "Order", constructors := [⟨.publicAccess, [], none⟩] },
      { name := "OrderBuilder"
        attributes := [⟨"MakeBuilder", [some (.type (.named "" "Order" .classType))], none⟩] },
      { name := "LostBuilder"
        attributes := [⟨"MakeBuilder", [some (.type (.named "" "Lost" .classType))], none⟩] }]

/-- A working directory with a snapshot and an older file of a builder. -/
def desk (model : Compilation) : Session where
  files := .ofFiles ["work"] [("model.json", model.toText), ("out/OrderBuilder.g.cs", "old")]

theorem directory_desk (model : Compilation) :
    (desk model).files.directory "." = .ok ["work"] ∧
      (desk model).files.directory "out" = .ok ["work", "out"] := by
  have path {name : String} (short : name = "." ∨ name = "out") :
      FileSystem.checkPath name = .ok () := by
    rcases short with rfl | rfl <;>
      exact FileSystem.checkPath_eq_ok (by decide) (by decide) (by decide)
  constructor
  · exact FileSystem.directory_eq_ok_iff.mpr
      ⟨FileSystem.locate_eq_ok_iff.mpr ⟨path (.inl rfl), FileSystem.walk_eq_ok_iff.mp rfl⟩, rfl⟩
  · exact FileSystem.directory_eq_ok_iff.mpr
      ⟨FileSystem.locate_eq_ok_iff.mpr ⟨path (.inr rfl), FileSystem.walk_eq_ok_iff.mp rfl⟩, rfl⟩

theorem snapshot_desk (types : List NamedType)
    (fits : (Compilation.toJson { types }).nesting ≤ Snapshot.nestingLimit) :
    (desk { types }).files.snapshot "model.json" = .ok { types } := by
  have split : Path.split? "model.json" = some (".", "model.json") := by decide
  exact FileSystem.snapshot_toText fits split
    (FileSystem.read_eq_ok_iff.mpr ⟨_, (directory_desk { types }).1, rfl, rfl⟩)

theorem snapshot_desk_absent (model : Compilation) :
    (desk model).files.snapshot "absent.json" = .error (.access "absent.json" .notFound) := by
  have split : Path.split? "absent.json" = some (".", "absent.json") := by decide
  have unread : (desk model).files.read "." "absent.json" = .error .notFound := by
    rw [FileSystem.read, (directory_desk model).1]
    rfl
  have input : (desk model).files.inputText "absent.json" =
      .error (.access "absent.json" .notFound) := by
    rw [FileSystem.inputText, split]
    change (discard (((desk model).files.directory ".").mapError _) >>= fun _ =>
      ((desk model).files.read "." "absent.json").mapError _) = _
    rw [(directory_desk model).1, unread]
    rfl
  rw [FileSystem.snapshot, input]
  rfl

theorem run_effects_halfFinished :
    let settings : Settings := ⟨"model.json", "out", true, false⟩
    let session := desk halfFinished
    session.perform (run { settings with input := "absent.json" }) =
        (.error (.access "absent.json" .notFound), session) ∧
      (∃ (after : FileSystem) (printed : String),
        session.perform (run settings) = (.error (.errorDiagnostics 1),
          { files := after, printed := "" ++ printed }) ∧
        Text.lines printed = halfFinished.generate.diagnostics.map Diagnostic.display ++ [""] ∧
        ∀ file ∈ halfFinished.generate.files,
          after.textBelow? "out" file.name = some file.text) ∧
      (session.perform (run { settings with failOnError := false })).2 =
        (session.perform (run settings)).2 := by
  intro settings session
  obtain ⟨-, done, -, still⟩ := run_effects settings session
  have absent := (run_effects { settings with input := "absent.json" } session).1
  have names : halfFinished.generate.files.map (·.name) = ["OrderBuilder.g.cs"] := by
    decide +kernel
  have plain : FileSystem.IsFileName "OrderBuilder.g.cs" := ⟨by decide, by decide, by decide⟩
  have read := snapshot_desk halfFinished.types (by decide +kernel)
  have opens : session.files.OpensApart "out" (halfFinished.generate.files.map (·.name)) := by
    rw [names]
    refine ⟨List.forall_mem_singleton.mpr ⟨["work", "out", "OrderBuilder.g.cs"], ?_⟩, by simp⟩
    exact FileSystem.filePlace_eq plain (directory_desk halfFinished).2 (by decide +kernel)
  obtain ⟨after, printed, performed, -, lines, -, texts, -⟩ :=
    done halfFinished session.files read (.there (directory_desk halfFinished).2) opens
  have ending : settings.outcome halfFinished.generate (halfFinished.generate.files.map fun file =>
      Path.join "out" file.name) = .error (.errorDiagnostics 1) := by decide +kernel
  rw [ending] at performed
  have unbroken : ∀ diagnostic ∈ halfFinished.generate.diagnostics,
      Text.OnOneLine diagnostic.display := by
    decide +kernel
  exact ⟨absent _ (snapshot_desk_absent halfFinished),
    ⟨after, printed, performed, lines.mpr unbroken, texts⟩, still false⟩

/-- Two builders with names that stand for one path. -/
def crossing : Compilation where
  types :=
    [{ name := "Order", constructors := [⟨.publicAccess, [], none⟩] },
      { name := "OrderBuilder"
        attributes := [⟨"MakeBuilder", [some (.type (.named "" "Order" .classType))], none⟩] },
      { name := "./OrderBuilder"
        attributes := [⟨"MakeBuilder", [some (.type (.named "" "Order" .classType))], none⟩] }]

/-- Different names are not enough: they may lead to one file, which then has the text of one of
them only. -/
theorem not_all_written_crossing :
    let settings : Settings := ⟨"model.json", "out", false, false⟩
    let session := desk crossing
    session.files.snapshot settings.input = .ok crossing ∧
      session.files.Provides settings.outDirectory session.files ∧
      (∀ file ∈ crossing.generate.files,
        ∃ place, session.files.filePlace settings.outDirectory file.name = .ok place) ∧
      (crossing.generate.files.map (·.name)).Nodup ∧
      ¬ ∀ file ∈ crossing.generate.files,
        (session.perform (run settings)).2.files.textBelow? settings.outDirectory file.name =
          some file.text := by
  intro settings session
  have plain : FileSystem.IsFileName "OrderBuilder.g.cs" := ⟨by decide, by decide, by decide⟩
  have path : FileSystem.checkPath "./OrderBuilder.g.cs" = .ok () :=
    FileSystem.checkPath_eq_ok (by decide) (by decide) (by decide)
  -- The dot in front of the second name leads nowhere.
  have same {files : FileSystem} {place : Place}
      (opened : files.filePlace "out" "OrderBuilder.g.cs" = .ok place) :
      files.filePlace "out" "./OrderBuilder.g.cs" = .ok place :=
    FileSystem.filePlace_of_idle (rfl : Path.isIdle "." = true) (by decide) path (by decide) opened
  have names : crossing.generate.files.map (·.name) =
      ["OrderBuilder.g.cs", "./OrderBuilder.g.cs"] := by decide +kernel
  have opened : session.files.filePlace "out" "OrderBuilder.g.cs" =
      .ok ["work", "out", "OrderBuilder.g.cs"] :=
    FileSystem.filePlace_eq plain (directory_desk crossing).2 (by decide +kernel)
  have read := snapshot_desk crossing.types (by decide +kernel)
  refine ⟨read, .there (directory_desk crossing).2, ?_, by rw [names]; decide, fun texts => ?_⟩
  · intro file hfile
    have hname : file.name ∈ ["OrderBuilder.g.cs", "./OrderBuilder.g.cs"] := by
      rw [← names]
      exact List.mem_map_of_mem hfile
    simp only [List.mem_cons, List.not_mem_nil, or_false] at hname
    rcases hname with name | name <;> rw [name]
    · exact ⟨_, opened⟩
    · exact ⟨_, same opened⟩
  · obtain ⟨first, hfirst, second, hsecond, name, name', different⟩ :
        ∃ first ∈ crossing.generate.files, ∃ second ∈ crossing.generate.files,
          first.name = "OrderBuilder.g.cs" ∧ second.name = "./OrderBuilder.g.cs" ∧
            first.text ≠ second.text := by decide +kernel
    have text := texts first hfirst
    have text' := texts second hsecond
    rw [name] at text
    rw [name', FileSystem.textBelow?_of_filePlace (fun _ => same) text] at text'
    exact different (Option.some.inj text')

end FluentGen
