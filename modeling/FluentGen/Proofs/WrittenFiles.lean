import FluentGen.CommandLine.Run
import FluentGen.Proofs.FallibleSteps
import FluentGen.Proofs.OutputNames
import Mathlib.Data.List.Nodup
/-!
# The files that are written

Files with different names do not get in each other's way: where a directory keeps texts under their
exact names, each file ends up there with its own text.

## Main definitions
* `KeepsApart`: a directory of a machine keeps the texts of files under their names.
* `FileSystem.Leads`: the way from one place to another.
* `FileSystem.filePlace`: the place of the file that a name leads to below a directory.
* `FileSystem.IsFileName`: the names of files directly inside a directory.

## Main statements
* `writeFiles_run`: what there is after writing files with different names.
* `Session.keepsApart`: the directories of a file system keep texts apart.
* `FileNames.claimAll_apart`: names are handed out once, and files are written under them.
-/
namespace FluentGen

/-! ## Directories that keep files apart -/

/-- Whether a directory takes the text of every file with one of some names, and changes nothing
under the other names. `ready` says in which states it does, and `text?` what is there. -/
structure KeepsApart {σ : Type} [Machine (StateM σ)] (directory : String) (names : List String)
    (ready : σ → Prop) (text? : σ → String → Option String) : Prop where
  write : ∀ {state : σ}, ready state → ∀ name ∈ names, ∀ text : String, ∃ state' : σ,
    (Machine.write directory name text : StateM σ (Except AccessError Unit)).run state =
        pure (.ok (), state') ∧
      ready state' ∧ text? state' name = some text ∧
      ∀ other ∈ names, other ≠ name → text? state' other = text? state other

section Writing

variable {σ : Type} [Machine (StateM σ)] {directory : String} {names : List String}
  {ready : σ → Prop} {text? : σ → String → Option String}

theorem writeFiles_run (keeps : KeepsApart directory names ready text?) {files : List GeneratedFile}
    (named : ∀ file ∈ files, file.name ∈ names) (apart : (files.map (·.name)).Nodup) {state : σ}
    (here : ready state) :
    ∃ state', (writeFiles directory files : ExceptT Failure (StateM σ) (List String)).run.run state =
        pure (.ok (files.map fun file => Path.join directory file.name), state') ∧
      (∀ file ∈ files, text? state' file.name = some file.text) ∧
      (∀ other ∈ names, other ∉ files.map (·.name) → text? state' other = text? state other) ∧
      ready state' := by
  induction files generalizing state with
  | nil => exact ⟨state, rfl, by simp, fun _ _ _ => rfl, here⟩
  | cons file files ih =>
    obtain ⟨known, others⟩ := List.forall_mem_cons.mp named
    obtain ⟨new, apart⟩ := List.nodup_cons.mp apart
    obtain ⟨between, written, here, text, same⟩ := keeps.write here file.name known file.text
    obtain ⟨last, rest, texts, unchanged, there⟩ := ih others apart here
    refine ⟨last, ?_, List.forall_mem_cons.mpr ⟨?_, texts⟩, fun other hother absent => ?_, there⟩
    · simp [writeFiles, orFail, ExceptT.run_bind, ExceptT.run_mk, written, rest, Except.mapError,
        Except.map]
    · -- No later file has the name of this one.
      rw [unchanged file.name known new, text]
    · obtain ⟨first, later⟩ := not_or.mp (List.mem_cons.not.mp absent)
      rw [unchanged other hother later, same other hother first]

end Writing

/-! ## File systems -/

namespace FileSystem

variable {files : FileSystem} {base below place target : Place}

/-- Whether a name is that of a file directly inside a directory. -/
structure IsFileName (name : String) : Prop where
  size : name.utf8ByteSize ≤ 255
  characters : '/' ∉ name.toList ∧ '\x00' ∉ name.toList
  dots : Path.isIdle name = false ∧ name ≠ ".."

theorem IsFileName.checkName {name : String} (h : IsFileName name) :
    FileSystem.checkName name = .ok () :=
  if_pos h.size

theorem checkPath_eq_ok {path : String} (nonempty : path ≠ "") (printable : '\x00' ∉ path.toList)
    (size : path.utf8ByteSize < 4096) : checkPath path = .ok () := by
  unfold checkPath
  rw [if_neg (by simpa using nonempty), if_neg (by simpa using printable), if_pos size]

theorem IsFileName.checkPath {name : String} (h : IsFileName name) :
    FileSystem.checkPath name = .ok () := by
  have nonempty : name ≠ "" := by
    rintro rfl
    exact absurd h.dots.1 (by decide)
  have size := h.size
  exact checkPath_eq_ok nonempty h.characters.2 (by omega)

theorem lookup_filter_ne {entries : List (Place × Entry)} (apart : target ≠ place) :
    (entries.filter (·.1 ≠ place)).lookup target = entries.lookup target := by
  induction entries with
  | nil => rfl
  | cons entry entries ih =>
    obtain ⟨here, entry⟩ := entry
    by_cases removed : here = place
    · subst removed
      simpa [List.lookup_cons, beq_eq_false_iff_ne.mpr apart] using ih
    · simp only [List.filter_cons, removed, ne_eq, not_false_eq_true, decide_true, if_true,
        List.lookup_cons, ih]

theorem entry?_insert_self (files : FileSystem) (inside : place ≠ []) (entry : Entry) :
    FileSystem.entry? (files.insert place entry) place = some entry := by
  rw [FileSystem.entry?, if_neg inside, insert, List.lookup_cons_self]

theorem entry?_insert_of_ne (files : FileSystem) (apart : target ≠ place) (entry : Entry) :
    FileSystem.entry? (files.insert place entry) target = files.entry? target := by
  unfold entry? insert
  simp only [List.lookup_cons, beq_eq_false_iff_ne.mpr apart, lookup_filter_ne apart]

/-- Whether names lead from one place to another, always from a directory to the next. -/
inductive Leads (files : FileSystem) (base : Place) (confined : Bool) :
    Place → List String → Place → Prop where
  | done {below : Place} : Leads files base confined below [] (base ++ below)
  | stay {below target : Place} {name : String} {names : List String}
      (here : files.entry? (base ++ below) = some .directory) (idle : Path.isIdle name = true)
      (rest : Leads files base confined below names target) :
      Leads files base confined below (name :: names) target
  | down {below target : Place} {name : String} {names : List String}
      (here : files.entry? (base ++ below) = some .directory) (busy : Path.isIdle name = false)
      (forward : name ≠ "..") (fits : checkName name = .ok ())
      (rest : Leads files base confined (below ++ [name]) names target) :
      Leads files base confined below (name :: names) target
  | up {below target : Place} {names : List String}
      (here : files.entry? (base ++ below) = some .directory)
      (inside : (confined && below.isEmpty) = false)
      (rest : Leads files base confined below.dropLast names target) :
      Leads files base confined below (".." :: names) target

theorem walk_eq_ok_iff {confined : Bool} {names : List String} :
    files.walk base confined below names = .ok target ↔
      Leads files base confined below names target := by
  constructor
  · intro walked
    induction names generalizing below with
    | nil =>
      cases walked
      exact .done
    | cons name names ih =>
      unfold walk at walked
      split at walked
      · cases walked
      · cases walked
      · next here =>
        split at walked
        · next idle => exact .stay here idle (ih walked)
        · next busy =>
          split at walked
          · next forward =>
            obtain ⟨fits, walked⟩ := then_eq_ok_iff.mp walked
            exact .down here (eq_false_of_ne_true busy) forward fits (ih walked)
          · next back =>
            obtain rfl := not_not.mp back
            split at walked
            · cases walked
            · next inside => exact .up here (eq_false_of_ne_true inside) (ih walked)
  · intro leads
    induction leads with
    | done => rfl
    | stay here idle _ ih => simp [walk, here, idle, ih]
    | down here busy forward fits _ ih =>
      simp [walk, here, busy, forward, fits, ih, bind, Except.bind]
    | up here inside _ ih =>
      simp only [walk, here, inside, ih]
      rfl

/-- What is put in a place where no directory was is in nobody's way. -/
theorem Leads.insert {confined : Bool} {names : List String} {entry : Entry}
    (absent : files.entry? place ≠ some .directory)
    (leads : Leads files base confined below names target) :
    Leads (files.insert place entry) base confined below names target := by
  have keeps {other : Place} (here : files.entry? other = some .directory) :
      FileSystem.entry? (files.insert place entry) other = some .directory := by
    have apart : other ≠ place := by
      rintro rfl
      exact absent here
    rwa [entry?_insert_of_ne files apart]
  induction leads with
  | done => exact .done
  | stay here idle _ ih => exact .stay (keeps here) idle ih
  | down here busy forward fits _ ih => exact .down (keeps here) busy forward fits ih
  | up here inside _ ih => exact .up (keeps here) inside ih

theorem locate_eq_ok_iff {path : String} :
    files.locate path = .ok place ↔
      checkPath path = .ok () ∧
        Leads files [] false (files.start path) (Path.names path) place := by
  rw [← walk_eq_ok_iff, locate, then_eq_ok_iff]

theorem directory_eq_ok_iff {path : String} :
    files.directory path = .ok place ↔
      files.locate path = .ok place ∧ files.entry? place = some .directory := by
  unfold directory
  rw [bind_eq_ok_iff]
  constructor
  · rintro ⟨found, located, there⟩
    split at there
    · next entry =>
      cases there
      exact ⟨located, entry⟩
    · cases there
    · cases there
  · rintro ⟨located, entry⟩
    refine ⟨place, located, ?_⟩
    rw [entry]
    rfl

theorem directory_insert {path : String} {entry : Entry}
    (absent : files.entry? place ≠ some .directory)
    (there : files.directory path = .ok target) :
    (files.insert place entry).directory path = .ok target := by
  obtain ⟨located, found⟩ := directory_eq_ok_iff.mp there
  have apart : target ≠ place := by
    rintro rfl
    exact absent found
  obtain ⟨checked, leads⟩ := locate_eq_ok_iff.mp located
  exact directory_eq_ok_iff.mpr
    ⟨locate_eq_ok_iff.mpr ⟨checked, leads.insert absent⟩, by rwa [entry?_insert_of_ne files apart]⟩

variable {directory name : String}

/-- The place of the file that a name leads to below a directory, if it can be opened for
writing. -/
def filePlace (files : FileSystem) (directory name : String) : Except AccessError Place := do
  let base ← files.directory directory
  checkPath name
  if Path.isAbsolute name then throw .permissionDenied
  let place ← files.walk base true [] (Path.names name)
  match files.entry? place with
  | some .directory => .error .isADirectory
  | _ => return place

/-- Writing puts the text at the place of the file. -/
theorem write_eq_map (files : FileSystem) (directory name text : String) :
    files.write directory name text =
      (files.filePlace directory name).map (files.insert · (.file text)) := by
  unfold write filePlace
  cases files.directory directory with
  | error _ => rfl
  | ok base =>
    cases checkPath name with
    | error _ => rfl
    | ok =>
      cases Path.isAbsolute name with
      | true => rfl
      | false =>
        simp only [bind, Except.bind, Bool.false_eq_true, if_false]
        cases files.walk base true [] (Path.names name) with
        | error _ => rfl
        | ok place =>
          simp only
          cases files.entry? place with
          | none => rfl
          | some entry => cases entry <;> rfl

theorem filePlace_eq_ok_iff :
    files.filePlace directory name = .ok place ↔
      ∃ base, files.directory directory = .ok base ∧ checkPath name = .ok () ∧
        Path.isAbsolute name = false ∧ Leads files base true [] (Path.names name) place ∧
        files.entry? place ≠ some .directory := by
  unfold filePlace
  rw [bind_eq_ok_iff]
  refine exists_congr fun base => and_congr_right fun _ => ?_
  rw [then_eq_ok_iff]
  refine and_congr_right fun _ => ?_
  cases Path.isAbsolute name with
  | true => simp [throw, throwThe, MonadExceptOf.throw, bind, Except.bind]
  | false =>
    simp only [← walk_eq_ok_iff, Bool.false_eq_true, if_false, true_and]
    rw [bind_eq_ok_iff]
    constructor
    · rintro ⟨target, walked, free⟩
      split at free
      · cases free
      · next free' =>
        cases free
        exact ⟨walked, free'⟩
    · rintro ⟨walked, free⟩
      refine ⟨place, walked, ?_⟩
      split
      · contradiction
      · rfl

/-- An idle name in front does not change where names lead to. -/
theorem filePlace_of_idle {other idle : String} (still : Path.isIdle idle = true)
    (names : Path.names other = idle :: Path.names name) (checked : checkPath other = .ok ())
    (relative : Path.isAbsolute other = false)
    (opened : files.filePlace directory name = .ok place) :
    files.filePlace directory other = .ok place := by
  obtain ⟨base, there, -, -, leads, free⟩ := filePlace_eq_ok_iff.mp opened
  have here : files.entry? (base ++ []) = some .directory := by
    simpa using (directory_eq_ok_iff.mp there).2
  refine filePlace_eq_ok_iff.mpr ⟨base, there, checked, relative, ?_, free⟩
  rw [names]
  exact .stay here still leads

/-- Files that are written do not change where names lead to. -/
theorem filePlace_insert {text : String} {target : Place}
    (absent : files.entry? target ≠ some .directory)
    (opened : files.filePlace directory name = .ok place) :
    (files.insert target (.file text)).filePlace directory name = .ok place := by
  obtain ⟨base, there, checked, relative, leads, free⟩ := filePlace_eq_ok_iff.mp opened
  refine filePlace_eq_ok_iff.mpr
    ⟨base, directory_insert absent there, checked, relative, leads.insert absent, ?_⟩
  have inside : target ≠ [] := by
    rintro rfl
    exact absent rfl
  by_cases same : place = target
  · simp [same, entry?_insert_self files inside]
  · rwa [entry?_insert_of_ne files same]

variable {path : String}

theorem read_eq_ok_iff {text : String} :
    files.read path name = .ok text ↔ ∃ place, files.directory path = .ok place ∧
      checkName name = .ok () ∧ files.entry? (place ++ [name]) = some (.file text) := by
  unfold read
  rw [bind_eq_ok_iff]
  refine exists_congr fun place => and_congr_right fun _ => ?_
  rw [then_eq_ok_iff]
  refine and_congr_right fun _ => ?_
  cases files.entry? (place ++ [name]) with
  | none => simp
  | some entry => cases entry <;> simp [pure, Except.pure]

/-- The text of a file directly inside a directory. -/
theorem read_eq (h : IsFileName name) (there : files.directory path = .ok place) :
    (files.read path name).toOption =
      match files.entry? (place ++ [name]) with
      | some (.file text) => some text
      | _ => none := by
  unfold read
  simp only [there, h.checkName, bind, Except.bind]
  cases files.entry? (place ++ [name]) with
  | none => rfl
  | some kind => cases kind <;> rfl

/-- The name of a file leads directly into a directory, unless a directory has it. -/
theorem filePlace_eq (h : IsFileName name) (there : files.directory path = .ok place)
    (absent : files.entry? (place ++ [name]) ≠ some .directory) :
    files.filePlace path name = .ok (place ++ [name]) := by
  have single : Path.names name = [name] := by
    simp [Path.names, List.splitOn_eq_singleton h.characters.1]
  have relative : Path.isAbsolute name = false := by
    rw [Path.isAbsolute, beq_eq_false_iff_ne]
    intro first
    exact h.characters.1 (List.mem_of_mem_head? first)
  have here : files.entry? (place ++ []) = some .directory := by
    simpa using (directory_eq_ok_iff.mp there).2
  refine filePlace_eq_ok_iff.mpr ⟨place, there, h.checkPath, relative, ?_, absent⟩
  rw [single]
  exact .down here h.dots.1 h.dots.2 h.checkName .done

/-- A file is put directly into a directory, unless a directory has its name. -/
theorem write_eq (h : IsFileName name) (there : files.directory path = .ok place)
    (absent : files.entry? (place ++ [name]) ≠ some .directory) (text : String) :
    files.write path name text = .ok (files.insert (place ++ [name]) (.file text)) := by
  rw [write_eq_map, filePlace_eq h there absent]
  rfl

end FileSystem

/-- Whether a directory exists in which no directory has one of some names. -/
def Session.IsReady (directory : String) (names : List String) (session : Session) : Prop :=
  ∃ place, session.files.directory directory = .ok place ∧
    ∀ name ∈ names, session.files.entry? (place ++ [name]) ≠ some .directory

/-- The text of the file with a name in a directory. -/
def Session.text? (directory : String) (session : Session) (name : String) : Option String :=
  (session.files.read directory name).toOption

/-- The directories of a file system keep apart the texts of files directly inside them. -/
theorem Session.keepsApart (directory : String) {names : List String}
    (plain : ∀ name ∈ names, FileSystem.IsFileName name) :
    KeepsApart directory names (Session.IsReady directory names) (Session.text? directory) where
  write := by
    rintro ⟨files, printed⟩ ⟨place, there, absent⟩ name hname text
    have written := FileSystem.write_eq (plain name hname) there (absent name hname) text
    have there' := @FileSystem.directory_insert _ _ _ directory (.file text) (absent name hname) there
    have inside : place ++ [name] ≠ [] := by simp
    refine ⟨⟨files.insert (place ++ [name]) (.file text), printed⟩, ?_, ⟨place, there', ?_⟩, ?_, ?_⟩
    · simp [Machine.write, Session.update, written, modifyGet, MonadStateOf.modifyGet,
        StateT.modifyGet, StateT.run]
    · intro other hother
      by_cases same : other = name
      · rw [same, FileSystem.entry?_insert_self files inside]
        simp
      · rw [FileSystem.entry?_insert_of_ne files (by simpa using same)]
        exact absent other hother
    · rw [Session.text?, FileSystem.read_eq (plain name hname) there',
        FileSystem.entry?_insert_self files inside]
    · intro other hother apart
      rw [Session.text?, Session.text?, FileSystem.read_eq (plain other hother) there',
        FileSystem.read_eq (plain other hother) there,
        FileSystem.entry?_insert_of_ne files (by simpa using apart)]

namespace FileNames

/-- Every request for a name comes to an end, no name is handed out twice, and no number exceeds the
count of requests. Builders without dots get their own name first and a number that counts the
repeated requests later. So the files of a run have different names, and a directory that keeps
apart what has different names holds each file with its own text in the end. -/
theorem claimAll_apart (builders : List String) (model : Compilation) :
    (∀ names builder, Claims names builder (names.claim builder).1 (names.claim builder).2) ∧
    ((claimAll {} builders).1.length = builders.length ∧ (claimAll {} builders).1.Nodup ∧
      (claimAll {} builders).2.counter ≤ builders.length) ∧
    ((∀ builder ∈ builders, '.' ∉ builder.toList) →
      ∀ before builder after, builders = before ++ builder :: after →
        (claimAll {} builders).1[before.length]? = some (plainName before.reverse builder)) ∧
    (model.generate.files.map (·.name)).Nodup ∧
    ∀ {σ : Type} [Machine (StateM σ)] {directory ready text?} {state : σ},
      KeepsApart directory (model.generate.files.map (·.name)) ready text? → ready state →
      ∃ paths state', (writeFiles directory model.generate.files :
            ExceptT Failure (StateM σ) (List String)).run.run state = pure (.ok paths, state') ∧
        ∀ file ∈ model.generate.files, text? state' file.name = some file.text := by
  refine ⟨claims_claim, ⟨length_claimAll _ _, nodup_claimAll _, counter_claimAll_le _⟩, ?_,
    model.nodup_names_generate, ?_⟩
  · rintro plain before builder after rfl
    exact getElem?_claimAll_of_plain before builder after plain
  · intro σ _ directory ready text? state keeps here
    obtain ⟨state', written, texts, -⟩ := writeFiles_run keeps
      (fun file hfile => List.mem_map_of_mem hfile) model.nodup_names_generate here
    exact ⟨_, state', written, texts⟩

/-- Two builders of one name. -/
def namesakes : Compilation where
  types :=
    [{ name := "Order", qualifier := "Shop" },
      { name := "OrderBuilder", qualifier := "Shop"
        attributes := [⟨"MakeBuilder", [some (.type (.named "Shop" "Order" .classType))], none⟩] },
      { name := "OrderBuilder", qualifier := "Sales"
        attributes := [⟨"MakeBuilder", [some (.type (.named "Shop" "Order" .classType))], none⟩] }]

/-- A directory with an older file. -/
def shelf : Session where
  files := .ofFiles ["work"] [("out/OrderBuilder.g.cs", "old")]

theorem claimAll_apart_namesakes :
    (claimAll {} ["A", "B", "A"]).1[2]? = some (plainName ["B", "A"] "A") ∧
    namesakes.generate.files.map (·.name) = ["OrderBuilder.g.cs", "OrderBuilder.1.g.cs"] ∧
    ∃ paths session, (writeFiles "out" namesakes.generate.files :
          ExceptT Failure (StateM Session) (List String)).run.run shelf = pure (.ok paths, session) ∧
      ∀ file ∈ namesakes.generate.files, session.text? "out" file.name = some file.text := by
  have names : namesakes.generate.files.map (·.name) =
      ["OrderBuilder.g.cs", "OrderBuilder.1.g.cs"] := by decide +kernel
  have plain : ∀ name ∈ namesakes.generate.files.map (·.name), FileSystem.IsFileName name := by
    rw [names]
    intro name hname
    simp only [List.mem_cons, List.not_mem_nil, or_false] at hname
    rcases hname with rfl | rfl <;> exact ⟨by decide, by decide, by decide⟩
  have ready : Session.IsReady "out" (namesakes.generate.files.map (·.name)) shelf := by
    rw [names]
    have path : FileSystem.checkPath "out" = .ok () :=
      FileSystem.IsFileName.checkPath ⟨by decide, by decide, by decide⟩
    have located : shelf.files.locate "out" = .ok ["work", "out"] := by
      rw [FileSystem.locate, path]
      rfl
    have there := FileSystem.directory_eq_ok_iff.mpr ⟨located, rfl⟩
    exact ⟨["work", "out"], there, by decide +kernel⟩
  obtain ⟨-, -, inOrder, -, written⟩ := claimAll_apart ["A", "B", "A"] namesakes
  refine ⟨?_, names, ?_⟩
  · exact inOrder (by decide) ["A", "B"] "A" [] rfl
  · exact written (Session.keepsApart "out" plain) ready

end FileNames

end FluentGen
