import RLanguageHost.CommandLine
import RLanguageHost.Proofs.Text.Sequences
import RLanguageHost.Server.Launch

/-!
# Commands with a NUL

A program is not started if a NUL stands in its name, its arguments or the values of its environment
(`spawn_eq_nulInData_iff`). Settings are refused if there is one in an argument, and nothing that is
added to them brings one in. But the path of the program and the locale are passed on without having
been looked at for it, so from accepted settings comes a command that cannot be started exactly if
one of these two has a NUL (`nul_in_path_or_lang_iff`).
-/

namespace RLanguageHost

/-! ## What a process is started with -/

namespace Machine

variable {s t : String}

theorem hasNul_iff : hasNul s = true ↔ '\x00' ∈ s.toList := by
  rw [hasNul, String.contains_char_eq, decide_eq_true_iff]

theorem hasNul_eq_false_iff : hasNul s = false ↔ '\x00' ∉ s.toList := by
  rw [← hasNul_iff, Bool.not_eq_true]

theorem hasNul_append : hasNul (s ++ t) = (hasNul s || hasNul t) := by
  rw [Bool.eq_iff_iff, Bool.or_eq_true]
  simp [hasNul_iff]

/-- The texts that a process is given. -/
def Plan.texts (plan : Plan) : List String :=
  plan.program :: plan.arguments ++ plan.environment.flatMap fun v => [v.1, v.2]

theorem locate_ne_nulInData (tree : FileTree) (directory path : FilePath) :
    tree.locate directory path ≠ .error .nulInData := by
  intro failed
  rcases Except.bind_eq_error_iff.mp failed with refused | ⟨_, -, lost⟩
  · unfold FileTree.acceptable at refused
    repeat' split at refused
    all_goals cases refused
  · obtain ⟨_, -, fault⟩ := Except.mapError_eq_error_iff.mp lost
    cases fault

theorem startDirectory_ne_nulInData (m : Machine) (here : FilePath) (directory : Option FilePath) :
    m.startDirectory here directory ≠ .error .nulInData := by
  unfold startDirectory
  split
  · next failure failed =>
    rintro ⟨⟩
    exact locate_ne_nulInData _ _ _ failed
  · exact fun failed => by cases failed
  · exact fun failed => by cases failed

/-- A start fails with this error only because of a NUL in what the process is given. -/
theorem spawn_eq_nulInData_iff {m : Machine} {around : Surroundings} {plan : Plan} :
    m.spawn around plan = .error .nulInData ↔
      (∃ text ∈ plan.texts, hasNul text) ∨ ∃ directory ∈ plan.directory, 0 ∈ directory.bytes := by
  have given : (plan.texts.any hasNul || plan.directory.any (·.bytes.contains 0)) = true ↔
      (∃ text ∈ plan.texts, hasNul text) ∨ ∃ directory ∈ plan.directory, 0 ∈ directory.bytes := by
    cases plan.directory <;> simp
  rw [← given, spawn]
  split
  · next nul => exact iff_of_true rfl nul
  · next clean =>
    -- What is left can fail to find the directory or the program, which are other errors.
    refine iff_of_false (fun failed => ?_) clean
    rcases Except.bind_eq_error_iff.mp failed with lost | ⟨_, -, failed⟩
    · exact startDirectory_ne_nulInData _ _ _ lost
    · rcases Except.bind_eq_error_iff.mp failed with unfound | ⟨_, -, failed⟩
      · obtain ⟨_, -, fault⟩ := Except.mapError_eq_error_iff.mp unfound
        cases fault
      · cases failed

end Machine

/-! ## Settings that are accepted -/

namespace Settings

variable {settings : Settings}

theorem firstBadArg_eq_none_iff {args : List String} :
    firstBadArg args = none ↔ ∀ arg ∈ args, Machine.hasNul arg = false := by
  rw [firstBadArg, List.findIdx?_eq_none_iff]
  simp [Machine.hasNul_eq_false_iff]

theorem validate_eq_ok_iff :
    settings.validate = .ok () ↔ (∀ path ∈ settings.path, Text.isBlankString path = false) ∧
      ∀ arg ∈ settings.args, Machine.hasNul arg = false := by
  have blank : settings.path.any Text.isBlankString = false ↔
      ∀ path ∈ settings.path, Text.isBlankString path = false := by
    cases settings.path <;> simp
  rw [← blank, ← firstBadArg_eq_none_iff, validate]
  cases settings.path.any Text.isBlankString with
  | true => simp
  | false => cases firstBadArg settings.args <;> simp

/-- Settings that were accepted, whichever way they came. -/
inductive Accepted (settings : Settings) : Prop where
  | validated (accepted : settings.validate = .ok ())
  | configured {value : Json} (accepted : ofConfiguration value = .ok settings)
  | read {text : String} (accepted : ofText text = .ok settings)
  | loaded {tree : FileTree} {directory path : FilePath}
      (accepted : ofFile tree directory path = .ok settings)
  | built {changes : List Change} (accepted : build changes = .ok settings)

theorem validate_of_ofConfiguration {value : Json}
    (accepted : ofConfiguration value = .ok settings) : settings.validate = .ok () := by
  rw [ofConfiguration] at accepted
  split at accepted
  · cases accepted
  · obtain ⟨_, valid, same⟩ := Except.bind_eq_ok_iff.mp accepted
    cases same
    exact valid

theorem validate_of_ofText {text : String} (accepted : ofText text = .ok settings) :
    settings.validate = .ok () := by
  rw [ofText] at accepted
  split at accepted
  · cases accepted
  · exact validate_of_ofConfiguration accepted

theorem Accepted.validate_eq (h : Accepted settings) : settings.validate = .ok () := by
  cases h with
  | validated accepted => exact accepted
  | configured accepted => exact validate_of_ofConfiguration accepted
  | read accepted => exact validate_of_ofText accepted
  | loaded accepted =>
      rw [ofFile] at accepted
      split at accepted
      · cases accepted
      · exact validate_of_ofText accepted
  | built accepted =>
      obtain ⟨_, valid, same⟩ := Except.bind_eq_ok_iff.mp accepted
      cases same
      exact valid

end Settings

namespace Server

open Machine (hasNul)

variable {settings : Settings} {tree : FileTree} {directory : FilePath} {home : Option FilePath}

/-! ## What a command is made of -/

theorem encode_nul : String.utf8EncodeChar '\x00' = [0] := by
  decide

theorem hasNul_text {p : FilePath} (whole : 0 ∉ p.bytes) : hasNul p.text = false := by
  rw [Machine.hasNul_eq_false_iff, FilePath.text, String.toList_ofList]
  exact fun member => whole (Utf8.mem_of_mem_lossy encode_nul member)

theorem mem_append {b : UInt8} {directory path : FilePath}
    (member : b ∈ (directory.append path).bytes) :
    b ∈ directory.bytes ∨ b = FilePath.slash ∨ b ∈ path.bytes := by
  unfold FilePath.append at member
  grind

theorem hasNul_programAt {home : FilePath} (whole : 0 ∉ home.bytes) :
    hasNul (programAt home).text = false := by
  refine hasNul_text fun member => ?_
  -- The directory, a slash, `bin`, a slash and `R`.
  rcases mem_append member with above | same | below
  · rcases mem_append above with inside | same | below
    · exact whole inside
    · exact absurd same (by decide)
    · exact absurd below (by decide)
  · exact absurd same (by decide)
  · exact absurd below (by decide)

theorem hasNul_installed (whole : ∀ path ∈ home, 0 ∉ path.bytes) :
    hasNul (program.installed tree directory home) = false := by
  have plain : hasNul defaultProgram = false := by
    rw [Machine.hasNul_eq_false_iff]
    decide
  unfold program.installed
  split
  · split
    · exact hasNul_programAt (whole _ rfl)
    · exact plain
  · exact plain

/-- The path of accepted settings is the program, and without a path it is one without a NUL. -/
theorem hasNul_program_iff (tree : FileTree) (directory : FilePath)
    (valid : settings.validate = .ok ()) (whole : ∀ path ∈ home, 0 ∉ path.bytes) :
    hasNul (program tree directory home settings) ↔ ∃ path ∈ settings.path, hasNul path := by
  have solid := (Settings.validate_eq_ok_iff.mp valid).1
  unfold program
  split
  · next path given =>
    rw [if_neg (by simp [solid path given]), given]
    simp
  · next missing =>
    rw [hasNul_installed whole, missing]
    simp

theorem hasNul_toString (n : Nat) : hasNul (toString n) = false := by
  have digits : (toString n).toList = Nat.toDigits 10 n := by simp
  rw [Machine.hasNul_eq_false_iff, digits]
  intro member
  exact absurd (Nat.isDigit_of_mem_toDigits (by decide) (by decide) member) (by decide)

theorem hasNul_expression (command : Command) (port : Option Nat) :
    hasNul (command.expression port) = false := by
  unfold Command.expression
  split
  all_goals
    simp only [Machine.hasNul_append, hasNul_toString, Bool.or_false, Bool.or_eq_false_iff,
      Machine.hasNul_eq_false_iff]
    decide

theorem hasNul_of_mem_arguments {command : Command} {port : Option Nat} {arg : String}
    (base : command.baseArgs = settings.args ++ fixedFlags) (valid : settings.validate = .ok ())
    (member : arg ∈ command.arguments port) : hasNul arg = false := by
  have plain : ∀ flag ∈ fixedFlags ++ ["-e"], hasNul flag = false := by
    simp only [Machine.hasNul_eq_false_iff]
    decide
  have split : arg ∈ settings.args ++ (fixedFlags ++ ["-e"]) ++ [command.expression port] := by
    simpa [Command.arguments, base] using member
  rcases List.mem_append.mp split with before | last
  · rcases List.mem_append.mp before with given | flag
    · exact (Settings.validate_eq_ok_iff.mp valid).2 arg given
    · exact plain arg flag
  · rw [List.mem_singleton.mp last]
    exact hasNul_expression _ port

/-- A locale that is not that of the settings has no NUL, and settings without one have none. -/
theorem hasNul_effectiveLang_iff (settings : Settings) (inherited : Option String) :
    (∃ lang ∈ settings.effectiveLang inherited, hasNul lang) ↔ hasNul settings.lang := by
  have plain : hasNul Settings.defaultLang = false ∧ hasNul "" = false := by
    simp only [Machine.hasNul_eq_false_iff]
    decide
  unfold Settings.effectiveLang
  split
  · simp
  · next same =>
    rw [Decidable.not_not.mp same]
    split <;> simp [plain]

/-- The texts that the process of a command is given are the program, the arguments, and the locale
with the name of its variable. -/
theorem hasNul_plan_iff {command : Command} {port : Option Nat}
    (plain : ∀ arg ∈ command.arguments port, hasNul arg = false) :
    (∃ text ∈ (Launch.plan command port).texts, hasNul text) ↔
      hasNul command.program ∨ ∃ lang ∈ command.lang, hasNul lang := by
  have name : hasNul langVariable = false := by
    rw [Machine.hasNul_eq_false_iff]
    decide
  have arguments : ¬ ∃ arg ∈ command.arguments port, hasNul arg := by
    rintro ⟨arg, member, nul⟩
    rw [plain arg member] at nul
    cases nul
  have environment : (∃ text ∈ command.environment.flatMap fun v => [v.1, v.2], hasNul text) ↔
      ∃ lang ∈ command.lang, hasNul lang := by
    unfold Command.environment
    cases command.lang <;> simp [name]
  simp only [Machine.Plan.texts, Launch.plan, List.mem_append, List.mem_cons, or_and_right,
    exists_or, exists_eq_left, environment, arguments, or_false]

/-- From accepted settings always comes a command. No argument of it has a NUL; the program has one
exactly if it is that of the settings and has one there, and so has the locale. In a directory
without a NUL, these two are what its start can fail for. -/
theorem nul_in_path_or_lang_iff {workingDirectory : FilePath} {inherited : Option String}
    (accepted : settings.Accepted) (whole : ∀ path ∈ home, 0 ∉ path.bytes) :
    ∃ command link, commandFor (program tree directory home) settings workingDirectory inherited =
        .ok (command, link) ∧
      (hasNul command.program ↔ ∃ path ∈ settings.path, hasNul path) ∧
      (∀ port, ∀ arg ∈ command.arguments port, hasNul arg = false) ∧
      ((∃ lang ∈ command.lang, hasNul lang) ↔ hasNul settings.lang) ∧
      ∀ (m : Machine) (around : Machine.Surroundings) (port : Option Nat),
        0 ∉ workingDirectory.bytes →
        (m.spawn around (Launch.plan command port) = .error .nulInData ↔
          (∃ path ∈ settings.path, hasNul path) ∨ hasNul settings.lang) := by
  have valid := accepted.validate_eq
  have made : commandFor (program tree directory home) settings workingDirectory inherited =
      .ok (.ofSettings (program tree directory home settings) settings workingDirectory inherited,
        .ofFlag settings.useStdio) := by
    rw [commandFor, valid]
    rfl
  have named := hasNul_program_iff tree directory valid whole
  have localized := hasNul_effectiveLang_iff settings inherited
  refine ⟨_, _, made, named, fun port arg => hasNul_of_mem_arguments rfl valid, localized,
    fun m around port inside => ?_⟩
  have located : ¬ ∃ path ∈ some workingDirectory, 0 ∈ path.bytes := by simpa using inside
  rw [Machine.spawn_eq_nulInData_iff,
    hasNul_plan_iff fun arg => hasNul_of_mem_arguments rfl valid, ← named, ← localized]
  exact or_iff_left located

/-- An argument and a locale of the settings, and an installation that is not there. -/
theorem nul_in_path_or_lang_iff_vanilla :
    let settings : Settings := { args := ["--vanilla"], lang := "C.UTF-8" }
    let home := FilePath.ofString "/opt/R"
    let workingDirectory := FilePath.ofString "/srv/proj"
    settings.Accepted ∧ (∀ path ∈ some home, 0 ∉ path.bytes) ∧ 0 ∉ workingDirectory.bytes ∧
      ∃ command link, commandFor (program {} workingDirectory (some home)) settings
          workingDirectory (some "C") = .ok (command, link) ∧
        ¬ hasNul command.program ∧ (∀ port, ∀ arg ∈ command.arguments port, hasNul arg = false) ∧
        (¬ ∃ lang ∈ command.lang, hasNul lang) ∧
        ∀ (m : Machine) (around : Machine.Surroundings) (port : Option Nat),
          m.spawn around (Launch.plan command port) ≠ .error .nulInData := by
  intro settings home workingDirectory
  have accepted : settings.Accepted := .validated rfl
  have whole : ∀ path ∈ some home, 0 ∉ path.bytes := by
    rintro path ⟨⟩
    decide +kernel
  have inside : 0 ∉ workingDirectory.bytes := by decide +kernel
  have plain : ¬ ((∃ path ∈ settings.path, hasNul path) ∨ hasNul settings.lang) := by
    simp only [Machine.hasNul_iff]
    decide
  obtain ⟨command, link, made, named, arguments, localized, spawned⟩ :=
    nul_in_path_or_lang_iff accepted whole
  exact ⟨accepted, whole, inside, command, link, made, fun nul => plain (.inl (named.mp nul)),
    arguments, fun nul => plain (.inr (localized.mp nul)),
    fun m around port failed => plain ((spawned m around port inside).mp failed)⟩

/-- A path and a locale with a NUL are accepted, and the server cannot be started. -/
theorem nul_passes_validation :
    let root := FilePath.ofString "/"
    let commandOf := fun settings => commandFor (program {} root none) settings root none
    (∃ command, (Settings.ofConfiguration (.obj [("path", .str "R\x00")])).bind commandOf =
        .ok (command, .loopback) ∧ hasNul command.program ∧
      ∀ (m : Machine) (around : Machine.Surroundings),
        m.spawn around (Launch.plan command none) = .error .nulInData) ∧
    ∃ command, (Settings.ofConfiguration (.obj [("lang", .str "C\x00")])).bind commandOf =
        .ok (command, .loopback) ∧ (∃ lang ∈ command.lang, hasNul lang) ∧
      ∀ (m : Machine) (around : Machine.Surroundings),
        m.spawn around (Launch.plan command none) = .error .nulInData := by
  intro root commandOf
  have path : hasNul "R\x00" := Machine.hasNul_iff.mpr (by decide)
  have lang : hasNul "C\x00" := Machine.hasNul_iff.mpr (by decide)
  refine ⟨⟨⟨"R\x00", fixedFlags, false, some Settings.defaultLang, root⟩, rfl, path, ?_⟩,
    ⟨defaultProgram, fixedFlags, false, some "C\x00", root⟩, rfl, ⟨_, rfl, lang⟩, ?_⟩
  · intro m around
    exact Machine.spawn_eq_nulInData_iff.mpr (.inl ⟨_, .head _, path⟩)
  · intro m around
    refine Machine.spawn_eq_nulInData_iff.mpr (.inl ⟨_, ?_, lang⟩)
    simp [Machine.Plan.texts, Launch.plan, Command.environment]

end Server

end RLanguageHost
