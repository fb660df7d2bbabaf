import EnvTags.Command.Report
import EnvTags.Proofs.Analysis.HiddenFile
import EnvTags.Proofs.Analysis.ModuleCache
import EnvTags.Proofs.Config.Search

/-!
# The creation of a configuration file

A configuration file is created with the default settings, which hold without a
file too. So nothing but the source of the configuration changes: the analysis of
the project is the same before and after. The file is never written again.
-/

namespace EnvTags

namespace Config

theorem isHidden_fileName : Project.Exclusions.isHidden fileName = true := by
  decide

theorem isSourceName_fileName : Project.isSourceName fileName = false := by
  decide +kernel

/-- The default settings are read back as they are written. -/
theorem parse?_write_default : parse? (write {}) = some {} := by
  decide +kernel

/-- The default settings are valid. -/
theorem problem?_default : problem? {} = none := by
  decide +kernel

/-- A configuration file in a directory is found before any other one. -/
theorem findFile?_of_contains
    {system : FileSystem}
    {directory : Path}
    (contained : system.contains (directory.child fileName) = true) :
    findFile? system directory = some (directory.child fileName) := by
  rw [findFile?_eq, if_pos contained]

end Config

namespace Dependency

/-- The module cache is a directory. -/
theorem isDirectory_of_mem_moduleCache?
    {system : FileSystem}
    {cache : Option Path}
    {searchPath : Option String}
    {path : Path}
    (isCache : path ∈ moduleCache? system cache searchPath) :
    system.isDirectory path = true :=
  (Option.mem_filter_iff.mp isCache).2

end Dependency

namespace Command

/-! ## What is created -/

/-- A configuration file is created where there was none. -/
theorem create_eq_ok
    {system next : FileSystem}
    {directory file : Path}
    (created : create system directory = .ok (file, next)) :
    file = directory.child Config.fileName ∧
      system.contains (directory.child Config.fileName) = false ∧
      system.writeText (directory.child Config.fileName) (Config.write {}) =
        .ok next := by
  unfold create at created
  simp only at created
  split at created
  · cases created
  · rename_i absent
    cases written : system.writeText (directory.child Config.fileName)
        (Config.write {}) with
    | error failure => simp [written] at created
    | ok grown =>
        simp only [written, Except.ok.injEq, Prod.mk.injEq] at created
        exact ⟨created.1.symm, by simpa using absent, by rw [created.2]⟩

section Created

variable
  {system next : FileSystem}
  {directory file : Path}
  (created : create system directory = .ok (file, next))
include created

/-- The file system grows by the file, which has the default settings. -/
theorem grown_of_create :
    FileSystem.Grown Config.fileName (.text (Config.write {})) system next ∧
      next.entry (directory.child Config.fileName) =
        .ok (.file (.text (Config.write {}))) := by
  obtain ⟨-, absent, written⟩ := create_eq_ok created
  have grown := FileSystem.grown_of_writeText absent written
  rwa [FileSystem.splitLast_child] at grown

/-- The default settings are loaded from the file. -/
theorem load_of_create : Config.load next directory = .ok ⟨{}, true⟩ := by
  have found := (grown_of_create created).2
  have isFile : Config.findFile? next directory =
      some (directory.child Config.fileName) :=
    Config.findFile?_of_contains (FileSystem.contains_of_entry_eq_ok found)
  simp [Config.load, isFile, Config.readFile, FileSystem.readText, found,
    Config.parse?_write_default, Config.problem?_default]

/-- Projects in the directory are analysed alike. -/
theorem run_of_create
    (config : Config)
    (cache : Option Path)
    (searchPath : Option String) :
    Analysis.run next
        ⟨directory, config, Dependency.moduleCache? system cache searchPath⟩ =
      Analysis.run system
        ⟨directory, config, Dependency.moduleCache? system cache searchPath⟩ := by
  obtain ⟨isGrown, found⟩ := grown_of_create created
  refine Analysis.run_of_grown Config.isHidden_fileName
    Config.isSourceName_fileName isGrown ?_ ?_ ?_
  · by_cases isEmpty : directory = Path.empty
    · exact .inl isEmpty
    · obtain ⟨entries, isDirectory⟩ :=
        FileSystem.exists_directory_of_entry_child isEmpty found
      rw [← isGrown.isDirectory_eq]
      exact .inr (by rw [FileSystem.isDirectory, isDirectory]; rfl)
  · intro path isCache
    exact FileSystem.contains_of_isDirectory
      (Dependency.isDirectory_of_mem_moduleCache? isCache)
  · obtain ⟨-, trail, located, -⟩ :=
      FileSystem.writeText_eq_ok (create_eq_ok created).2.2
    exact isGrown.readText_beside_eq located (by decide) (by decide)

end Created

/-- Once the configuration is loaded, the result of the printing is that of the
analysis. -/
theorem print_of_load
    {system : FileSystem}
    (arguments : Arguments)
    {loaded : Config.Loaded}
    (isLoaded : Config.load system arguments.path = .ok loaded) :
    print system arguments =
      ((Analysis.run system ⟨arguments.path, loaded.config,
          Dependency.moduleCache? system arguments.moduleCache
            arguments.searchPath⟩).mapError (.analysis arguments.path)).map
        fun analysis => ⟨analysis, loaded.fromFile,
          Dependency.moduleCache? system arguments.moduleCache
            arguments.searchPath⟩ := by
  simp only [print, isLoaded]
  cases Analysis.run system ⟨arguments.path, loaded.config,
    Dependency.moduleCache? system arguments.moduleCache
      arguments.searchPath⟩ <;> rfl

/-! ## Sequences of commands -/

/-- The files after some commands, carried out one after the other. -/
def filesAfter (system : FileSystem) (commands : List Arguments) : FileSystem :=
  commands.foldl (fun before arguments => (run before arguments).2) system

/-- A command takes nothing away. -/
theorem contains_run
    {system : FileSystem}
    {path : Path}
    (contained : system.contains path = true)
    (arguments : Arguments) :
    (run system arguments).2.contains path = true := by
  unfold run
  cases arguments.createIn with
  | none =>
      simp only
      cases print system arguments <;> exact contained
  | some directory =>
      simp only
      rcases created : create system directory with failure | ⟨file, next⟩
      · exact contained
      · exact (grown_of_create created).1.contains_of_contains contained

theorem contains_filesAfter
    {system : FileSystem}
    {path : Path}
    (contained : system.contains path = true)
    (commands : List Arguments) :
    (filesAfter system commands).contains path = true := by
  induction commands generalizing system with
  | nil => exact contained
  | cons arguments commands inductionHypothesis =>
      exact inductionHypothesis (contains_run contained arguments)

/-- Where there is a configuration file none is created, and no file changes. -/
theorem run_eq_alreadyConfigured
    {system : FileSystem}
    {directory : Path}
    (contained : system.contains (directory.child Config.fileName) = true)
    {arguments : Arguments}
    (creates : arguments.createIn = some directory) :
    run system arguments = (.error .alreadyConfigured, system) := by
  simp [run, creates, create, contained]

/-- The creation of a configuration file where none is found changes nothing but
where the configuration comes from. The default settings are loaded from the
file; a project in the directory is printed with the same result or error; and
after any commands the file is not created again, and all files stay as they
are. -/
theorem create_only_configures
    {system next : FileSystem}
    {directory file : Path}
    (unconfigured : Config.findFile? system directory = none)
    (created : create system directory = .ok (file, next)) :
    Config.load next directory = .ok ⟨{}, true⟩ ∧
      (∀ arguments : Arguments, arguments.path = directory →
        print next arguments = (print system arguments).map fun printing =>
          { printing with configFromFile := true }) ∧
      ∀ (commands : List Arguments) (arguments : Arguments),
        arguments.createIn = some directory →
          run (filesAfter next commands) arguments =
            (.error .alreadyConfigured, filesAfter next commands) := by
  obtain ⟨isGrown, found⟩ := grown_of_create created
  have loaded := load_of_create created
  refine ⟨loaded, ?_, ?_⟩
  · rintro arguments rfl
    have before : Config.load system arguments.path = .ok ⟨{}, false⟩ := by
      rw [Config.load, unconfigured]
    have sameCache : Dependency.moduleCache? next arguments.moduleCache
          arguments.searchPath =
        Dependency.moduleCache? system arguments.moduleCache
          arguments.searchPath := by
      have sameDirectories : next.isDirectory = system.isDirectory :=
        funext isGrown.isDirectory_eq
      rw [Dependency.moduleCache?, Dependency.moduleCache?, sameDirectories]
    rw [print_of_load arguments loaded, print_of_load arguments before, sameCache,
      run_of_create created]
    cases Analysis.run system ⟨arguments.path, {}, Dependency.moduleCache? system
      arguments.moduleCache arguments.searchPath⟩ <;> rfl
  · intro commands arguments creates
    exact run_eq_alreadyConfigured
      (contains_filesAfter (FileSystem.contains_of_entry_eq_ok found) commands)
      creates

/-- A project without a configuration file, in which one is created. -/
theorem exists_create_tracedProject :
    Config.findFile? (Analysis.tracedProject "package unused\n") ⟨"proj", []⟩ =
        none ∧
      ∃ file next,
        create (Analysis.tracedProject "package unused\n") ⟨"proj", []⟩ =
            .ok (file, next) ∧
          Config.load next ⟨"proj", []⟩ = .ok ⟨{}, true⟩ ∧
          print next { path := ⟨"proj", []⟩ } =
            .ok ⟨Analysis.tracedAnalysis, true, none⟩ ∧
          run next { createIn := some ⟨"proj", []⟩ } =
            (.error .alreadyConfigured, next) := by
  have unconfigured : Config.findFile? (Analysis.tracedProject "package unused\n")
      ⟨"proj", []⟩ = none := by
    decide +kernel
  have loaded : Config.load (Analysis.tracedProject "package unused\n")
      ⟨"proj", []⟩ = .ok ⟨{}, false⟩ := by
    rw [Config.load, unconfigured]
  have printed : print (Analysis.tracedProject "package unused\n")
      { path := ⟨"proj", []⟩ } =
        .ok ⟨Analysis.tracedAnalysis, false, none⟩ := by
    rw [print_of_load { path := ⟨"proj", []⟩ } loaded]
    exact congrArg (fun result => (result.mapError
      (Failure.analysis ⟨"proj", []⟩)).map fun analysis =>
        (⟨analysis, false, none⟩ : Printing)) Analysis.run_tracedProject
  have succeeds : (create (Analysis.tracedProject "package unused\n")
      ⟨"proj", []⟩).toOption.isSome = true := by
    decide +kernel
  rcases created : create (Analysis.tracedProject "package unused\n") ⟨"proj", []⟩
    with failure | ⟨file, next⟩
  · simp [created, Except.toOption] at succeeds
  · obtain ⟨reloaded, prints, refuses⟩ :=
      create_only_configures unconfigured created
    refine ⟨unconfigured, file, next, rfl, reloaded, ?_, refuses [] _ rfl⟩
    rw [prints _ rfl, printed]
    rfl

end Command
end EnvTags
