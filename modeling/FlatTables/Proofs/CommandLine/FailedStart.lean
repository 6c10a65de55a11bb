import FlatTables.CommandLine.Run
import FlatTables.Proofs.Engine.Step
import FlatTables.Proofs.Samples
import FlatTables.Proofs.Storage.LoadFault

/-!
# Starts that fail

A database over a folder starts, or fails with a storage fault that names the file, which a command
line then reports. Only bytes that are no text, a data file whose path cannot be asked about and a
schema file whose path cannot be tried end in another fault, and that one leaves the command line
unreported.
-/

namespace FlatTables
namespace CommandLine

open Engine (Database start_eq_error_iff sampleDatabase sampleFolder)
open Settings (Environment)
open Storage (Folder Workspace)

/-- The command line comes to open a folder: its arguments and settings can be read, they lead to
the folder, and a script is there if one is given. -/
def Opens (environment : Environment) (texts : List String) (folder : Folder)
    (workspace : Workspace) : Prop :=
  ∃ settings arguments, prepare environment texts = .ok (settings, arguments) ∧
    missingScript? arguments workspace = .ok none ∧
    folderOf (override settings arguments) = folder

/-- How a command line ends if the database cannot be started: a storage fault is printed, and any
other escapes. -/
def Result.ofStart (workspace : Workspace) : Fault → Result
  | .storage own => .failed 1 ("Error: " ++ own.message) workspace
  | fault => .early (.escaped fault) workspace

/-- Where the command line comes to open a folder that is not loaded, it ends at the start. -/
theorem run_eq_ofStart
    {environment : Environment}
    {texts : List String}
    {folder : Folder}
    {workspace : Workspace}
    (opens : Opens environment texts folder workspace)
    {fault : Fault}
    (failed : (folder.load workspace).result = .error fault)
    (input : String) :
    run environment texts input workspace = .ofStart workspace fault := by
  obtain ⟨settings, arguments, prepared, script, rfl⟩ := opens
  have unstarted : ((({ storage := workspace } : Database Workspace).start
      (folderOf (override settings arguments)).gateway).result) = .error fault := by
    rw [start_eq_error_iff _ rfl, Folder.gateway_load]
    exact failed
  have opened : run environment texts input workspace =
      operate (override settings arguments) arguments input workspace := by
    rw [run, prepared]
    dsimp only
    rw [runWith, script]
  rw [opened]
  unfold operate
  dsimp only
  rw [unstarted]
  cases fault <;> rfl

/-- A database over a folder starts or fails with a storage fault exactly if nothing escapes. The
storage fault names the file that could not be read, and a command line that opens the folder prints
it and ends with exit code 1. What escapes is what the start fails with, and it escapes the command
line too. -/
theorem start_fails_typed_unless_escaping
    (folder : Folder)
    {idle : Database Workspace}
    (stopped : idle.catalog = none) :
    ((idle.start folder.gateway).result = .ok () ∨
        (∃ own, (idle.start folder.gateway).result = .error (.storage own)) ↔
      ∀ fault, ¬ folder.Escapes idle.storage fault) ∧
    (∀ own, (idle.start folder.gateway).result = .error (.storage own) →
      folder.BlamesFile idle.storage own ∧
        ∀ environment texts input, Opens environment texts folder idle.storage →
          run environment texts input idle.storage =
            .failed 1 ("Error: " ++ own.message) idle.storage) ∧
    ∀ fault, folder.Escapes idle.storage fault →
      (idle.start folder.gateway).result = .error fault ∧
        ∀ environment texts input, Opens environment texts folder idle.storage →
          run environment texts input idle.storage = .early (.escaped fault) idle.storage := by
  have failed : ∀ fault, (idle.start folder.gateway).result = .error fault ↔
      (folder.load idle.storage).result = .error fault := by
    intro fault
    rw [start_eq_error_iff folder.gateway stopped, Folder.gateway_load]
  refine ⟨⟨?_, ?_⟩, ?_, ?_⟩
  · intro typed fault escapes
    have untyped := (failed fault).2 escapes.load_eq
    rcases typed with started | ⟨own, storage⟩
    · cases started.symm.trans untyped
    · exact escapes.ne_storage own (Except.error.inj (untyped.symm.trans storage))
  · intro nothing
    cases result : (idle.start folder.gateway).result with
    | ok done => exact .inl rfl
    | error fault =>
        rcases Folder.load_eq_error ((failed fault).1 result) with escapes | ⟨own, rfl, _⟩
        · exact absurd escapes (nothing fault)
        · exact .inr ⟨own, rfl⟩
  · intro own storage
    have load := (failed (.storage own)).1 storage
    constructor
    · rcases Folder.load_eq_error load with escapes | ⟨other, same, blames⟩
      · exact absurd rfl (escapes.ne_storage own)
      · exact Fault.storage.inj same ▸ blames
    · exact fun environment texts input opens => run_eq_ofStart opens load input
  · intro fault escapes
    refine ⟨(failed fault).2 escapes.load_eq, fun environment texts input opens => ?_⟩
    rw [run_eq_ofStart opens escapes.load_eq input]
    cases fault with
    | storage own => exact absurd rfl (escapes.ne_storage own)
    | _ => rfl

/-- The fault of a schema file with an unknown type names the file and is printed. -/
theorem start_fails_typed_unknown_type :
    run [] [] "" (sampleDatabase "T(a:Color)\n").storage =
      .failed 1 "Error: Unknown type 'Color' at line 1 (db/schema.txt)"
        (sampleDatabase "T(a:Color)\n").storage := by
  have opens : Opens [] [] sampleFolder (sampleDatabase "T(a:Color)\n").storage :=
    ⟨{}, {}, by decide +kernel, rfl, rfl⟩
  have failed : ((sampleDatabase "T(a:Color)\n").start sampleFolder.gateway).result =
      .error (.storage (.unknownType "Color" 1 (.ofString "db/schema.txt"))) := by
    decide +kernel
  have stopped : (sampleDatabase "T(a:Color)\n").catalog = none := rfl
  obtain ⟨_, typed, _⟩ := start_fails_typed_unless_escaping sampleFolder stopped
  obtain ⟨_, printed⟩ := typed _ failed
  exact printed [] [] "" opens

/-- A database over the folder, whose schema file and data file of a table T hold some bytes. -/
def databaseOver (schemas rows : ByteArray) : Database Workspace where
  storage :=
    { entries := [(["db"], .directory), (["db", "schema.txt"], .file schemas),
        (["db", "T.csv"], .file rows)] }

/-- A schema file that is no text ends the start in a fault that is not one of the storage. -/
theorem start_can_escape :
    ¬ ∀ idle : Database Workspace, idle.catalog = none →
      (idle.start sampleFolder.gateway).result = .ok () ∨
        ∃ own, (idle.start sampleFolder.gateway).result = .error (.storage own) := by
  intro always
  have escaped : ((databaseOver ⟨#[0xff]⟩ .empty).start sampleFolder.gateway).result =
      .error (.encoding ⟨0, 1, 0xff, .invalidStart⟩) := by
    decide +kernel
  rcases always (databaseOver ⟨#[0xff]⟩ .empty) rfl with started | ⟨own, failed⟩
  · cases escaped.symm.trans started
  · cases escaped.symm.trans failed

/-- So does a data file that is no text after its first line. -/
example :
    ((databaseOver "T(a:Integer)\n".toUTF8 ⟨#[0x31, 0x0a, 0xff]⟩).start
      sampleFolder.gateway).result = .error (.encoding ⟨2, 3, 0xff, .invalidStart⟩) := by
  decide +kernel

end CommandLine
end FlatTables
