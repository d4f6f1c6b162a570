import JavaOutline.CommandLine.Program
import JavaOutline.Proofs.Settings.Environment

/-!
# The program from its start

Before its run, the program loads the nearest environment file into the environment. A `Start` is a
start of the program that gets past this, with the environment that the run then has. Without an
environment file that is the environment as it was; with one, the settings of the run are those that
the environment and the file give together. Nothing else about a run depends on the file, apart from
the notes of what could not be read in it, which come in front of the errors.
-/

namespace JavaOutline

/-- A start of the program that gets past the environment file. -/
structure Start where
  installation : Installation
  surroundings : Surroundings
  /-- The environment once the file is loaded. -/
  environment : Environment
  /-- What could not be read in the file. -/
  notes : String
  environment_eq :
    surroundings.environment.withNearestFile surroundings.lookUp installation.envFiles =
      .ok (environment, notes)

namespace Start

/-- The surroundings of the run, in which the file is loaded. -/
def loaded (begun : Start) : Surroundings :=
  { begun.surroundings with environment := begun.environment }

/-- What a run gives, with the notes about the file in front of its errors. -/
def noted (begun : Start) (ran : Outcome) : Outcome :=
  { ran with errors := begun.notes ++ ran.errors }

@[simp] theorem noted_output (begun : Start) (ran : Outcome) :
    (begun.noted ran).output = ran.output := rfl

@[simp] theorem noted_ending (begun : Start) (ran : Outcome) :
    (begun.noted ran).ending = ran.ending := rfl

/-- What the program prints for a command line, and how it ends. -/
def outcome (begun : Start) (words : List String) : Outcome :=
  begun.noted (run begun.loaded words begun.installation)

/-- The outcome of a start is what the program gives. -/
theorem start_eq (begun : Start) (words : List String) :
    start begun.installation begun.surroundings words = .ok (begun.outcome words) := by
  rw [start, begun.environment_eq]
  rfl

/-- Whatever the program gives is the outcome of a start, and otherwise the environment file is to
blame. -/
theorem exists_of_start_eq_ok {installation : Installation} {surroundings : Surroundings}
    {words : List String} {outcome : Outcome}
    (h : start installation surroundings words = .ok outcome) :
    ∃ begun : Start, begun.installation = installation ∧ begun.surroundings = surroundings ∧
      begun.outcome words = outcome := by
  cases hloaded : surroundings.environment.withNearestFile surroundings.lookUp
      installation.envFiles with
  | error error =>
    rw [start, hloaded] at h
    cases h
  | ok loaded =>
    obtain ⟨environment, notes⟩ := loaded
    refine ⟨⟨installation, surroundings, environment, notes, hloaded⟩, rfl, rfl, ?_⟩
    have hstart := start_eq ⟨installation, surroundings, environment, notes, hloaded⟩ words
    rw [h, Except.ok.injEq] at hstart
    exact hstart.symm

variable {begun : Start}

/-- Without an environment file, the program is its run. -/
theorem outcome_of_no_file (words : List String)
    (hnone : ∀ place ∈ begun.installation.envFiles,
      (begun.surroundings.lookUp place).regularBytes.isOk = false) :
    begun.outcome words = run begun.surroundings words begun.installation := by
  have hfind : begun.installation.envFiles.find?
      (fun place => (begun.surroundings.lookUp place).regularBytes.isOk) = none := by
    rw [List.find?_eq_none]
    intro place hplace
    rw [hnone place hplace]
    exact Bool.false_ne_true
  have hsame := begun.environment_eq
  rw [Environment.withNearestFile, hfind, Except.ok.injEq, Prod.mk.injEq] at hsame
  rw [outcome, noted, loaded, ← hsame.1, ← hsame.2, String.empty_append]

/-- With an environment file, the settings of the run are those that the environment and the nearest
file give together. -/
theorem settings_of_fileGives {path notes : String} {assigned : List (String × Option String)}
    (hnearest : begun.installation.envFiles.find?
      (fun place => (begun.surroundings.lookUp place).regularBytes.isOk) = some path)
    (hfile : Settings.FileGives begun.surroundings.environment begun.surroundings.lookUp path
      assigned notes) (limit : Text.DigitLimit) :
    begun.notes = notes ∧
      Settings.ofEnvironment begun.environment [] limit =
        Settings.ofEnvironment begun.surroundings.environment assigned limit := by
  have hsame := begun.environment_eq
  rw [Environment.withNearestFile, hnearest] at hsame
  simp only [hfile.withFile_eq, Except.ok.injEq, Prod.mk.injEq] at hsame
  rw [← hsame.1, ← hsame.2]
  exact ⟨rfl, Settings.ofEnvironment_append_newVariables⟩

end Start

end JavaOutline
