import JavaOutline.Proofs.Scope.Store
import JavaOutline.Proofs.Traversal.Rules

/-!
# What a visit does

Carrying out steps in a scope either is refused or extends the store at that scope and the journal
by what the steps say, and it is never refused in an open scope as long as no step opens a file.
Since no script does, a visit in an open scope has the effect of the script of its node and ends as
the script does. In any scope, a visit that succeeds opens a scope exactly if the rules say so, and
then that scope gets the next free number.
-/

namespace JavaOutline.Progress

/-- The number of the scope that was opened last, if any was: numbers are given from `next` on. -/
def lastOpened (opened next : Nat) : Nat → Nat
  | 0 => opened
  | count + 1 => next + count

/-- The progress after the steps of a script were carried out in a scope. -/
def after (progress : Progress) (scope : Nat) (script : Script) : Progress :=
  ⟨progress.store.extend scope script.facts script.headers, progress.journal ++ script.messages⟩

/-- Steps that are not refused have their effect. -/
theorem perform_eq_ok {scope opened last : Nat} {steps : List Step} {progress reached : Progress}
    (h : perform scope steps progress opened = (reached, .ok last)) :
    reached = ⟨progress.store.extend scope (steps.filterMap Step.fact?)
        (steps.filterMap Step.header?), progress.journal ++ steps.filterMap Step.message?⟩ ∧
      last = lastOpened opened progress.store.size (steps.filterMap Step.header?).length := by
  induction steps generalizing progress opened with
  | nil =>
    cases h
    simp [lastOpened]
  | cons step steps ih =>
    cases step with
    | note message =>
      rw [perform] at h
      obtain ⟨rfl, rfl⟩ := ih h
      simp [List.filterMap_cons, Step.fact?, Step.header?, Step.message?]
    | record fact =>
      rw [perform] at h
      split at h
      · cases h
      · rename_i store hrecord
        obtain ⟨hopen, rfl⟩ := Store.record_eq_ok_iff.mp hrecord
        obtain ⟨rfl, rfl⟩ := ih h
        simp [List.filterMap_cons, Step.fact?, Step.header?, Step.message?,
          Store.extend_extend _ hopen.lt_size]
    | enter header =>
      rw [perform] at h
      split at h
      · cases h
      · rename_i store child hopened
        obtain ⟨hopen, _, rfl, rfl⟩ := Store.openChild_eq_ok_iff.mp hopened
        obtain ⟨rfl, rfl⟩ := ih h
        simp only [Step.fact?, Step.header?, Step.message?, List.filterMap_cons,
          Store.extend_extend _ hopen.lt_size, List.nil_append, List.singleton_append,
          Store.size_extend, List.length_cons, true_and]
        cases (steps.filterMap Step.header?).length with
        | zero => rfl
        | succ count => exact Nat.add_right_comm ..

/-- In an open scope, steps that open no file are not refused. -/
theorem perform_of_isOpen {scope : Nat} {steps : List Step} {progress : Progress}
    (hopen : progress.store.IsOpen scope) (hfile : Header.file ∉ steps.filterMap Step.header?)
    (opened : Nat) : ∃ reached last, perform scope steps progress opened = (reached, .ok last) := by
  induction steps generalizing progress opened with
  | nil => exact ⟨progress, opened, rfl⟩
  | cons step steps ih =>
    cases step with
    | note message =>
      rw [perform]
      apply ih
      · exact hopen
      · exact hfile
    | record fact =>
      have hrest : Header.file ∉ steps.filterMap Step.header? := hfile
      rw [perform, Store.record_eq_ok_iff.mpr ⟨hopen, rfl⟩]
      apply ih
      · exact hopen.extend scope [fact] []
      · exact hrest
    | enter header =>
      change Header.file ∉ header :: steps.filterMap Step.header? at hfile
      rw [List.mem_cons, not_or] at hfile
      rw [perform, Store.openChild_eq_ok_iff.mpr ⟨hopen, Ne.symm hfile.1, rfl, rfl⟩]
      apply ih
      · exact hopen.extend scope [] [header]
      · exact hfile.2

/-- A visit in an open scope has the effect of the script and ends as the script does. -/
theorem visit_of_isOpen {progress : Progress} {scope : Nat} (hopen : progress.store.IsOpen scope)
    (source : SourceText) (tree : SyntaxTree) :
    progress.visit source scope tree =
      (progress.after scope (scriptOf source tree), (scriptOf source tree).ending,
        lastOpened scope progress.store.size (scriptOf source tree).headers.length) := by
  have hfile := (scriptOf_callsFor source tree).file_not_mem_headers
  obtain ⟨reached, last, hperform⟩ := perform_of_isOpen hopen hfile scope
  obtain ⟨rfl, rfl⟩ := perform_eq_ok hperform
  simp only [visit, hperform]
  rfl

/-- A visit that succeeds, in whatever scope, has the effect of the script. A scope is opened if the
rules say so, and it gets the next free number. -/
theorem visit_eq_ok {progress reached : Progress} {source : SourceText} {scope last : Nat}
    {tree : SyntaxTree} {descent : Descent}
    (h : progress.visit source scope tree = (reached, .ok descent, last)) :
    (scriptOf source tree).ending = .ok descent ∧
      reached = progress.after scope (scriptOf source tree) ∧
      reached.store.size = progress.store.size + (opensScope tree).toNat ∧
      last = if opensScope tree then progress.store.size else scope := by
  simp only [visit] at h
  split at h
  · cases h
  · rename_i performed opened hperform
    injection h with hreached hrest
    injection hrest with hending hlast
    subst hreached hlast
    obtain ⟨rfl, rfl⟩ := perform_eq_ok hperform
    have hcalls := scriptOf_callsFor source tree
    refine ⟨hending, rfl, ?_⟩
    cases hopens : opensScope tree with
    | false =>
      have hheaders : (scriptOf source tree).steps.filterMap Step.header? = [] :=
        hcalls.headers_of_not_opens hopens
      simp [hheaders, lastOpened]
    | true =>
      obtain ⟨header, hheaders, _⟩ := hcalls.headers_of_opens hending hopens
      change (scriptOf source tree).steps.filterMap Step.header? = [header] at hheaders
      simp [hheaders, lastOpened]

end JavaOutline.Progress
