import JavaOutline.Data.Load

/-!
# What a load reports

Loads are put together so that no fault is lost: the faults of a load that is made of others are
those of its parts, in order, and each step outwards puts one place in front of all of them. A load
that fails never does so without a fault, so that it succeeds exactly if there are no faults. The
laws below say both for each way of putting loads together and for the loads of single values.
-/

namespace JavaOutline.Data

variable {α β : Type}

namespace Checked

/-- The faults of a load; one that succeeds has none. -/
def faults : Checked α → List Fault
  | .ok _ => []
  | .error faults => faults

/-- A load that fails has a fault to show for it. -/
def IsHonest (loaded : Checked α) : Prop :=
  loaded ≠ .error []

@[simp] theorem faults_ok (a : α) : faults (.ok a) = [] := rfl

@[simp] theorem faults_error (found : List Fault) : faults (.error found : Checked α) = found := rfl

/-- What succeeds is honest. -/
theorem isHonest_ok (a : α) : IsHonest (.ok a) := nofun

/-- What fails with a fault is honest. -/
theorem isHonest_error {found : List Fault} (h : found ≠ []) : IsHonest (.error found : Checked α) :=
  fun heq => h (Except.error.inj heq)

/-- A single fault is that fault. -/
@[simp] theorem faults_fail (cause : Cause) : (fail cause : Checked α).faults = [⟨[], cause⟩] := rfl

/-- Applying a function leaves the faults as they are. -/
@[simp] theorem faults_map (f : α → β) (loaded : Checked α) :
    (loaded.map f).faults = loaded.faults := by
  cases loaded <;> rfl

theorem IsHonest.map {loaded : Checked α} (h : loaded.IsHonest) (f : α → β) :
    (loaded.map f).IsHonest := by
  cases loaded with
  | ok a => exact isHonest_ok (f a)
  | error found => exact isHonest_error fun heq => h (congrArg Except.error heq)

/-- The faults of a function come before those of its argument. -/
@[simp] theorem faults_ap (function : Checked (α → β)) (argument : Checked α) :
    (function.ap argument).faults = function.faults ++ argument.faults := by
  cases function <;> cases argument <;> simp [ap]

theorem IsHonest.ap {function : Checked (α → β)} {argument : Checked α} (h : function.IsHonest)
    (h' : argument.IsHonest) : (function.ap argument).IsHonest := by
  cases function with
  | ok f =>
    cases argument with
    | ok a => exact isHonest_ok (f a)
    | error more => exact isHonest_error fun heq => h' (congrArg Except.error heq)
  | error found =>
    have hfound : found ≠ [] := fun heq => h (congrArg Except.error heq)
    cases argument with
    | ok a => exact isHonest_error hfound
    | error more => exact isHonest_error (by simp [hfound])

/-- Faults that were found elsewhere come last. -/
@[simp] theorem faults_withFaults (loaded : Checked α) (more : List Fault) :
    (loaded.withFaults more).faults = loaded.faults ++ more := by
  cases loaded with
  | ok a => cases more <;> rfl
  | error found => rfl

theorem IsHonest.withFaults {loaded : Checked α} (h : loaded.IsHonest) (more : List Fault) :
    (loaded.withFaults more).IsHonest := by
  cases loaded with
  | ok a =>
    cases more with
    | nil => exact isHonest_ok a
    | cons fault more => exact isHonest_error (by simp)
  | error found =>
    have hfound : found ≠ [] := fun heq => h (congrArg Except.error heq)
    exact isHonest_error (by simp [hfound])

/-- A step outwards puts its place in front of every fault. -/
@[simp] theorem faults_within (place : Place) (loaded : Checked α) :
    (loaded.within place).faults = loaded.faults.map (Fault.within place) := by
  cases loaded <;> rfl

theorem IsHonest.within {loaded : Checked α} (h : loaded.IsHonest) (place : Place) :
    (loaded.within place).IsHonest := by
  cases loaded with
  | ok a => exact isHonest_ok a
  | error found =>
    have hfound : found ≠ [] := fun heq => h (congrArg Except.error heq)
    exact isHonest_error (by simp [hfound])

end Checked

/-- A fault seen from several steps further out. -/
def Fault.under (places : List Place) (fault : Fault) : Fault :=
  { fault with location := places ++ fault.location }

@[simp] theorem Fault.under_mk (places location : List Place) (cause : Cause) :
    (⟨location, cause⟩ : Fault).under places = ⟨places ++ location, cause⟩ := rfl

/-- Steps are taken from the inside out. -/
@[simp] theorem Fault.under_comp_within (places : List Place) (place : Place) :
    Fault.under places ∘ Fault.within place = Fault.under (places ++ [place]) := by
  funext fault
  simp [under, within]

/-! ## Single values and fields -/

variable {key : String} {load : Value → Checked α} {fields : Fields}

/-- A field with a default has the faults of its value, under its key, if it is there. -/
theorem faults_optional {default : α} :
    (Data.optional key default load fields).faults =
      match Value.field? key fields with
      | none => []
      | some value => (load value).faults.map (Fault.within (.key key)) := by
  rw [Data.optional]
  cases Value.field? key fields <;> simp

end JavaOutline.Data
