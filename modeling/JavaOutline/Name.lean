import JavaOutline.Text.Blank

/-!
# Names

Every name that a report shows has to hold something but blanks, and a dotted name has to have a
segment. The checks here are the only ones made of a name; what characters it is made of is the
parser's business.
-/

namespace JavaOutline

/-- Why a name is refused. -/
inductive NameFault where
  | noSegments
  | blank
deriving DecidableEq, Repr

/-- The text of a complaint about a name. -/
def NameFault.message : NameFault → String
  | noSegments => "At least one identifier segment is required"
  | blank => "Identifier must be a non-empty string"

/-- A name holds something but blanks. -/
def IsName (name : String) : Prop :=
  Text.isBlankText name = false

instance (name : String) : Decidable (IsName name) :=
  inferInstanceAs (Decidable (_ = false))

/-- A dotted name has at least one segment, and every segment is a name. -/
def IsDottedName (segments : List String) : Prop :=
  segments ≠ [] ∧ ∀ segment ∈ segments, IsName segment

instance (segments : List String) : Decidable (IsDottedName segments) :=
  inferInstanceAs (Decidable (_ ∧ _))

/-- Accepts a name, or says why not. -/
def checkName (name : String) : Except NameFault String :=
  if IsName name then .ok name else .error .blank

/-- Accepts the segments of a dotted name, or says why not. -/
def checkSegments (segments : List String) : Except NameFault (List String) :=
  if segments = [] then .error .noSegments
  else if ∀ segment ∈ segments, IsName segment then .ok segments
  else .error .blank

/-- Segments joined by dots. -/
def dotted (segments : List String) : String :=
  ".".intercalate segments

/-- Exactly the names are accepted, and as they are. -/
theorem checkName_eq_ok_iff {name accepted : String} :
    checkName name = .ok accepted ↔ IsName name ∧ name = accepted := by
  unfold checkName
  by_cases h : IsName name <;> simp [h]

/-- Exactly the dotted names are accepted, and as they are. -/
theorem checkSegments_eq_ok_iff {segments accepted : List String} :
    checkSegments segments = .ok accepted ↔ IsDottedName segments ∧ segments = accepted := by
  unfold checkSegments IsDottedName
  by_cases hnil : segments = []
  · simp [hnil]
  · rw [if_neg hnil]
    by_cases h : ∀ segment ∈ segments, IsName segment
    · rw [if_pos h]
      simp only [Except.ok.injEq, ne_eq, hnil, not_false_eq_true, true_and]
      exact ⟨fun heq => ⟨h, heq⟩, fun both => both.2⟩
    · rw [if_neg h]
      exact ⟨fun heq => by simp at heq, fun both => absurd both.1.2 h⟩

end JavaOutline
