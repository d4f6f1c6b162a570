import JavaOutline.Name

/-!
# Faults of given data

Loading a value reports every fault in it, not only the first. A fault says where it is, as a path
of keys and indexes from the outside in, and what is wrong there. `Checked` is a loaded thing or the
faults found on the way, and `Checked.ap` puts two of them together without losing the faults of
either.
-/

namespace JavaOutline.Data

/-- One step of the way to a fault. -/
inductive Place where
  | key (name : String)
  | index (position : Nat)
deriving DecidableEq, Repr

/-- What is wrong with a value. -/
inductive Cause where
  /-- A field that has to be there is not. -/
  | missing
  /-- A field that nothing is known about. -/
  | unknownField
  | notText
  | notList
  /-- No object where one is loaded, which is called by its title. -/
  | notRecord (title : String)
  /-- No object where one of several forms is loaded. -/
  | notObject
  /-- No tag to tell the forms apart. -/
  | noTag
  | unknownTag (spelling : String)
  /-- A form inside itself more often than is allowed. -/
  | tooDeep
  /-- None of a few fixed values, given as they are shown. -/
  | notAmong (choices : List String)
  | invalidName (fault : NameFault)
  | notBool
  | unreadableBool
  | notInt
  | unreadableInt
  | tooManyDigits
  | hasFraction
  | notFinite
  | negative
  | unknownLevel (given : String)
  /-- A finished thing was to be changed. -/
  | frozen
deriving DecidableEq, Repr

/-- Choices as they are read out: commas between them and a word before the last. -/
def alternatives : List String → String
  | [] => ""
  | [choice] => choice
  | [choice, last] => choice ++ " or " ++ last
  | choice :: choices => choice ++ ", " ++ alternatives choices

namespace Cause

/-- The short name of a cause. -/
def code : Cause → String
  | missing => "missing"
  | unknownField => "extra_forbidden"
  | notText => "string_type"
  | notList => "list_type"
  | notRecord _ => "model_type"
  | notObject => "model_attributes_type"
  | noTag => "union_tag_not_found"
  | unknownTag _ => "union_tag_invalid"
  | tooDeep => "recursion_loop"
  | notAmong _ => "literal_error"
  | invalidName _ => "value_error"
  | notBool => "bool_type"
  | unreadableBool => "bool_parsing"
  | notInt => "int_type"
  | unreadableInt => "int_parsing"
  | tooManyDigits => "int_parsing_size"
  | hasFraction => "int_from_float"
  | notFinite => "finite_number"
  | negative => "greater_than_equal"
  | unknownLevel _ => "value_error"
  | frozen => "frozen_instance"

/-- The text of a cause. -/
def message : Cause → String
  | missing => "Field required"
  | unknownField => "Extra inputs are not permitted"
  | notText => "Input should be a valid string"
  | notList => "Input should be a valid list"
  | notRecord title => "Input should be a valid dictionary or instance of " ++ title
  | notObject => "Input should be a valid dictionary or object to extract fields from"
  | noTag => "Unable to extract tag using discriminator 'kind'"
  | unknownTag spelling =>
    "Input tag '" ++ spelling ++
      "' found using 'kind' does not match any of the expected tags: 'concrete', 'generic'"
  | tooDeep => "Recursion error - cyclic reference detected"
  | notAmong choices => "Input should be " ++ alternatives choices
  | invalidName fault => "Value error, " ++ fault.message
  | notBool => "Input should be a valid boolean"
  | unreadableBool => "Input should be a valid boolean, unable to interpret input"
  | notInt => "Input should be a valid integer"
  | unreadableInt => "Input should be a valid integer, unable to parse string as an integer"
  | tooManyDigits => "Unable to parse input string as an integer, exceeded maximum size"
  | hasFraction => "Input should be a valid integer, got a number with a fractional part"
  | notFinite => "Input should be a finite number"
  | negative => "Input should be greater than or equal to 0"
  | unknownLevel given => "Value error, Unknown log level: " ++ given
  | frozen => "Instance is frozen"

end Cause

/-- Something wrong at some place. -/
structure Fault where
  location : List Place
  cause : Cause
deriving DecidableEq, Repr

/-- A fault seen from one step further out. -/
def Fault.within (place : Place) (fault : Fault) : Fault :=
  { fault with location := place :: fault.location }

/-- Something loaded, or every fault that kept it from being loaded. -/
abbrev Checked (α : Type) := Except (List Fault) α

namespace Checked

variable {α β : Type}

/-- A single fault at the value itself. -/
def fail (cause : Cause) : Checked α :=
  .error [⟨[], cause⟩]

/-- Applies a function to what is loaded. -/
def map (f : α → β) (loaded : Checked α) : Checked β :=
  Except.map f loaded

/-- Applies a loaded function to a loaded argument; the faults of both are kept, in order. -/
def ap (function : Checked (α → β)) (argument : Checked α) : Checked β :=
  match function, argument with
  | .ok f, .ok a => .ok (f a)
  | .ok _, .error faults => .error faults
  | .error faults, .ok _ => .error faults
  | .error faults, .error more => .error (faults ++ more)

/-- Adds faults that were found elsewhere. -/
def withFaults (loaded : Checked α) (more : List Fault) : Checked α :=
  match loaded, more with
  | .ok a, [] => .ok a
  | .ok _, more => .error more
  | .error faults, more => .error (faults ++ more)

/-- Faults as they are seen from one step further out. -/
def within (place : Place) (loaded : Checked α) : Checked α :=
  loaded.mapError (·.map (Fault.within place))

/-- A name check as part of a load. -/
def ofName (checked : Except NameFault α) : Checked α :=
  checked.mapError fun fault => [⟨[], .invalidName fault⟩]

end Checked

end JavaOutline.Data
