import JavaOutline.Data.Load
import JavaOutline.Level
import JavaOutline.Text.Numeral

/-!
# Settings

The settings of the program and how they are loaded from given data: the level of the log, the
indentation of the report and whether the syntax tree is shown. Each has a default, fields that are
not settings are passed over, and every field that is wrong is reported.
-/

namespace JavaOutline

open Data

/-- The settings of the program. -/
structure Settings where
  logLevel : Level
  indent : Nat
  showTree : Bool
deriving DecidableEq, Repr

namespace Settings

/-- The title under which messages mention settings. -/
def title : String := "AnalyzerSettings"

/-- The settings if nothing is given. -/
def default : Settings :=
  ⟨.warning, 0, false⟩

/-- The name of a level. -/
def loadLevel (value : Value) : Checked Level := do
  let given ← loadText value
  match Level.read? given with
  | some level => .ok level
  | none => Checked.fail (.unknownLevel given)

/-- A whole number: itself, a truth value as one or zero, a number without a fraction that is a 64-bit
word, or a text. -/
def loadInt (limit : Text.DigitLimit) : Value → Checked Int
  | .int n => .ok n
  | .bool b => .ok (if b then 1 else 0)
  | .float x =>
    match x.toWord? with
    | some n => .ok n
    | none => Checked.fail (if ¬ x.isFinite then .notFinite
      else if x.toInt?.isSome then .tooManyDigits else .hasFraction)
  | .text s =>
    match Text.readSettingInt limit s with
    | .ok n => .ok n
    | .error .malformed => Checked.fail .unreadableInt
    | .error .tooLong => Checked.fail .tooManyDigits
  | _ => Checked.fail .notInt

/-- A whole number that is not negative. -/
def loadIndent (limit : Text.DigitLimit) (value : Value) : Checked Nat := do
  match ← loadInt limit value with
  | .ofNat n => .ok n
  | .negSucc _ => Checked.fail .negative

/-- Settings from the fields given for them. -/
def loadFields (limit : Text.DigitLimit) (fields : Fields) : Checked Settings :=
  ((Checked.map Settings.mk (optional "log_level" default.logLevel loadLevel fields)).ap
    (optional "indent" default.indent (loadIndent limit) fields)).ap
    (optional "show_tree" default.showTree loadBool fields)

/-- Settings from any value. -/
def load (value : Value) (limit : Text.DigitLimit := Text.digitsAlone) : Checked Settings :=
  loadObject title (loadFields limit) value

end Settings

end JavaOutline
