import JavaOutline.Settings.Environment
import JavaOutline.Proofs.Data.Loading
import JavaOutline.Proofs.Data.Reporting
import JavaOutline.Proofs.Text.SettingNumeral

/-!
# What an environment says about the settings

For each setting one text counts at most: that of its variable, if it is set, and otherwise the one
that the environment file assigns to it last; an empty text never counts. The settings are given
exactly if the text for the level names one and the text for the indentation is a number that is not
negative. Each of the two that is wrong is reported once, the level first. Whatever the text about
the tree is, it is never wrong.
-/

namespace JavaOutline

open Data

/-! ## The texts that count -/

/-- The last assignment of a key gives it a text. -/
def LastAssigned (assigned : List (String × Option String)) (name text : String) : Prop :=
  ∃ before after, assigned = before ++ (name, some text) :: after ∧ ∀ other ∈ after, other.1 ≠ name

/-- A text counts for a variable: it is not empty, and it is what the variable is set to, or what it
is assigned last if it is not set. -/
def CountsFor (environment : Environment) (assigned : List (String × Option String))
    (name text : String) : Prop :=
  text ≠ "" ∧ (environment.lookup name = some text ∨
    environment.lookup name = none ∧ LastAssigned assigned name text)

/-- The value of a key is the text of its last assignment. -/
theorem EnvFile.value?_eq_some_iff {assigned : List (String × Option String)} {name text : String} :
    value? name assigned = some text ↔ LastAssigned assigned name text := by
  rw [value?, Option.join_eq_some_iff, found?, List.lookup_eq_some_iff]
  constructor
  · rintro ⟨after, before, hreverse, hafter⟩
    refine ⟨before.reverse, after.reverse, ?_, ?_⟩
    · rw [← List.reverse_reverse assigned, hreverse]
      simp
    · intro other hother
      have hne := hafter other (List.mem_reverse.mp hother)
      exact fun heq => by simp [heq] at hne
  · rintro ⟨before, after, rfl, hafter⟩
    refine ⟨after.reverse, before.reverse, by simp, ?_⟩
    intro other hother
    have hne := hafter other (List.mem_reverse.mp hother)
    simpa using Ne.symm hne

/-- The name of a level is read as that level, in any case and with blanks around it. -/
theorem Level.read?_eq_some_iff {s : String} {level : Level} :
    read? s = some level ↔ level.name = Text.upper (Text.strip s) := by
  have hnames : ∀ level ∈ all, all.find? (·.name == level.name) = some level := by decide +kernel
  rw [read?]
  constructor
  · intro hfind
    simpa using List.find?_some hfind
  · intro hname
    rw [← hname]
    exact hnames level (by cases level <;> decide)

namespace Settings

variable {limit : Text.DigitLimit} {environment : Environment}
  {assigned : List (String × Option String)}

/-- The effective text of a setting is the one that counts for its variable. -/
theorem effective?_eq_some_iff {setting text : String} :
    effective? environment assigned setting = some text ↔
      CountsFor environment assigned (variableName setting) text := by
  rw [CountsFor, ← EnvFile.value?_eq_some_iff, ← Option.or_eq_some_iff, effective?]
  generalize (environment.lookup (variableName setting)).or
    (EnvFile.value? (variableName setting) assigned) = found
  split
  · simp
  · rename_i hsome
    constructor
    · rintro rfl
      exact ⟨fun hempty => hsome (congrArg some hempty), rfl⟩
    · exact fun both => both.2

/-- No effective text means that none counts. -/
theorem effective?_eq_none_iff {setting : String} :
    effective? environment assigned setting = none ↔
      ∀ text, ¬ CountsFor environment assigned (variableName setting) text := by
  simp only [← effective?_eq_some_iff, Option.eq_none_iff_forall_ne_some, ne_eq]

/-! ## Single settings -/

/-- A setting is as the text says that counts for it, or as it is by default. -/
def IsGiven (environment : Environment) (assigned : List (String × Option String))
    (setting : String) (given : String → Prop) (default : Prop) : Prop :=
  (∀ text, CountsFor environment assigned (variableName setting) text → given text) ∧
    ((∀ text, ¬ CountsFor environment assigned (variableName setting) text) → default)

/-- That is decided by the effective text. -/
theorem isGiven_iff {setting : String} {given : String → Prop} {default : Prop} :
    IsGiven environment assigned setting given default ↔
      match effective? environment assigned setting with
      | some text => given text
      | none => default := by
  rw [IsGiven, ← effective?_eq_none_iff]
  simp only [← effective?_eq_some_iff]
  cases effective? environment assigned setting with
  | none => simp
  | some text => simp

/-- A text is loaded as the level that it names. -/
theorem loadLevel_text_eq_ok_iff {text : String} {level : Level} :
    loadLevel (.text text) = .ok level ↔ level.name = Text.upper (Text.strip text) := by
  rw [← Level.read?_eq_some_iff]
  simp only [loadLevel, loadText, bind, Except.bind]
  cases Level.read? text <;> simp

/-- A text is loaded as the whole number that it is. -/
theorem loadInt_text_eq_ok_iff {text : String} {z : Int} :
    loadInt limit (.text text) = .ok z ↔ Text.IsSettingNumeral limit text.toList z := by
  rw [← Text.readSettingInt_eq_ok_iff]
  simp only [loadInt]
  cases Text.readSettingInt limit text with
  | ok value => simp
  | error fault => cases fault <;> simp

/-- A text is loaded as the indentation that it is, unless it is negative. -/
theorem loadIndent_text_eq_ok_iff {text : String} {n : Nat} :
    loadIndent limit (.text text) = .ok n ↔ Text.IsSettingNumeral limit text.toList n := by
  rw [← loadInt_text_eq_ok_iff, loadIndent, bind_eq_ok_iff]
  constructor
  · rintro ⟨z, hload, hnat⟩
    cases z with
    | ofNat m =>
      cases hnat
      exact hload
    | negSucc m => cases hnat
  · intro hload
    exact ⟨n, hload, rfl⟩

/-! ## Fields -/

/-- The fields that are given are the settings with an effective text. -/
theorem field?_givenFields (environment : Environment) (assigned : List (String × Option String)) :
    Value.field? "log_level" (givenFields environment assigned) =
        (effective? environment assigned "LOG_LEVEL").map .text ∧
      Value.field? "indent" (givenFields environment assigned) =
        (effective? environment assigned "INDENT").map .text ∧
      Value.field? "show_tree" (givenFields environment assigned) =
        (effective? environment assigned "SHOW_TREE").map fun text => .bool (turnsOn text) := by
  rw [givenFields]
  cases effective? environment assigned "LOG_LEVEL" <;>
    cases effective? environment assigned "INDENT" <;>
    cases effective? environment assigned "SHOW_TREE" <;>
    exact ⟨rfl, rfl, rfl⟩

/-- The settings are as an environment and an environment file say, and otherwise as they are by
default. -/
structure Follows (limit : Text.DigitLimit) (environment : Environment)
    (assigned : List (String × Option String)) (settings : Settings) : Prop where
  logLevel : IsGiven environment assigned "LOG_LEVEL"
    (fun text => settings.logLevel.name = Text.upper (Text.strip text))
    (settings.logLevel = .warning)
  indent : IsGiven environment assigned "INDENT"
    (fun text => Text.IsSettingNumeral limit text.toList settings.indent) (settings.indent = 0)
  showTree : IsGiven environment assigned "SHOW_TREE"
    (fun text => settings.showTree = true ↔
      Text.lower (Text.strip text) ∈ ["1", "true", "yes", "on"])
    (settings.showTree = false)

/-- The text for the level names one, if there is such a text. -/
def LevelFits (environment : Environment) (assigned : List (String × Option String)) : Prop :=
  ∀ text, CountsFor environment assigned (variableName "LOG_LEVEL") text →
    ∃ level : Level, level.name = Text.upper (Text.strip text)

/-- The text for the indentation is a number that is not negative, if there is such a text. -/
def IndentFits (limit : Text.DigitLimit) (environment : Environment)
    (assigned : List (String × Option String)) : Prop :=
  ∀ text, CountsFor environment assigned (variableName "INDENT") text →
    ∃ n : Nat, Text.IsSettingNumeral limit text.toList n

/-- The level is loaded as it is given. -/
theorem optional_logLevel_eq_ok_iff {level : Level} :
    optional "log_level" default.logLevel loadLevel (givenFields environment assigned) = .ok level ↔
      IsGiven environment assigned "LOG_LEVEL"
        (fun text => level.name = Text.upper (Text.strip text)) (level = .warning) := by
  rw [optional_eq_ok_iff, (field?_givenFields environment assigned).1, isGiven_iff]
  cases effective? environment assigned "LOG_LEVEL" with
  | none => exact eq_comm
  | some text => exact loadLevel_text_eq_ok_iff

/-- The indentation is loaded as it is given. -/
theorem optional_indent_eq_ok_iff {n : Nat} :
    optional "indent" default.indent (loadIndent limit) (givenFields environment assigned) = .ok n ↔
      IsGiven environment assigned "INDENT" (fun text => Text.IsSettingNumeral limit text.toList n)
        (n = 0) := by
  rw [optional_eq_ok_iff, (field?_givenFields environment assigned).2.1, isGiven_iff]
  cases effective? environment assigned "INDENT" with
  | none => exact eq_comm
  | some text => exact loadIndent_text_eq_ok_iff

/-- Whether the tree is shown is loaded as it is given. -/
theorem optional_showTree_eq_ok_iff {shown : Bool} :
    optional "show_tree" default.showTree loadBool (givenFields environment assigned) = .ok shown ↔
      IsGiven environment assigned "SHOW_TREE"
        (fun text => shown = true ↔ Text.lower (Text.strip text) ∈ ["1", "true", "yes", "on"])
        (shown = false) := by
  rw [optional_eq_ok_iff, (field?_givenFields environment assigned).2.2, isGiven_iff]
  cases effective? environment assigned "SHOW_TREE" with
  | none => exact eq_comm
  | some text =>
    simp only [Option.map_some, loadBool, Except.ok.injEq, turnsOn, onWords,
      ← List.contains_iff_mem]
    exact ⟨fun h => by rw [h], fun h => (Bool.eq_iff_iff.mpr h).symm⟩

/-- The settings that are given are exactly those that follow what is said. -/
theorem ofEnvironment_eq_ok_iff {settings : Settings} :
    ofEnvironment environment assigned limit = .ok settings ↔
      settings.Follows limit environment assigned := by
  rw [ofEnvironment, loadFields]
  simp only [Checked.ap_eq_ok_iff, Checked.map_eq_ok_iff, optional_logLevel_eq_ok_iff,
    optional_indent_eq_ok_iff, optional_showTree_eq_ok_iff]
  constructor
  · rintro ⟨_, _, ⟨_, _, ⟨_, hlevel, rfl⟩, hindent, rfl⟩, hshown, rfl⟩
    exact ⟨hlevel, hindent, hshown⟩
  · rintro ⟨hlevel, hindent, hshown⟩
    exact ⟨_, _, ⟨_, _, ⟨_, hlevel, rfl⟩, hindent, rfl⟩, hshown, rfl⟩

/-! ## Faults -/

section

variable {α : Type} {key setting : String} {load : Value → Checked α}

/-- A setting can be loaded exactly if the text that counts for it can. -/
theorem exists_optional_eq_ok_iff
    (hfield : Value.field? key (givenFields environment assigned) =
      (effective? environment assigned setting).map .text) (fallback : α) :
    (∃ a, optional key fallback load (givenFields environment assigned) = .ok a) ↔
      ∀ text, CountsFor environment assigned (variableName setting) text →
        ∃ a, load (.text text) = .ok a := by
  simp only [optional_eq_ok_iff, hfield, ← effective?_eq_some_iff]
  cases effective? environment assigned setting with
  | none => simp
  | some text => simp

/-- If a text is one of the expected faults or none, a setting has one fault exactly if its text is
wrong. -/
theorem exists_faults_optional {expected : String → Cause → Prop}
    (hfield : Value.field? key (givenFields environment assigned) =
      (effective? environment assigned setting).map .text)
    (hload : ∀ text, (∃ a, load (.text text) = .ok a) ∨
      ∃ cause, expected text cause ∧ load (.text text) = .fail cause)
    (fallback : α) :
    ∃ fault : Option Fault,
      (optional key fallback load (givenFields environment assigned)).faults = fault.toList ∧
      (fault.isSome ↔ ¬ ∀ text, CountsFor environment assigned (variableName setting) text →
        ∃ a, load (.text text) = .ok a) ∧
      ∀ found ∈ fault, ∃ text cause, CountsFor environment assigned (variableName setting) text ∧
        expected text cause ∧ found = ⟨[.key key], cause⟩ := by
  simp only [faults_optional, hfield, ← effective?_eq_some_iff]
  cases effective? environment assigned setting with
  | none => exact ⟨none, rfl, by simp, by simp⟩
  | some text =>
    obtain ⟨a, hok⟩ | ⟨cause, hcause, hfail⟩ := hload text
    · exact ⟨none, by simp [hok], by simp [hok], by simp⟩
    · refine ⟨some ⟨[.key key], cause⟩, by simp [hfail, Fault.within], by simp [hfail], ?_⟩
      rintro _ ⟨⟩
      exact ⟨text, cause, rfl, hcause, rfl⟩

end

/-- A text is a level, or one fault. -/
theorem loadLevel_text_cases (text : String) :
    (∃ level, loadLevel (.text text) = .ok level) ∨
      ∃ cause, cause = .unknownLevel text ∧ loadLevel (.text text) = .fail cause := by
  simp only [loadLevel, loadText, bind, Except.bind]
  cases Level.read? text with
  | none => exact .inr ⟨_, rfl, rfl⟩
  | some level => exact .inl ⟨level, rfl⟩

/-- What can be wrong with the text of an indentation. -/
def indentCauses : List Cause :=
  [.unreadableInt, .tooManyDigits, .negative]

/-- A text is an indentation, or one fault. -/
theorem loadIndent_text_cases (limit : Text.DigitLimit) (text : String) :
    (∃ n, loadIndent limit (.text text) = .ok n) ∨
      ∃ cause ∈ indentCauses, loadIndent limit (.text text) = .fail cause := by
  simp only [loadIndent, loadInt, bind, Except.bind]
  cases Text.readSettingInt limit text with
  | ok z =>
    cases z with
    | ofNat n => exact .inl ⟨n, rfl⟩
    | negSucc n => exact .inr ⟨.negative, by decide, rfl⟩
  | error fault =>
    cases fault with
    | malformed => exact .inr ⟨.unreadableInt, by decide, rfl⟩
    | tooLong => exact .inr ⟨.tooManyDigits, by decide, rfl⟩

/-- What is reported: one fault for each of the two settings if it is wrong, that of the level
first. -/
def Reports (limit : Text.DigitLimit) (environment : Environment)
    (assigned : List (String × Option String)) (faults : List Fault) : Prop :=
  ∃ level indent : Option Fault, faults = level.toList ++ indent.toList ∧
    (level.isSome ↔ ¬ LevelFits environment assigned) ∧
    (indent.isSome ↔ ¬ IndentFits limit environment assigned) ∧
    (∀ fault ∈ level, ∃ text, CountsFor environment assigned (variableName "LOG_LEVEL") text ∧
      fault = ⟨[.key "log_level"], .unknownLevel text⟩) ∧
    ∀ fault ∈ indent, ∃ cause ∈ indentCauses, fault = ⟨[.key "indent"], cause⟩

/-- The level can be loaded exactly if its text names one. -/
theorem levelFits_iff :
    LevelFits environment assigned ↔
      ∀ text, CountsFor environment assigned (variableName "LOG_LEVEL") text →
        ∃ level, loadLevel (.text text) = .ok level := by
  simp only [LevelFits, loadLevel_text_eq_ok_iff]

/-- The indentation can be loaded exactly if its text is a number that is not negative. -/
theorem indentFits_iff :
    IndentFits limit environment assigned ↔
      ∀ text, CountsFor environment assigned (variableName "INDENT") text →
        ∃ n, loadIndent limit (.text text) = .ok n := by
  simp only [IndentFits, loadIndent_text_eq_ok_iff]

/-- The tree never keeps the settings from being loaded. -/
theorem exists_optional_showTree (environment : Environment)
    (assigned : List (String × Option String)) :
    ∃ shown, optional "show_tree" default.showTree loadBool (givenFields environment assigned) =
      .ok shown := by
  rw [Data.optional, (field?_givenFields environment assigned).2.2]
  cases effective? environment assigned "SHOW_TREE" with
  | none => exact ⟨_, rfl⟩
  | some text => exact ⟨turnsOn text, rfl⟩

/-- Settings are given exactly if neither of the two texts is wrong. -/
theorem exists_ofEnvironment_eq_ok_iff :
    (∃ settings, ofEnvironment environment assigned limit = .ok settings) ↔
      LevelFits environment assigned ∧ IndentFits limit environment assigned := by
  have hfields := field?_givenFields environment assigned
  rw [levelFits_iff, indentFits_iff, ← exists_optional_eq_ok_iff hfields.1 default.logLevel,
    ← exists_optional_eq_ok_iff hfields.2.1 default.indent]
  simp only [ofEnvironment, loadFields, Checked.ap_eq_ok_iff, Checked.map_eq_ok_iff]
  constructor
  · rintro ⟨_, _, _, ⟨_, _, ⟨level, hlevel, -⟩, hindent, -⟩, -⟩
    exact ⟨⟨level, hlevel⟩, ⟨_, hindent⟩⟩
  · rintro ⟨⟨level, hlevel⟩, ⟨n, hindent⟩⟩
    obtain ⟨shown, hshown⟩ := exists_optional_showTree environment assigned
    exact ⟨_, _, _, ⟨_, _, ⟨level, hlevel, rfl⟩, hindent, rfl⟩, hshown, rfl⟩

/-- A failure reports the settings that are wrong. -/
theorem reports_of_ofEnvironment_eq_error {faults : List Fault}
    (h : ofEnvironment environment assigned limit = .error faults) :
    Reports limit environment assigned faults := by
  have hfields := field?_givenFields environment assigned
  obtain ⟨level, hlevel, hlevelFits, hlevelCause⟩ :=
    exists_faults_optional hfields.1 loadLevel_text_cases default.logLevel
  obtain ⟨indent, hindent, hindentFits, hindentCause⟩ :=
    exists_faults_optional hfields.2.1 (loadIndent_text_cases limit) default.indent
  obtain ⟨shown, hshown⟩ := exists_optional_showTree environment assigned
  rw [← levelFits_iff] at hlevelFits
  rw [← indentFits_iff] at hindentFits
  refine ⟨level, indent, ?_, hlevelFits, hindentFits, ?_, ?_⟩
  · have hfaults : faults = (ofEnvironment environment assigned limit).faults := by
      rw [h, Checked.faults_error]
    rw [hfaults, ofEnvironment, loadFields, Checked.faults_ap, Checked.faults_ap,
      Checked.faults_map, hlevel, hindent, hshown, Checked.faults_ok, List.append_nil]
  · intro fault hfault
    obtain ⟨text, _, hcounts, rfl, rfl⟩ := hlevelCause fault hfault
    exact ⟨text, hcounts, rfl⟩
  · intro fault hfault
    obtain ⟨_, cause, -, hcause, rfl⟩ := hindentCause fault hfault
    exact ⟨cause, hcause, rfl⟩

/-! ## Environment files -/

/-- The environment file at a path, with what it assigns and the notes of what could not be read in
it. Where none is read, it assigns nothing. -/
inductive FileGives (environment : Environment) (lookUp : String → Lookup) (path : String) :
    List (String × Option String) → String → Prop where
  | unread (hreads : readsFiles environment = false) : FileGives environment lookUp path [] ""
  | absent {problem : FileProblem} (hreads : readsFiles environment = true)
      (hpath : '\x00' ∉ path.toList) (hnone : (lookUp path).regularBytes = .error problem) :
      FileGives environment lookUp path [] ""
  | file {bytes : List UInt8} {text : String} {assigned : List (String × Option String)}
      (hreads : readsFiles environment = true) (hpath : '\x00' ∉ path.toList)
      (hbytes : (lookUp path).regularBytes = .ok bytes) (htext : fileText? bytes = some text)
      (hassigned : assigned =
        EnvFile.expand environment (EnvFile.assignments (EnvFile.statements text)))
      (hsettable : (newVariables environment assigned).fault? = none) :
      FileGives environment lookUp path assigned (EnvFile.notes (EnvFile.statements text))

/-- Among entries with one key each, made from a list of keys, a key has its own entry. -/
theorem lookup_filterMap_keys {value : String → Option String} (keys : List String)
    (name : String) :
    (keys.filterMap fun key => (value key).map fun found => (key, found)).lookup name =
      if name ∈ keys then value name else none := by
  induction keys with
  | nil => rfl
  | cons key keys ih =>
    by_cases hname : name = key
    · subst hname
      cases hvalue : value name with
      | none => simp [hvalue, ih]
      | some found => simp [hvalue]
    · have hbeq : (name == key) = false := by simpa using hname
      cases hvalue : value key with
      | none => simp [hvalue, ih, hname]
      | some found => simp [hvalue, ih, hname, List.lookup_cons, hbeq]

/-- A file sets the variables that it assigns and that are not set already. -/
theorem lookup_newVariables (environment : Environment) (assigned : List (String × Option String))
    (name : String) :
    (newVariables environment assigned).lookup name =
      if (environment.lookup name).isSome then none else EnvFile.value? name assigned := by
  have hentries : newVariables environment assigned =
      (assigned.map Prod.fst).eraseDups.filterMap fun key =>
        (if (environment.lookup key).isSome then none else EnvFile.value? key assigned).map
          fun value => (key, value) := by
    refine congrArg (List.filterMap · _) (funext fun key => ?_)
    split <;> rfl
  rw [hentries, lookup_filterMap_keys]
  split
  · rfl
  next habsent =>
    -- a key that is never assigned has no value
    have hnone : EnvFile.value? name assigned = none := by
      rw [Option.eq_none_iff_forall_ne_some]
      intro text hvalue
      obtain ⟨before, after, rfl, -⟩ := EnvFile.value?_eq_some_iff.mp hvalue
      exact habsent (List.mem_eraseDups.mpr (by simp))
    simp [hnone]

/-- What a file assigns counts as much as if its variables were set. -/
theorem ofEnvironment_append_newVariables :
    ofEnvironment (environment ++ newVariables environment assigned) [] limit =
      ofEnvironment environment assigned limit := by
  have heffective : effective? (environment ++ newVariables environment assigned) [] =
      effective? environment assigned := by
    funext setting
    have hlookup : ((environment ++ newVariables environment assigned).lookup
        (variableName setting)).or (EnvFile.value? (variableName setting) []) =
        (environment.lookup (variableName setting)).or
          (EnvFile.value? (variableName setting) assigned) := by
      rw [List.lookup_append, lookup_newVariables]
      cases environment.lookup (variableName setting) <;> simp [EnvFile.value?, EnvFile.found?]
    rw [effective?, hlookup, effective?]
  rw [ofEnvironment, ofEnvironment, givenFields, givenFields, heffective]

/-- The environment that a file is loaded into has the variables that the file sets. -/
theorem FileGives.withFile_eq {lookUp : String → Lookup} {path notes : String}
    (hfile : FileGives environment lookUp path assigned notes) :
    environment.withFile lookUp path =
      .ok (environment ++ newVariables environment assigned, notes) := by
  have hnone : newVariables environment [] = [] := rfl
  unfold Environment.withFile
  cases hfile with
  | unread hreads => simp [hreads, hnone]
  | absent hreads hpath hproblem => simp [hreads, hpath, hproblem, hnone]
  | file hreads hpath hbytes htext hassigned hsettable =>
    subst hassigned
    simp [hreads, hpath, hbytes, htext, Environment.withFileText, hsettable]

/-- The settings that are read are those of the environment and of what the file assigns. -/
theorem FileGives.read_eq {lookUp : String → Lookup} {path notes : String}
    (hfile : FileGives environment lookUp path assigned notes) :
    read environment lookUp path limit =
      ((ofEnvironment environment assigned limit).mapError .invalid).map (·, notes) := by
  rw [read, hfile.withFile_eq]
  simp only [bind, Except.bind, ofEnvironment_append_newVariables]
  cases ofEnvironment environment assigned limit <;> rfl

/-! ## Main result -/

/-- Settings are given exactly if the text that counts for the level names one and the text that
counts for the indentation is a number that is not negative and not too long. They are then as the
texts say, with the defaults for what no text is given for; and otherwise each of the two that is
wrong is reported once. This is what is read from an environment and an environment file. -/
theorem settings_follow_environment (limit : Text.DigitLimit) (environment : Environment)
    (assigned : List (String × Option String)) :
    ((∃ settings, ofEnvironment environment assigned limit = .ok settings) ↔
      LevelFits environment assigned ∧ IndentFits limit environment assigned) ∧
    (∀ settings, ofEnvironment environment assigned limit = .ok settings →
      settings.Follows limit environment assigned) ∧
    (∀ faults, ofEnvironment environment assigned limit = .error faults →
      Reports limit environment assigned faults) ∧
    ∀ lookUp path notes, FileGives environment lookUp path assigned notes →
      read environment lookUp path limit =
        ((ofEnvironment environment assigned limit).mapError .invalid).map (·, notes) := by
  refine ⟨exists_ofEnvironment_eq_ok_iff, ?_, ?_, ?_⟩
  · intro settings hok
    exact ofEnvironment_eq_ok_iff.mp hok
  · intro faults herror
    exact reports_of_ofEnvironment_eq_error herror
  · intro lookUp path notes hfile
    exact hfile.read_eq

/-- An environment in which the level is set to nothing. -/
def layeredEnvironment : Environment :=
  [(variableName "LOG_LEVEL", "")]

/-- An environment file that assigns the indentation twice. -/
def layeredFile : List (String × Option String) :=
  [(variableName "LOG_LEVEL", some "debug"), (variableName "INDENT", some "x"),
   (variableName "SHOW_TREE", some " YES "), (variableName "INDENT", some " +0__1_2.00\t")]

/-- The level stays as it is by default, and the last indentation counts. -/
theorem layeredSettings_follow :
    LevelFits layeredEnvironment layeredFile ∧
      IndentFits Text.digitsAlone layeredEnvironment layeredFile ∧
      (⟨.warning, 12, true⟩ : Settings).Follows Text.digitsAlone layeredEnvironment
        layeredFile := by
  have hok : ofEnvironment layeredEnvironment layeredFile = .ok ⟨.warning, 12, true⟩ := by
    decide +kernel
  have hall := settings_follow_environment Text.digitsAlone layeredEnvironment layeredFile
  obtain ⟨hlevel, hindent⟩ := hall.1.mp ⟨_, hok⟩
  exact ⟨hlevel, hindent, hall.2.1 _ hok⟩

/-- A number in the usual form: blanks around it, a sign, digits with single underscores between
them and a fraction of zeros. -/
inductive IsUsualNumeral : List Char → Int → Prop where
  | intro {front sign digits fraction back : List Char} {negative : Bool} {values : List Nat}
      (hfront : ∀ c ∈ front, Text.isBlank c) (hsign : Text.IsSign negative sign)
      (hdigits : Text.readDigits? Text.asciiDigit? digits = some values)
      (hfraction : Text.IsZeroFraction fraction) (hback : ∀ c ∈ back, Text.isBlank c) :
      IsUsualNumeral (front ++ (sign ++ (digits ++ fraction)) ++ back)
        (Text.withSign negative (Text.ofDigits values))

/-- The text with two underscores in a row is not in the usual form. -/
theorem not_isUsualNumeral_doubled {z : Int} : ¬ IsUsualNumeral ['0', '_', '_', '8'] z := by
  intro husual
  generalize hcs : ['0', '_', '_', '8'] = cs at husual
  obtain @⟨front, sign, digits, fraction, back, _, _, hfront, hsign, hdigits, hfraction, hback⟩ :=
    husual
  have hchars : ∀ c ∈ front ++ (sign ++ (digits ++ fraction)) ++ back,
      c ∈ ['0', '_', '_', '8'] := by
    rw [hcs]
    exact fun c hc => hc
  simp only [List.forall_mem_append] at hchars
  obtain ⟨⟨hfrontChars, hsignChars, -, hfractionChars⟩, hbackChars⟩ := hchars
  -- it holds no blank, no sign and no point, so that it would have to be digits
  have hblank {part : List Char} (hpart : ∀ c ∈ part, Text.isBlank c)
      (hchars : ∀ c ∈ part, c ∈ ['0', '_', '_', '8']) : part = [] := by
    have hnone : ∀ c ∈ ['0', '_', '_', '8'], Text.isBlank c = false := by
      simp only [List.forall_mem_cons]
      exact ⟨rfl, rfl, rfl, rfl, List.forall_mem_nil _⟩
    rw [List.eq_nil_iff_forall_not_mem]
    intro c hc
    have hc' := hnone c (hchars c hc)
    rw [hpart c hc] at hc'
    cases hc'
  obtain rfl := hblank hfront hfrontChars
  obtain rfl := hblank hback hbackChars
  obtain rfl : sign = [] := by
    cases hsign with
    | none => rfl
    | plus => exact absurd (hsignChars '+' List.mem_cons_self) (by decide)
    | minus => exact absurd (hsignChars '-' List.mem_cons_self) (by decide)
  obtain rfl : fraction = [] := by
    obtain rfl | ⟨zeros, rfl, -⟩ := hfraction
    · rfl
    · exact absurd (hfractionChars '.' List.mem_cons_self) (by decide)
  rw [List.nil_append, List.nil_append, List.append_nil, List.append_nil] at hcs
  rw [← hcs] at hdigits
  cases hdigits

/-- An indentation with two underscores in a row. -/
def doubledUnderscore : Environment :=
  [(variableName "INDENT", "0__8")]

/-- It is taken all the same, since a zero stands in front of them. -/
theorem doubledUnderscore_is_taken :
    ofEnvironment doubledUnderscore [] = .ok ⟨.warning, 8, false⟩ ∧
      ¬ ∀ text, CountsFor doubledUnderscore [] (variableName "INDENT") text →
        ∃ n : Nat, IsUsualNumeral text.toList n := by
  refine ⟨by decide +kernel, ?_⟩
  intro husual
  obtain ⟨n, hn⟩ := husual "0__8" (effective?_eq_some_iff.mp (by decide +kernel))
  exact not_isUsualNumeral_doubled hn

end Settings

end JavaOutline
