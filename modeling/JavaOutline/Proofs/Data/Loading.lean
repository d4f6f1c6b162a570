import JavaOutline.Data.Load
import JavaOutline.Proofs.Except

/-!
# What a load accepts

A load that is put together from others succeeds exactly if each of them does and no fault is
added, and what it gives is then made of what they give. The place at which faults are shown plays
no part in this. The laws below say so for each way of putting loads together, and say which values
the loads of single values accept.
-/

namespace JavaOutline.Data

variable {α β : Type}

namespace Checked

/-- A function is applied to what is loaded. -/
@[simp] theorem map_eq_ok_iff {f : α → β} {loaded : Checked α} {b : β} :
    loaded.map f = .ok b ↔ ∃ a, loaded = .ok a ∧ f a = b := by
  cases loaded with
  | error faults => simp [map, Except.map]
  | ok a => simp [map, Except.map]

/-- A loaded function is applied if its argument is loaded too. -/
@[simp] theorem ap_eq_ok_iff {function : Checked (α → β)} {argument : Checked α} {b : β} :
    function.ap argument = .ok b ↔ ∃ f a, function = .ok f ∧ argument = .ok a ∧ f a = b := by
  cases function with
  | error faults => cases argument <;> simp [ap]
  | ok f => cases argument <;> simp [ap]

/-- A load stands if no fault is added to it. -/
@[simp] theorem withFaults_eq_ok_iff {loaded : Checked α} {more : List Fault} {a : α} :
    loaded.withFaults more = .ok a ↔ loaded = .ok a ∧ more = [] := by
  cases loaded with
  | error faults => simp [withFaults]
  | ok b => cases more <;> simp [withFaults]

/-- Where faults are seen from does not change what is loaded. -/
@[simp] theorem within_eq_ok_iff {place : Place} {loaded : Checked α} {a : α} :
    loaded.within place = .ok a ↔ loaded = .ok a :=
  mapError_eq_ok_iff

/-- A name check passes in a load as it does alone. -/
@[simp] theorem ofName_eq_ok_iff {checked : Except NameFault α} {a : α} :
    ofName checked = .ok a ↔ checked = .ok a :=
  mapError_eq_ok_iff

/-- A fault loads nothing. -/
@[simp] theorem fail_ne_ok {cause : Cause} {a : α} : fail cause ≠ .ok a := by
  simp [fail]

end Checked

/-! ## Single values -/

/-- A text is loaded as it is, and nothing else is. -/
@[simp] theorem loadText_eq_ok_iff {value : Value} {s : String} :
    loadText value = .ok s ↔ value = .text s := by
  cases value <;> simp [loadText]

/-- Exactly the texts that are names are loaded as names. -/
@[simp] theorem loadName_eq_ok_iff {value : Value} {name : String} :
    loadName value = .ok name ↔ value = .text name ∧ IsName name := by
  rw [loadName, bind_eq_ok_iff]
  constructor
  · rintro ⟨s, htext, hname⟩
    rw [Checked.ofName_eq_ok_iff, checkName_eq_ok_iff] at hname
    obtain ⟨hname, rfl⟩ := hname
    exact ⟨loadText_eq_ok_iff.mp htext, hname⟩
  · rintro ⟨rfl, hname⟩
    refine ⟨name, rfl, ?_⟩
    rw [Checked.ofName_eq_ok_iff, checkName_eq_ok_iff]
    exact ⟨hname, rfl⟩

/-- Texts are loaded as they are, and no other items of a list are. -/
theorem loadItems_loadText_eq_ok_iff {index : Nat} {items : List Value} {texts : List String} :
    loadItems loadText index items = .ok texts ↔ items = texts.map .text := by
  induction items generalizing index texts with
  | nil => cases texts <;> simp [loadItems]
  | cons item items ih =>
    rw [loadItems, Checked.ap_eq_ok_iff]
    simp only [Checked.map_eq_ok_iff, Checked.within_eq_ok_iff, loadText_eq_ok_iff, ih]
    constructor
    · rintro ⟨_, rest, ⟨first, rfl, rfl⟩, rfl, rfl⟩
      rfl
    · intro hitems
      cases texts with
      | nil => cases hitems
      | cons first rest =>
        rw [List.map_cons, List.cons.injEq] at hitems
        exact ⟨_, rest, ⟨first, hitems.1, rfl⟩, hitems.2, rfl⟩

/-- Exactly the lists of texts that are dotted names are loaded as segments. -/
@[simp] theorem loadSegments_eq_ok_iff {value : Value} {segments : List String} :
    loadSegments value = .ok segments ↔
      value = .list (segments.map .text) ∧ IsDottedName segments := by
  have htexts (texts : List String) :
      loadTexts value = .ok texts ↔ value = .list (texts.map .text) := by
    cases value <;> simp [loadTexts, loadItems_loadText_eq_ok_iff]
  rw [loadSegments, bind_eq_ok_iff]
  constructor
  · rintro ⟨texts, hlist, hsegments⟩
    rw [Checked.ofName_eq_ok_iff, checkSegments_eq_ok_iff] at hsegments
    obtain ⟨hsegments, rfl⟩ := hsegments
    exact ⟨(htexts texts).mp hlist, hsegments⟩
  · rintro ⟨hlist, hsegments⟩
    refine ⟨segments, (htexts segments).mpr hlist, ?_⟩
    rw [Checked.ofName_eq_ok_iff, checkSegments_eq_ok_iff]
    exact ⟨hsegments, rfl⟩

/-! ## Fields -/

/-- A field that has to be there is loaded from its value. -/
theorem required_eq_ok_iff {key : String} {load : Value → Checked α} {fields : Fields} {a : α} :
    required key load fields = .ok a ↔
      ∃ value, Value.field? key fields = some value ∧ load value = .ok a := by
  unfold required
  cases Value.field? key fields <;> simp

/-- A field with a default is loaded from its value, if it is there. -/
theorem optional_eq_ok_iff {key : String} {default : α} {load : Value → Checked α} {fields : Fields}
    {a : α} :
    Data.optional key default load fields = .ok a ↔
      match Value.field? key fields with
      | none => default = a
      | some value => load value = .ok a := by
  unfold Data.optional
  cases Value.field? key fields <;> simp

end JavaOutline.Data
