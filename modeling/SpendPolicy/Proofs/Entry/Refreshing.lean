import SpendPolicy.Descriptor.Basic
import SpendPolicy.Entry

set_option autoImplicit false

namespace SpendPolicy

variable {v : Validator} {e : Entry} {cause : EntryError} {expression : Option Text}

namespace Entry

def constituents : Entry → List Entry
  | .configured _ _ | .text _ => []
  | .composed _ _ constituents _ => constituents

@[simp] theorem header_modifyHeader (f : EntryHeader → EntryHeader) (e : Entry) :
    (e.modifyHeader f).header = f e.header := by
  cases e <;> rfl

@[simp] theorem constituents_modifyHeader (f : EntryHeader → EntryHeader) (e : Entry) :
    (e.modifyHeader f).constituents = e.constituents := by
  cases e <;> rfl

@[simp] theorem modifyHeader_modifyHeader (f g : EntryHeader → EntryHeader) (e : Entry) :
    (e.modifyHeader f).modifyHeader g = e.modifyHeader (g ∘ f) := by
  cases e <;> rfl

theorem modifyHeader_eq_self {f : EntryHeader → EntryHeader} (same : f e.header = e.header) :
    e.modifyHeader f = e := by
  cases e with
  | configured header config => exact congrArg (configured · config) same
  | text header => exact congrArg text same
  | composed header kind constituents threshold =>
    exact congrArg (composed · kind constituents threshold) same

@[simp] theorem id_withSelection (b : Bool) (e : Entry) : (e.withSelection b).id = e.id := by
  simp [withSelection, id]

@[simp] theorem selected_withSelection (b : Bool) (e : Entry) : (e.withSelection b).selected = b := by
  simp [withSelection, selected]

@[simp] theorem withSelection_withSelection (a b : Bool) (e : Entry) :
    (e.withSelection a).withSelection b = e.withSelection b := by
  simp [withSelection, Function.comp_def]

theorem withSelection_selected (e : Entry) : e.withSelection e.selected = e :=
  modifyHeader_eq_self rfl

theorem generate_modifyHeader {f : EntryHeader → EntryHeader}
    (kept : (f e.header).expression = e.header.expression) : (e.modifyHeader f).generate = e.generate := by
  cases e with
  | configured | composed => rfl
  | text header => exact congrArg Except.ok kept

theorem generate_withExpression (generated : e.generate = .ok expression) :
    (e.withExpression expression).generate = .ok expression := by
  cases e with
  | configured | composed => exact generated
  | text => rfl

end Entry

namespace Validator

theorem trim_ne_nil_of_valid {s : Text} (valid : (v.validate s).isValid = true) : s.trim ≠ [] := by
  intro empty
  simp [validate, prepare, empty, Verdict.isValid] at valid

theorem refresh_of_error (failed : e.generate = .error cause) :
    v.refresh e = e.withValidation (some false) (some cause.message) := by
  simp only [refresh, failed]

theorem refresh_of_ok (generated : e.generate = .ok expression) :
    v.refresh e = (e.withExpression expression).withValidation
      (some (v.validate (expression.getD [])).isValid)
      ((v.validate (expression.getD [])).refusal?.map Refusal.message) := by
  simp only [refresh, generated]

theorem exists_refresh_eq (v : Validator) (e : Entry) : ∃ f, v.refresh e = e.modifyHeader f := by
  cases generated : e.generate with
  | error cause => exact ⟨_, refresh_of_error generated⟩
  | ok expression => exact ⟨_, (refresh_of_ok generated).trans (Entry.modifyHeader_modifyHeader _ _ e)⟩

structure Keeps (e fresh : Entry) : Prop where
  id : fresh.id = e.id
  constituents : fresh.constituents = e.constituents
  selected : fresh.selected = e.selected
  outcome : ∃ valid, fresh.header.isValid = some valid

theorem refresh_keeps (v : Validator) (e : Entry) : Keeps e (v.refresh e) := by
  cases generated : e.generate with
  | error cause =>
    rw [refresh_of_error generated]
    constructor <;> simp [Entry.id, Entry.selected, Entry.withValidation]
  | ok expression =>
    rw [refresh_of_ok generated]
    constructor <;> simp [Entry.id, Entry.selected, Entry.withExpression, Entry.withValidation]

theorem refresh_withSelection (v : Validator) (b : Bool) (e : Entry) :
    v.refresh (e.withSelection b) = (v.refresh e).withSelection b := by
  have same : (e.withSelection b).generate = e.generate := Entry.generate_modifyHeader rfl
  cases generated : e.generate with
  | error cause =>
    rw [refresh_of_error generated, refresh_of_error (same.trans generated)]
    simp [Entry.withSelection, Entry.withValidation, Function.comp_def]
  | ok expression =>
    rw [refresh_of_ok generated, refresh_of_ok (same.trans generated)]
    simp [Entry.withSelection, Entry.withExpression, Entry.withValidation, Function.comp_def]

theorem generate_refresh (v : Validator) (e : Entry) : (v.refresh e).generate = e.generate := by
  cases generated : e.generate with
  | error cause =>
    -- The old expression is kept, and it fails again.
    rw [refresh_of_error generated, Entry.withValidation, Entry.generate_modifyHeader rfl, generated]
  | ok expression =>
    rw [refresh_of_ok generated, Entry.withValidation, Entry.generate_modifyHeader rfl,
      Entry.generate_withExpression generated]

theorem refresh_refresh (v : Validator) (e : Entry) : v.refresh (v.refresh e) = v.refresh e := by
  have again := v.generate_refresh e
  cases generated : e.generate with
  | error cause =>
    rw [refresh_of_error (again.trans generated), refresh_of_error generated]
    simp [Entry.withValidation, Function.comp_def]
  | ok expression =>
    rw [refresh_of_ok (again.trans generated), refresh_of_ok generated]
    simp [Entry.withExpression, Entry.withValidation, Function.comp_def]

theorem expression_of_valid (fresh : v.refresh e = e) (valid : e.header.isValid = some true) :
    ∃ s, e.generate = .ok (some s) ∧ e.expression = some s ∧ (v.validate s).isValid = true := by
  cases generated : e.generate with
  | error cause =>
    rw [← fresh, refresh_of_error generated] at valid
    simp [Entry.withValidation] at valid
  | ok expression =>
    have written := fresh
    rw [refresh_of_ok generated] at written
    have outcome : (v.validate (expression.getD [])).isValid = true := by
      rw [← written] at valid
      simpa [Entry.withValidation] using valid
    have kept : e.expression = expression := by
      rw [← written]
      simp [Entry.expression, Entry.withExpression, Entry.withValidation]
    cases expression with
    | none => exact absurd rfl (trim_ne_nil_of_valid outcome)
    | some s => exact ⟨s, rfl, kept, outcome⟩

theorem exists_descriptor_iff {s : Text} (plain : v.settings.checksum = false) :
    (∃ text, v.descriptor s OutputType.wsh.name = .ok text) ↔ (v.validate s).isValid = true := by
  have supported : OutputType.supported OutputType.wsh.name = .ok .wsh := rfl
  unfold descriptor
  cases v.validate s with
  | invalid refusal => simp [supported, Verdict.isValid]
  | valid compiled keyMap =>
    simp [supported, Descriptor.assemble, Descriptor.withChecksum, plain, Verdict.isValid]

end Validator

end SpendPolicy
