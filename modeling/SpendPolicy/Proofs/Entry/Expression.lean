import SpendPolicy.Proofs.Basic
import SpendPolicy.Proofs.Composition.Arity
import SpendPolicy.Proofs.Entry.Refreshing

set_option autoImplicit false

namespace SpendPolicy

theorem Config.expression_filled {config : Config} {s : Text} (written : config.expression = .ok s) :
    s ≠ [] := by
  unfold Config.expression at written
  split at written
  · next checked =>
    cases written
    cases config with
    | unrecognised => cases checked
    | _ => simp [Config.form, Form.key, Form.thresh, Form.after, Form.older, Form.and, Form.or, Form.call]
  · cases written

namespace Entry

variable {v : Validator} {e : Entry} {cause : EntryError} {expression : Option Text}

structure Expressed (e : Entry) : Prop where
  generated : ∀ expression, e.generate = .ok expression → e.expression = expression
  failed : ∀ cause, e.generate = .error cause → e.expression = none
  filled : e.expression ≠ some []

@[simp] theorem expression_withSelection (b : Bool) (e : Entry) :
    (e.withSelection b).expression = e.expression := by
  simp [withSelection, Entry.expression]

theorem Expressed.withSelection (expressed : e.Expressed) (b : Bool) : (e.withSelection b).Expressed := by
  have again : (e.withSelection b).generate = e.generate := generate_modifyHeader rfl
  constructor
  · simpa only [expression_withSelection, again] using expressed.generated
  · simpa only [expression_withSelection, again] using expressed.failed
  · simpa only [expression_withSelection] using expressed.filled

theorem expression_refresh_of_error (failed : e.generate = .error cause) :
    (v.refresh e).expression = e.expression := by
  rw [Validator.refresh_of_error failed]
  simp [withValidation, Entry.expression]

theorem expression_refresh_of_ok (generated : e.generate = .ok expression) :
    (v.refresh e).expression = expression := by
  rw [Validator.refresh_of_ok generated]
  simp [withValidation, withExpression, Entry.expression]

theorem expressed_refresh (failed : ∀ cause, e.generate = .error cause → e.expression = none)
    (filled : e.generate ≠ .ok (some [])) : (v.refresh e).Expressed := by
  have again := v.generate_refresh e
  constructor
  · rw [again]
    exact fun _ generated => expression_refresh_of_ok generated
  · rw [again]
    exact fun cause fails => (expression_refresh_of_error fails).trans (failed cause fails)
  · cases outcome : e.generate with
    | error cause =>
      rw [expression_refresh_of_error outcome, failed cause outcome]
      exact nofun
    | ok expression =>
      rw [expression_refresh_of_ok outcome]
      rintro rfl
      exact filled outcome

theorem map_mapError_eq_ok_iff {ε δ α β : Type} {outcome : Except ε α} {f : α → β} {g : ε → δ} {b : β} :
    (outcome.map f).mapError g = .ok b ↔ ∃ a, outcome = .ok a ∧ f a = b :=
  Except.mapError_eq_ok_iff.trans Except.map_eq_ok_iff

theorem generate_configured_filled (header : EntryHeader) (config : Config) :
    (configured header config).generate ≠ .ok (some []) := by
  intro generated
  obtain ⟨s, written, same⟩ := map_mapError_eq_ok_iff.mp generated
  exact Config.expression_filled written (Option.some.inj same)

section Composed

variable {header : EntryHeader} {kind : CompositionKind} {constituents : List Entry} {threshold : Option Int}

theorem generate_composed_eq_ok_iff :
    (composed header kind constituents threshold).generate = .ok expression ↔
      ∃ s, Composition.compose kind (constituents.map Entry.expression) threshold = .ok s ∧
        some s = expression :=
  map_mapError_eq_ok_iff

theorem generate_composed_filled :
    (composed header kind constituents threshold).generate ≠ .ok (some []) := by
  intro generated
  obtain ⟨s, made, same⟩ := generate_composed_eq_ok_iff.mp generated
  exact Composition.compose_filled made (Option.some.inj same)

theorem Expressed.composed (expressed : (composed header kind constituents threshold).Expressed)
    (admits : kind.Admits threshold constituents.length) (each : ∀ c ∈ constituents, c.Expressed) :
    (header.expression = none ↔ ∃ c ∈ constituents, c.expression = none) ∧
      ∀ s, header.expression = some s →
        Composition.compose kind (constituents.map Entry.expression) threshold = .ok s := by
  have filled : some [] ∉ constituents.map Entry.expression := by
    intro member
    obtain ⟨c, inside, empty⟩ := List.mem_map.mp member
    exact (each c inside).filled empty
  have succeeds := Composition.exists_compose_iff (by simpa using admits) filled
  have missing : none ∈ constituents.map Entry.expression ↔ ∃ c ∈ constituents, c.expression = none :=
    List.mem_map
  rw [← missing]
  cases outcome : (Entry.composed header kind constituents threshold).generate with
  | error cause =>
    have own : header.expression = none := expressed.failed cause outcome
    have fails : ¬∃ s, Composition.compose kind (constituents.map Entry.expression) threshold = .ok s := by
      rintro ⟨s, made⟩
      cases outcome.symm.trans (generate_composed_eq_ok_iff.mpr ⟨s, made, rfl⟩)
    refine ⟨iff_of_true own ?_, fun s has => ?_⟩
    · exact Decidable.not_not.mp fun present => fails (succeeds.mpr present)
    · cases own.symm.trans has
  | ok expression =>
    have own : header.expression = expression := expressed.generated expression outcome
    obtain ⟨s, made, rfl⟩ := generate_composed_eq_ok_iff.mp outcome
    refine ⟨iff_of_false ?_ (succeeds.mp ⟨s, made⟩), fun s' has => ?_⟩
    · rw [own]
      exact nofun
    · cases own.symm.trans has
      exact made

end Composed

end Entry

end SpendPolicy
