import SpendPolicy.Lowering
import SpendPolicy.Proofs.Registry.Calls

set_option autoImplicit false

namespace SpendPolicy

variable {v : Validator} {e : Entry} {entries after : List Entry}

structure Entry.Fresh (v : Validator) (e : Entry) : Prop where
  own : v.refresh e = e
  constituents : ∀ c ∈ e.constituents, v.refresh c = c

namespace Entry

theorem fresh_refresh (constituents : ∀ c ∈ e.constituents, v.refresh c = c) : (v.refresh e).Fresh v where
  own := v.refresh_refresh e
  constituents := by
    rw [(v.refresh_keeps e).constituents]
    exact constituents

theorem Fresh.withSelection (fresh : e.Fresh v) (b : Bool) : (e.withSelection b).Fresh v where
  own := by rw [v.refresh_withSelection, fresh.own]
  constituents := by
    rw [Entry.withSelection, constituents_modifyHeader]
    exact fresh.constituents

end Entry

namespace Registry

theorem fresh_composition {stamp : Stamp} {kind : CompositionKind} {threshold : Option Int}
    {selected : List Entry} (each : ∀ e ∈ selected, e.Fresh v) :
    (v.refresh (composition stamp kind threshold selected)).Fresh v := by
  apply Entry.fresh_refresh
  intro c member
  obtain ⟨e, chosen, rfl⟩ := List.mem_map.mp member
  exact ((each e chosen).withSelection false).own

theorem Effect.fresh {call : Call} {reply : Reply} (each : ∀ e ∈ entries, e.Fresh v)
    (effect : Effect v entries call reply after) : ∀ e ∈ after, e.Fresh v := by
  intro e member
  cases effect.origin member with
  | kept stored b => exact (each _ stored).withSelection b
  | refreshed stored => exact Entry.fresh_refresh (each _ stored).constituents
  | made makes =>
    cases makes with
    | configured | text => exact Entry.fresh_refresh (List.forall_mem_nil _)
    | composed => exact fresh_composition fun e chosen => each e (List.mem_filter.mp chosen).1

theorem fresh_of_mem_run (calls : List Call) : ∀ e ∈ (run v calls).entries, e.Fresh v :=
  run_induction (List.forall_mem_nil _) (fun _ _ _ _ each effect => effect.fresh each) calls

section Fixed

variable {r : Registry} {id : Text}

theorem revalidate_of_fresh (found : Finds r.entries id e) (fresh : v.refresh e = e) :
    r.revalidate v id = .ok (e, r) := by
  unfold revalidate
  rw [modify_eq_ok_iff]
  exact ⟨e, found, fresh.symm, by rw [fresh, replaceIn_self found]⟩

theorem exists_descriptor_of_fresh (found : Finds r.entries id e) (fresh : v.refresh e = e)
    (plain : v.settings.checksum = false) :
    (∃ text, r.descriptor v id OutputType.wsh.name = .ok (.ok text)) ↔
      e.header.isValid = some true := by
  have stored := get_eq_ok_iff.mpr found
  unfold descriptor
  simp only [stored, fresh]
  constructor
  · rintro ⟨text, done⟩
    split at done
    · assumption
    · cases done
  · intro valid
    obtain ⟨s, _, written, outcome⟩ := Validator.expression_of_valid fresh valid
    obtain ⟨text, wrapped⟩ := (Validator.exists_descriptor_iff plain).mpr outcome
    obtain ⟨c, s, rfl⟩ : ∃ c rest, s = c :: rest :=
      List.exists_cons_of_ne_nil fun empty =>
        Validator.trim_ne_nil_of_valid outcome (by rw [empty]; rfl)
    exact ⟨text, by simp only [valid, written, wrapped]⟩

end Fixed

theorem stored_outcome_fresh (v : Validator) (calls : List Call) :
    (∀ e ∈ (run v calls).entries, (∃ valid, e.header.isValid = some valid) ∧ v.refresh e = e ∧
      ∃ first, (run v calls).get e.id = .ok first) ∧
    ∀ id e, (run v calls).get id = .ok e →
      (run v calls).revalidate v id = .ok (e, run v calls) ∧
      (v.settings.checksum = false →
        ((∃ text, (run v calls).descriptor v id OutputType.wsh.name = .ok (.ok text)) ↔
          e.header.isValid = some true)) := by
  constructor
  · intro e stored
    have fresh := (fresh_of_mem_run calls e stored).own
    exact ⟨fresh ▸ (v.refresh_keeps e).outcome, fresh, exists_get_of_mem stored⟩
  · intro id e stored
    have found := get_eq_ok_iff.mp stored
    have fresh := (fresh_of_mem_run calls e found.mem).own
    exact ⟨revalidate_of_fresh found fresh, exists_descriptor_of_fresh found fresh⟩

theorem stored_outcome_fresh_key :
    let v : Validator := ⟨miniscriptCompiler, .default⟩
    let stamp : Stamp := ⟨1700000000000, "aaaaaaaaa".toList⟩
    let config : Config := .singleSig ('0' :: '2' :: List.replicate 64 'a')
    let id := stamp.identify config.label
    let r := run v [.addConfigured stamp config none]
    ∃ e, r.get id = .ok e ∧ e.header.isValid = some true ∧ v.settings.checksum = false ∧
      v.refresh e = e ∧ r.revalidate v id = .ok (e, r) ∧
      ((∃ text, r.descriptor v id OutputType.wsh.name = .ok (.ok text)) ↔ e.header.isValid = some true) := by
  intro v stamp config id r
  have found : Finds r.entries id (v.refresh (configured stamp config none)) := by
    have own : (v.refresh (configured stamp config none)).id = id := (v.refresh_keeps _).id
    have only : r.entries = [v.refresh (configured stamp config none)] := rfl
    simp [Finds, only, own]
  obtain ⟨each, ofId⟩ := stored_outcome_fresh v [.addConfigured stamp config none]
  obtain ⟨unchanged, described⟩ := ofId id _ (get_eq_ok_iff.mpr found)
  exact ⟨_, get_eq_ok_iff.mpr found, by decide +kernel, rfl, (each _ found.mem).2.1, unchanged,
    described rfl⟩

end Registry

end SpendPolicy
