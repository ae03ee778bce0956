import SpendPolicy.Proofs.Registry.Composition

set_option autoImplicit false

namespace SpendPolicy

variable {v : Validator} {e c part : Entry} {header : EntryHeader} {kind : CompositionKind}
  {constituents : List Entry} {threshold : Option Int}

namespace Entry

inductive Part (part : Entry) : Entry → Prop
  | self : Part part part
  | inside {c e : Entry} (constituent : c ∈ e.constituents) (deeper : Part part c) : Part part e

def Throughout (p : Entry → Prop) (e : Entry) : Prop :=
  ∀ part, Part part e → p part

theorem Part.constituent (inside : Part part e) (member : c ∈ part.constituents) : Part c e := by
  induction inside with
  | self => exact .inside member .self
  | inside constituent _ ih => exact .inside constituent ih

theorem throughout_iff {p : Entry → Prop} :
    e.Throughout p ↔ p e ∧ ∀ c ∈ e.constituents, c.Throughout p := by
  constructor
  · intro all
    exact ⟨all e .self, fun c member part inside => all part (.inside member inside)⟩
  · rintro ⟨own, others⟩ part inside
    cases inside with
    | self => exact own
    | inside constituent deeper => exact others _ constituent part deeper

theorem modifyHeader_eq_composed_iff {f : EntryHeader → EntryHeader} :
    e.modifyHeader f = .composed header kind constituents threshold ↔
      ∃ old, e = .composed old kind constituents threshold ∧ f old = header := by
  cases e with
  | configured | text => simp [modifyHeader]
  | composed => simp only [modifyHeader, composed.injEq]; grind

theorem exists_of_refresh_eq_composed
    (refreshed : v.refresh e = .composed header kind constituents threshold) :
    ∃ old, e = .composed old kind constituents threshold := by
  obtain ⟨f, changed⟩ := v.exists_refresh_eq e
  obtain ⟨old, same, _⟩ := modifyHeader_eq_composed_iff.mp (changed ▸ refreshed)
  exact ⟨old, same⟩

end Entry

namespace Registry

open Entry (Part)

/-- The entry is, but for its selection, what a call after earlier ones answered when it was asked for a
composition of this kind. Its constituents are the entries that were selected, in their order, each with the
selection taken away. -/
structure MadeBy (v : Validator) (earlier : List Call) (call : Call) (kind : CompositionKind) (e : Entry) :
    Prop where
  asked : ∃ stamp number, call.Asks stamp kind number
  answered : ∃ made after, (run v earlier).perform v call = .ok (.entry made, after) ∧
    made.withSelection e.selected = e
  taken : e.constituents = (run v earlier).selected.map (Entry.withSelection false)

structure Recorded (v : Validator) (calls : List Call) (kind : CompositionKind) (constituents : List Entry)
    (threshold : Option Int) (e : Entry) : Prop where
  admits : kind.Admits threshold constituents.length
  numbered : kind ≠ .threshold → threshold = none
  made : ∃ earlier call later, calls = earlier ++ call :: later ∧ MadeBy v earlier call kind e

structure Intact (v : Validator) (calls : List Call) (e : Entry) : Prop where
  expressed : e.Expressed
  recorded : ∀ header kind constituents threshold, e = .composed header kind constituents threshold →
    Recorded v calls kind constituents threshold e

variable {calls earlier : List Call} {call : Call} {reply : Reply} {after : Registry}

theorem MadeBy.withSelection (madeBy : MadeBy v earlier call kind e) (b : Bool) :
    MadeBy v earlier call kind (e.withSelection b) where
  asked := madeBy.asked
  answered := by
    obtain ⟨made, after, done, same⟩ := madeBy.answered
    refine ⟨made, after, done, ?_⟩
    rw [Entry.selected_withSelection, ← Entry.withSelection_withSelection e.selected b made, same]
  taken := by
    rw [Entry.withSelection, Entry.constituents_modifyHeader]
    exact madeBy.taken

theorem MadeBy.unselected (madeBy : MadeBy v earlier call kind e) :
    ∀ c ∈ e.constituents, c.selected = false := by
  rw [madeBy.taken]
  intro c member
  obtain ⟨stored, _, rfl⟩ := List.mem_map.mp member
  exact Entry.selected_withSelection false stored

theorem Recorded.later (recorded : Recorded v calls kind constituents threshold e) (call : Call) :
    Recorded v (calls ++ [call]) kind constituents threshold e where
  admits := recorded.admits
  numbered := recorded.numbered
  made := by
    obtain ⟨earlier, maker, later, rfl, made⟩ := recorded.made
    exact ⟨earlier, maker, later ++ [call], by simp, made⟩

theorem Intact.later (intact : Intact v calls e) (call : Call) : Intact v (calls ++ [call]) e where
  expressed := intact.expressed
  recorded header kind constituents threshold shape :=
    (intact.recorded header kind constituents threshold shape).later call

theorem Intact.withSelection (intact : Intact v calls e) (b : Bool) :
    Intact v calls (e.withSelection b) where
  expressed := intact.expressed.withSelection b
  recorded header kind constituents threshold shape := by
    obtain ⟨old, same, _⟩ := Entry.modifyHeader_eq_composed_iff.mp shape
    obtain ⟨admits, numbered, earlier, call, later, split, made⟩ :=
      intact.recorded old kind constituents threshold same
    exact ⟨admits, numbered, earlier, call, later, split, made.withSelection b⟩

section Throughout

theorem throughout_later (intact : e.Throughout (Intact v calls)) (call : Call) :
    e.Throughout (Intact v (calls ++ [call])) :=
  fun part inside => (intact part inside).later call

theorem throughout_withSelection (intact : e.Throughout (Intact v calls)) (b : Bool) :
    (e.withSelection b).Throughout (Intact v calls) := by
  obtain ⟨own, others⟩ := Entry.throughout_iff.mp intact
  rw [Entry.throughout_iff, Entry.withSelection, Entry.constituents_modifyHeader]
  exact ⟨own.withSelection b, others⟩

theorem throughout_refresh_of_simple
    (simple : ∀ header kind constituents threshold, e ≠ .composed header kind constituents threshold)
    (failed : ∀ cause, e.generate = .error cause → e.expression = none)
    (filled : e.generate ≠ .ok (some [])) : (v.refresh e).Throughout (Intact v calls) := by
  have alone : e.constituents = [] := by
    cases e with
    | configured | text => rfl
    | composed => exact absurd rfl (simple _ _ _ _)
  rw [Entry.throughout_iff, (v.refresh_keeps e).constituents, alone]
  refine ⟨⟨Entry.expressed_refresh failed filled, ?_⟩, List.forall_mem_nil _⟩
  intro header kind constituents threshold shape
  obtain ⟨old, same⟩ := Entry.exists_of_refresh_eq_composed shape
  exact absurd same (simple old kind constituents threshold)

theorem throughout_composition {stamp : Stamp} (asks : call.Asks stamp kind threshold)
    (fits : Composition.checkArity kind (run v calls).selected.length threshold = .ok ())
    (done : (run v calls).perform v call =
      .ok (.entry (v.refresh (composition stamp kind threshold (run v calls).selected)), after))
    (each : ∀ e ∈ (run v calls).entries, e.Throughout (Intact v calls)) :
    (v.refresh (composition stamp kind threshold (run v calls).selected)).Throughout
      (Intact v (calls ++ [call])) := by
  have kept := v.refresh_keeps (composition stamp kind threshold (run v calls).selected)
  rw [Entry.throughout_iff, kept.constituents]
  refine ⟨⟨Entry.expressed_refresh (fun _ _ => rfl) Entry.generate_composed_filled, ?_⟩, ?_⟩
  · intro header other constituents number shape
    obtain ⟨old, same⟩ := Entry.exists_of_refresh_eq_composed shape
    obtain ⟨rfl, rfl, rfl, rfl⟩ := Entry.composed.inj same
    refine ⟨?admits, fun other => if_neg other, calls, call, [], rfl, ?made⟩
    case admits =>
      have admits := Composition.checkArity_eq_ok_iff.mp fits
      cases kind with
      | and | or | threshold => simpa [CompositionKind.Admits] using admits
    case made =>
      exact ⟨⟨stamp, threshold, asks⟩, ⟨_, after, done, Entry.withSelection_selected _⟩, kept.constituents⟩
  · intro c member
    obtain ⟨stored, chosen, rfl⟩ := List.mem_map.mp member
    have before := each stored (List.mem_filter.mp chosen).1
    exact throughout_later (throughout_withSelection before false) call

end Throughout

theorem intact_of_perform (done : (run v calls).perform v call = .ok (reply, after))
    (each : ∀ e ∈ (run v calls).entries, e.Throughout (Intact v calls)) :
    ∀ e ∈ after.entries, e.Throughout (Intact v (calls ++ [call])) := by
  intro e member
  cases (effect_of_perform done).origin member with
  | @kept old _ stored b => exact throughout_later (throughout_withSelection (each old stored) b) call
  | @refreshed old _ stored =>
    rw [(fresh_of_mem_run calls old stored).own]
    exact throughout_later (each old stored) call
  | made makes =>
    cases makes with
    | configured stamp config name =>
      exact throughout_refresh_of_simple nofun (fun _ _ => rfl) (Entry.generate_configured_filled _ config)
    | text stamp number filled =>
      refine throughout_refresh_of_simple nofun nofun fun generated => filled ?_
      exact Option.some.inj (Except.ok.inj generated)
    | composed asks fits => exact throughout_composition asks fits done each

theorem intact_of_mem_run (calls : List Call) :
    ∀ e ∈ (run v calls).entries, e.Throughout (Intact v calls) :=
  @run_history_induction v (fun calls entries => ∀ e ∈ entries, e.Throughout (Intact v calls))
    (List.forall_mem_nil _)
    (fun _ call _ _ each e stored => throughout_later (each e stored) call)
    (fun _ _ _ _ done each => intact_of_perform done each)
    calls

/-- Every composition in a registry, also inside another one, has as many constituents as its kind asks for,
as they were when it was made and none of them selected. It has no expression only if one of them has none,
and otherwise their combination. -/
theorem compositions_intact (v : Validator) (calls : List Call) {e : Entry} {header : EntryHeader}
    {kind : CompositionKind} {constituents : List Entry} {threshold : Option Int}
    (stored : e ∈ (run v calls).entries)
    (inside : Part (.composed header kind constituents threshold) e) :
    (kind.Admits threshold constituents.length ∧ (kind ≠ .threshold → threshold = none)) ∧
      (∀ c ∈ constituents, c.selected = false) ∧
      (∃ earlier call later, calls = earlier ++ call :: later ∧
        MadeBy v earlier call kind (.composed header kind constituents threshold)) ∧
      (header.expression = none ↔ ∃ c ∈ constituents, c.expression = none) ∧
      ∀ s, header.expression = some s →
        Composition.compose kind (constituents.map Entry.expression) threshold = .ok s := by
  have parts := intact_of_mem_run calls e stored
  obtain ⟨expressed, recorded⟩ := parts _ inside
  obtain ⟨admits, numbered, earlier, call, later, split, made⟩ := recorded _ _ _ _ rfl
  have each : ∀ c ∈ constituents, c.Expressed :=
    fun c member => (parts c (inside.constituent member)).expressed
  exact ⟨⟨admits, numbered⟩, made.unselected, ⟨earlier, call, later, split, made⟩,
    expressed.composed admits each⟩

theorem compositions_intact_nested :
    let v : Validator := ⟨miniscriptCompiler, .default⟩
    let stamp (millis : Nat) : Stamp := ⟨millis, "aaaaaaaaa".toList⟩
    let time : Config := .absoluteTimelock 0
    let configuredId (millis : Nat) : Text := (stamp millis).identify time.label
    let textId (millis : Nat) : Text := (stamp millis).identify textLabel
    let composedId (millis : Nat) : Text := (stamp millis).identify composedLabel
    let calls : List Call :=
      [.addConfigured (stamp 1) time none, .addText (stamp 2) "after(10)".toList, .toggle (configuredId 1),
        .toggle (textId 2), .compose (stamp 3) .and none, .addText (stamp 4) "older(10)".toList,
        .toggle (textId 4), .toggle (composedId 3), .compose (stamp 5) .threshold (some 1),
        .toggle (composedId 5), .revalidate (composedId 5), .remove (configuredId 1), .remove (textId 2),
        .remove (composedId 3)]
    ∃ header constituents inner parts,
      (.composed header .threshold constituents (some 1) ∈ (run v calls).entries ∧
        (run v calls).entries.map Entry.id = [textId 4, composedId 5] ∧
        header.selected = true ∧ header.expression = none ∧
        .composed inner .and parts none ∈ constituents ∧ constituents.length = 2) ∧
      (∀ c ∈ constituents, c.selected = false) ∧ (∃ c ∈ constituents, c.expression = none) ∧
      (parts.length = 2 ∧ (∀ c ∈ parts, c.selected = false)) ∧
      ∃ earlier call later, calls = earlier ++ call :: later ∧
        MadeBy v earlier call .and (.composed inner .and parts none) := by
  intro v stamp time configuredId textId composedId calls
  have found : (run v calls).entries.any (isComposition .threshold (some 1) fun header constituents =>
      header.selected ∧ header.expression = none ∧ constituents.length = 2 ∧
        constituents.any (isComposition .and none fun _ _ => true) = true) = true := by
    decide +kernel
  have left : (run v calls).entries.map Entry.id = [textId 4, composedId 5] := by decide +kernel
  obtain ⟨header, constituents, stored, holds⟩ := exists_composition found
  obtain ⟨selected, unexpressed, count, inside⟩ := of_decide_eq_true holds
  obtain ⟨inner, parts, member, _⟩ := exists_composition inside
  obtain ⟨_, unselected, _, missing, _⟩ := compositions_intact v calls stored .self
  obtain ⟨⟨pair, _⟩, innerUnselected, made, _⟩ := compositions_intact v calls stored (.inside member .self)
  exact ⟨header, constituents, inner, parts, ⟨stored, left, selected, unexpressed, member, count⟩, unselected,
    missing.mp unexpressed, ⟨Int.ofNat_inj.mp pair, innerUnselected⟩, made⟩

end Registry

end SpendPolicy
