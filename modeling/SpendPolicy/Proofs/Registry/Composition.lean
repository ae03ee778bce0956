import SpendPolicy.Lowering
import SpendPolicy.Proofs.Composition.Trees
import SpendPolicy.Proofs.Entry.Expression
import SpendPolicy.Proofs.Policy.Boundaries
import SpendPolicy.Proofs.Registry.Freshness
import SpendPolicy.Proofs.Validation.Spelling

set_option autoImplicit false

namespace SpendPolicy

open Policy (FoundIn IsClosed)

namespace Composition

variable {kind : CompositionKind} {threshold : Option Int} {expressions : List (Option Text)}
  {texts : List Text} {expression : Text} {policy : Policy}

theorem exists_of_compose (composed : compose kind expressions threshold = .ok expression) :
    ∃ texts, expressions = texts.map some ∧ checkArity kind texts.length threshold = .ok () ∧
      combine kind threshold texts = expression := by
  obtain ⟨texts, same, _, admits, combined⟩ := compose_eq_ok_iff.mp composed
  exact ⟨texts, same, checkArity_eq_ok_iff.mpr admits, combined⟩

theorem exists_of_checkArity_threshold {count : Nat}
    (arity : checkArity .threshold count threshold = .ok ()) :
    2 ≤ count ∧ ∃ required : Nat, threshold = some (required : Int) := by
  obtain ⟨many, k, rfl, positive, _⟩ := checkArity_eq_ok_iff.mp arity
  exact ⟨by omega, k.toNat, by rw [Int.toNat_of_nonneg (by omega)]⟩

theorem ne_nil_of_checkArity (arity : checkArity kind texts.length threshold = .ok ()) : texts ≠ [] := by
  rintro rfl
  cases kind with
  | and | or => cases arity
  | threshold => exact absurd (exists_of_checkArity_threshold arity).1 (by simp)

theorem exists_combines_of_pair {name : Policy.PairName}
    (joins : ∀ left right, kind.Combines threshold [left, right] (name.join left right))
    (reads : Policy.read (Form.call name.text texts) = .ok policy) :
    ∃ items, FoundIn texts items ∧ kind.Combines threshold items policy := by
  obtain ⟨items, found, builds⟩ := Policy.exists_found_of_pair reads
  obtain ⟨left, right, rfl, rfl⟩ := Policy.pairBuild_eq_ok_iff.mp builds
  exact ⟨_, found, joins left right⟩

theorem exists_combines_of_read (arity : checkArity kind texts.length threshold = .ok ())
    (reads : Policy.read (combine kind threshold texts) = .ok policy) :
    ∃ items, FoundIn texts items ∧ kind.Combines threshold items policy := by
  cases kind with
  | and => exact @exists_combines_of_pair _ _ _ _ .and (.and threshold) reads
  | or => exact @exists_combines_of_pair _ _ _ _ .or (.or threshold) reads
  | threshold =>
    obtain ⟨_, required, rfl⟩ := exists_of_checkArity_threshold arity
    obtain ⟨items, found, builds⟩ := Policy.exists_found_of_thresh (ne_nil_of_checkArity arity) reads
    obtain ⟨count, same, _, _, rfl⟩ := Policy.ofThresh_eq_ok_iff.mp builds
    cases Int.ofNat_inj.mp same
    exact ⟨items, found, .threshold required items⟩

end Composition

namespace Entry

def Reads (e : Entry) (policy : Policy) : Prop :=
  ∃ s, e.expression = some s ∧ Policy.read s = .ok policy

def IsClosed (e : Entry) : Prop :=
  ∃ s, e.expression = some s ∧ Policy.IsClosed s

def Denotes (e : Entry) (kind : CompositionKind) (threshold : Option Int) (constituents : List Entry) :
    Prop :=
  ∃ items policy, List.Forall₂ Reads constituents items ∧ e.Reads policy ∧
    kind.Combines threshold items policy

theorem Reads.isClosed {e : Entry} {policy : Policy} (reads : e.Reads policy) : e.IsClosed := by
  obtain ⟨s, written, reads⟩ := reads
  exact ⟨s, written, Policy.closed_of_read reads⟩

section Constituents

variable {kind : CompositionKind} {threshold : Option Int} {constituents : List Entry} {header : EntryHeader}
  {texts : List Text} {items : List Policy} {s : Text}

theorem forall₂_reads (written : constituents.map Entry.expression = texts.map some)
    (each : List.Forall₂ (fun s item => Policy.read s = .ok item) texts items) :
    List.Forall₂ Reads constituents items := by
  let Expresses (written : Option Text) (item : Policy) : Prop :=
    ∃ s, written = some s ∧ Policy.read s = .ok item
  have expressed : List.Forall₂ Expresses (texts.map some) items :=
    List.forall₂_map_left_iff.mpr (each.imp fun s _ reads => ⟨s, rfl, reads⟩)
  rw [← written] at expressed
  have each : List.Forall₂ (fun c item => Expresses (expression c) item) constituents items :=
    List.forall₂_map_left_iff.mp expressed
  exact each

theorem closed_texts (written : constituents.map Entry.expression = texts.map some)
    (closed : ∀ c ∈ constituents, c.IsClosed) : ∀ s ∈ texts, Policy.IsClosed s := by
  intro s member
  have expressed : some s ∈ constituents.map Entry.expression :=
    written ▸ List.mem_map_of_mem member
  obtain ⟨c, inside, here⟩ := List.mem_map.mp expressed
  obtain ⟨t, there, closed⟩ := closed c inside
  cases here.symm.trans there
  exact closed

theorem Denotes.closed {e : Entry} (denotes : e.Denotes kind threshold constituents) :
    ∀ c ∈ constituents, c.IsClosed := by
  obtain ⟨items, _, each, _⟩ := denotes
  exact ((List.forall₂_and_left _ _).mp (each.imp fun _ _ reads => ⟨reads.isClosed, reads⟩)).1

theorem compose_of_generate
    (generated : (composed header kind constituents threshold).generate = .ok (some s)) :
    Composition.compose kind (constituents.map Entry.expression) threshold = .ok s := by
  obtain ⟨_, made, same⟩ := generate_composed_eq_ok_iff.mp generated
  cases same
  exact made

end Constituents

end Entry

namespace Registry

variable {settings : Settings}

theorem exists_read_of_valid {s : Text}
    (valid : (Validator.validate ⟨miniscriptCompiler, settings⟩ s).isValid = true) :
    ∃ policy, Policy.read s = .ok policy := by
  obtain ⟨compiled, keyMap, valid⟩ := Verdict.isValid_iff.mp valid
  obtain ⟨policy, _, _, reads, _⟩ := (valid_iff.mp valid).exists_policies
  exact ⟨policy, reads⟩

theorem isClosed_of_valid {e : Entry} (fresh : Validator.refresh ⟨miniscriptCompiler, settings⟩ e = e)
    (valid : e.header.isValid = some true) : e.IsClosed := by
  obtain ⟨s, _, written, outcome⟩ := Validator.expression_of_valid fresh valid
  obtain ⟨policy, reads⟩ := exists_read_of_valid outcome
  exact Entry.Reads.isClosed ⟨s, written, reads⟩

/-- The expression of a valid composition is read as a combination of policies. These are what its constituents
are read as exactly if every constituent is closed, which they are when they are valid themselves. -/
theorem composed_denotes_iff (settings : Settings) (calls : List Call) {header : EntryHeader}
    {kind : CompositionKind} {constituents : List Entry} {threshold : Option Int}
    (stored : .composed header kind constituents threshold ∈
      (run ⟨miniscriptCompiler, settings⟩ calls).entries)
    (valid : header.isValid = some true) :
    let e := Entry.composed header kind constituents threshold
    (∃ items policy, e.Reads policy ∧ kind.Combines threshold items policy) ∧
      (e.Denotes kind threshold constituents ↔ ∀ c ∈ constituents, c.IsClosed) ∧
      ((∀ c ∈ constituents, c.header.isValid = some true) → ∀ c ∈ constituents, c.IsClosed) := by
  intro e
  have fresh := fresh_of_mem_run calls e stored
  obtain ⟨s, generated, written, outcome⟩ := Validator.expression_of_valid fresh.own valid
  obtain ⟨policy, reads⟩ := exists_read_of_valid outcome
  obtain ⟨texts, expressions, arity, rfl⟩ :=
    Composition.exists_of_compose (Entry.compose_of_generate generated)
  obtain ⟨items, found, combines⟩ := Composition.exists_combines_of_read arity reads
  refine ⟨⟨items, policy, ⟨_, written, reads⟩, combines⟩, ⟨fun denotes => denotes.closed, ?denotes⟩, ?valid⟩
  case denotes =>
    intro closed
    have filled := Composition.ne_nil_of_checkArity arity
    have each := found.reads filled (Entry.closed_texts expressions closed)
    exact ⟨items, policy, Entry.forall₂_reads expressions each, ⟨_, written, reads⟩, combines⟩
  case valid =>
    intro each c member
    exact isClosed_of_valid (fresh.constituents c member) (each c member)

def isComposition (kind : CompositionKind) (threshold : Option Int)
    (holds : EntryHeader → List Entry → Bool) : Entry → Bool
  | .composed header other constituents number =>
    other = kind ∧ number = threshold ∧ holds header constituents
  | _ => false

theorem exists_composition {entries : List Entry} {kind : CompositionKind} {threshold : Option Int}
    {holds : EntryHeader → List Entry → Bool}
    (found : entries.any (isComposition kind threshold holds) = true) :
    ∃ header constituents, .composed header kind constituents threshold ∈ entries ∧
      holds header constituents = true := by
  obtain ⟨e, stored, shape⟩ := List.any_eq_true.mp found
  cases e with
  | configured | text => cases shape
  | composed header other constituents number =>
    obtain ⟨rfl, rfl, holds⟩ := of_decide_eq_true shape
    exact ⟨header, constituents, stored, holds⟩

theorem composed_denotes_iff_keys :
    let v : Validator := ⟨miniscriptCompiler, .default⟩
    let stamp (millis : Nat) : Stamp := ⟨millis, "aaaaaaaaa".toList⟩
    let id (millis : Nat) : Text := (stamp millis).identify textLabel
    let key (digit : Char) : Text := Form.key ('0' :: '2' :: List.replicate 64 digit)
    let calls : List Call :=
      [.addText (stamp 1) (key '1'), .addText (stamp 2) (key '2'), .toggle (id 1), .toggle (id 2),
        .compose (stamp 3) .or none]
    ∃ header constituents, .composed header .or constituents none ∈ (run v calls).entries ∧
      header.isValid = some true ∧ (∀ c ∈ constituents, c.header.isValid = some true) ∧
      (Entry.composed header .or constituents none).Denotes .or none constituents := by
  intro v stamp id key calls
  have found : (run v calls).entries.any (isComposition .or none fun header constituents =>
      header.isValid = some true ∧ ∀ c ∈ constituents, c.header.isValid = some true) = true := by
    decide +kernel
  obtain ⟨header, constituents, stored, holds⟩ := exists_composition found
  obtain ⟨valid, each⟩ := of_decide_eq_true holds
  obtain ⟨_, denotes, closed⟩ := composed_denotes_iff .default calls stored valid
  exact ⟨header, constituents, stored, valid, each, denotes.mpr (closed each)⟩

theorem valid_but_shifted :
    let v : Validator := ⟨miniscriptCompiler, .default⟩
    let stamp (millis : Nat) : Stamp := ⟨millis, "aaaaaaaaa".toList⟩
    let id (millis : Nat) : Text := (stamp millis).identify textLabel
    let key (digit : Char) : Text := '0' :: '2' :: List.replicate 64 digit
    let two : Text := Text.commaSeparated [Form.key (key '1'), Form.key (key '2')]
    let one : Text := Form.key (key '3')
    let calls : List Call :=
      [.addText (stamp 1) two, .addText (stamp 2) one, .toggle (id 1), .toggle (id 2),
        .compose (stamp 3) .threshold (some 2)]
    ∃ header constituents, .composed header .threshold constituents (some 2) ∈ (run v calls).entries ∧
      header.isValid = some true ∧ constituents.map Entry.expression = [some two, some one] ∧
      (Entry.composed header .threshold constituents (some 2)).Reads
        (.thresh 2 [.key (key '1'), .key (key '2'), .key (key '3')]) ∧
      ¬ (Entry.composed header .threshold constituents (some 2)).Denotes .threshold (some 2)
        constituents := by
  intro v stamp id key two one calls
  let policy : Policy := .thresh 2 [.key (key '1'), .key (key '2'), .key (key '3')]
  have found : (run v calls).entries.any (isComposition .threshold (some 2)
      fun header constituents => header.isValid = some true ∧
        constituents.map Entry.expression = [some two, some one] ∧
        header.expression = some policy.text) = true := by
    decide +kernel
  have isName : Policy.IsName (key '1') ∧ Policy.IsName (key '2') ∧ Policy.IsName (key '3') := by
    decide +kernel
  have wellFormed : policy.WellFormed :=
    ⟨by decide, by decide, Policy.legible_of_isInRange (by decide), isName.1, isName.2.1, isName.2.2,
      trivial⟩
  have shifted : ¬ Policy.IsClosed two := by decide +kernel
  obtain ⟨header, constituents, stored, holds⟩ := exists_composition found
  obtain ⟨valid, texts, written⟩ := of_decide_eq_true holds
  refine ⟨header, constituents, stored, valid, texts, ⟨_, written, Policy.read_text wellFormed⟩, ?_⟩
  intro denotes
  have expressions : constituents.map Entry.expression = [two, one].map some := texts
  exact shifted (Entry.closed_texts expressions denotes.closed two (List.mem_cons_self ..))

end Registry

end SpendPolicy
