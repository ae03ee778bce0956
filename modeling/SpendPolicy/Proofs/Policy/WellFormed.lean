import SpendPolicy.Proofs.Numeral.Decimal
import SpendPolicy.Proofs.Policy.Grammar

set_option autoImplicit false

namespace SpendPolicy.Policy

structure IsName (name : Text) : Prop where
  filled : name ≠ []
  trimmed : name.trim = name
  plain : Plain name

instance (name : Text) : Decidable (IsName name) :=
  decidable_of_iff (name ≠ [] ∧ name.trim = name ∧ Plain name)
    ⟨fun ⟨filled, trimmed, plain⟩ => ⟨filled, trimmed, plain⟩,
      fun isName => ⟨isName.filled, isName.trimmed, isName.plain⟩⟩

mutual

def WellFormed : Policy → Prop
  | .key name => IsName name
  | .after value | .older value => Locktime.isInRange value = true
  | .hash algorithm digest => digest.length = algorithm.digestSize
  | .and left right | .or left right => left.WellFormed ∧ right.WellFormed
  | .thresh required items =>
    1 ≤ required ∧ required ≤ items.length ∧ Numeral.Legible required ∧ AllWellFormed items
  | .unknown => False

def AllWellFormed : List Policy → Prop
  | [] => True
  | item :: items => item.WellFormed ∧ AllWellFormed items

end

theorem allWellFormed_iff {items : List Policy} :
    AllWellFormed items ↔ ∀ item ∈ items, item.WellFormed := by
  induction items with
  | nil => simp [AllWellFormed]
  | cons item items ih => simp [AllWellFormed, ih]

theorem Plain.trim {s : Text} (plain : Plain s) : Plain s.trim :=
  ⟨fun member => plain.1 (Text.trim_subset s _ member),
    fun member => plain.2.1 (Text.trim_subset s _ member),
    fun member => plain.2.2 (Text.trim_subset s _ member)⟩

theorem isInRange_toNat {value : Int} (range : Locktime.isInRange value = true) :
    Locktime.isInRange value.toNat = true := by
  simp only [Locktime.isInRange, Bool.and_eq_true, decide_eq_true_eq] at range ⊢
  omega

theorem wellFormed_of_leaf {name : LeafName} {argument : Text} {policy : Policy}
    (plain : Plain argument) (builds : name.build argument.trim = .ok policy) :
    policy.WellFormed := by
  cases name with
  | key =>
    simp only [LeafName.build, built_eq_ok_iff, ofKey] at builds
    split at builds
    · cases builds
    · next filled =>
      cases builds
      exact ⟨filled, Text.trim_trim argument, plain.trim⟩
  | after =>
    simp only [LeafName.build] at builds
    split at builds
    · cases builds
    · simp only [built_eq_ok_iff, ofAfter] at builds
      split at builds
      · next range =>
        cases builds
        exact isInRange_toNat range
      · cases builds
  | older =>
    simp only [LeafName.build] at builds
    split at builds
    · cases builds
    · simp only [built_eq_ok_iff, ofOlder] at builds
      split at builds
      · next range =>
        cases builds
        exact isInRange_toNat range
      · cases builds
  | hash algorithm =>
    simp only [LeafName.build] at builds
    split at builds
    · cases builds
    · simp only [built_eq_ok_iff, ofHash] at builds
      split at builds
      · next size =>
        cases builds
        exact size
      · cases builds

theorem wellFormed_of_pair {name : PairName} {items : List Policy} {policy : Policy}
    (each : AllWellFormed items) (builds : name.build items = .ok policy) : policy.WellFormed := by
  unfold PairName.build at builds
  split at builds
  · cases builds
    exact ⟨each.1, each.2.1⟩
  · cases builds
    exact ⟨each.1, each.2.1⟩
  · cases builds

theorem wellFormed_of_thresh {number : Text} {required : Int} {items : List Policy} {policy : Policy}
    (reads : Numeral.read? number = some required) (each : AllWellFormed items)
    (builds : ofThresh required items = .ok policy) : policy.WellFormed := by
  unfold ofThresh at builds
  split at builds
  · next bounds =>
    cases builds
    exact ⟨by omega, by omega, Numeral.legible_of_read? reads, each⟩
  · cases builds

mutual

theorem Fragment.wellFormed {consumed : Text} {policy : Policy} (derived : Fragment consumed policy) :
    policy.WellFormed := by
  match derived with
  | .leaf _ _ plain builds => exact wellFormed_of_leaf plain builds
  | .pair _ _ inner builds => exact wellFormed_of_pair inner.wellFormed builds
  | .thresh _ _ _ reads inner builds => exact wellFormed_of_thresh reads inner.wellFormed builds

theorem Fragments.wellFormed {consumed : Text} {items : List Policy}
    (derived : Fragments consumed items) : AllWellFormed items := by
  match derived with
  | .last first _ => exact ⟨first.wellFormed, trivial⟩
  | .more first _ others => exact ⟨first.wellFormed, others.wellFormed⟩

end

theorem wellFormed_of_read {s : Text} {policy : Policy} (reads : read s = .ok policy) :
    policy.WellFormed := by
  obtain ⟨_, _, _, derived, _⟩ := read_eq_ok_iff.mp reads
  exact derived.wellFormed

end SpendPolicy.Policy
