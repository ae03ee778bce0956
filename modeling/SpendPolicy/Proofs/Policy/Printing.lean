import SpendPolicy.Proofs.Policy.Language
import SpendPolicy.Proofs.Policy.Writing

set_option autoImplicit false

namespace SpendPolicy.Policy

inductive Built : Policy → Prop
  | key {name : Text} {policy : Policy} (built : ofKey name = .ok policy) : Built policy
  | after {value : Int} {policy : Policy} (built : ofAfter value = .ok policy) : Built policy
  | older {value : Int} {policy : Policy} (built : ofOlder value = .ok policy) : Built policy
  | hash {algorithm : HashAlgorithm} {digest : Bytes} {policy : Policy}
      (built : ofHash algorithm digest = .ok policy) : Built policy
  | and {left right : Policy} (first : Built left) (second : Built right) : Built (.and left right)
  | or {left right : Policy} (first : Built left) (second : Built right) : Built (.or left right)
  | thresh {required : Int} {items : List Policy} {policy : Policy}
      (each : ∀ item ∈ items, Built item) (built : ofThresh required items = .ok policy) :
      Built policy

structure Printable (policy : Policy) : Prop where
  built : policy.Built
  names : ∀ name ∈ policy.keys, IsName name
  numbers : ∀ threshold ∈ policy.thresholds, Numeral.Legible threshold.1

theorem ofAfter_of_isInRange {value : Nat} (range : Locktime.isInRange value = true) :
    ofAfter value = .ok (.after value) := by
  simp [ofAfter, range]

theorem ofOlder_of_isInRange {value : Nat} (range : Locktime.isInRange value = true) :
    ofOlder value = .ok (.older value) := by
  simp [ofOlder, range]

theorem Printable.wellFormed {policy : Policy} (printable : policy.Printable) :
    policy.WellFormed := by
  obtain ⟨built, names, numbers⟩ := printable
  induction built with
  | @key name policy built =>
    unfold ofKey at built
    split at built
    · cases built
    · cases built
      exact names name (by simp [keys])
  | @after value policy built =>
    unfold ofAfter at built
    split at built
    · next range =>
      cases built
      exact isInRange_toNat range
    · cases built
  | @older value policy built =>
    unfold ofOlder at built
    split at built
    · next range =>
      cases built
      exact isInRange_toNat range
    · cases built
  | @hash algorithm digest policy built =>
    unfold ofHash at built
    split at built
    · next size =>
      cases built
      exact size
    · cases built
  | and _ _ left right | or _ _ left right =>
    obtain ⟨leftNames, rightNames⟩ := List.forall_mem_append.mp names
    obtain ⟨leftNumbers, rightNumbers⟩ := List.forall_mem_append.mp numbers
    exact ⟨left leftNames leftNumbers, right rightNames rightNumbers⟩
  | @thresh required items policy each built ih =>
    obtain ⟨count, rfl, low, high, rfl⟩ := ofThresh_eq_ok_iff.mp built
    obtain ⟨number, inner⟩ := List.forall_mem_cons.mp numbers
    rw [thresholdsOfAll_eq_flatMap] at inner
    simp only [keys, keysOfAll_eq_flatMap] at names
    refine ⟨low, high, number, allWellFormed_iff.mpr fun item member => ?_⟩
    apply ih item member
    · exact fun name inside => names name (List.mem_flatMap.mpr ⟨item, member, inside⟩)
    · exact fun threshold inside => inner threshold (List.mem_flatMap.mpr ⟨item, member, inside⟩)

mutual

theorem WellFormed.built {policy : Policy} (wellFormed : policy.WellFormed) : policy.Built := by
  match policy with
  | .key name => exact .key (if_neg (IsName.filled wellFormed))
  | .after value => exact .after (ofAfter_of_isInRange wellFormed)
  | .older value => exact .older (ofOlder_of_isInRange wellFormed)
  | .hash algorithm digest => exact .hash (if_pos wellFormed)
  | .and left right => exact .and wellFormed.1.built wellFormed.2.built
  | .or left right => exact .or wellFormed.1.built wellFormed.2.built
  | .thresh required items =>
    obtain ⟨positive, bounded, _, each⟩ := wellFormed
    exact .thresh each.built (ofThresh_of_bounds positive bounded)
  | .unknown => exact wellFormed.elim

theorem AllWellFormed.built {items : List Policy} (each : AllWellFormed items) :
    ∀ item ∈ items, item.Built := by
  match items with
  | [] => simp
  | item :: items =>
    exact List.forall_mem_cons.mpr ⟨each.1.built, AllWellFormed.built each.2⟩

end

mutual

theorem WellFormed.names {policy : Policy} (wellFormed : policy.WellFormed) :
    ∀ name ∈ policy.keys, IsName name := by
  match policy with
  | .key name => exact List.forall_mem_singleton.mpr wellFormed
  | .after _ | .older _ | .hash _ _ => simp [keys]
  | .and left right | .or left right =>
    exact List.forall_mem_append.mpr ⟨wellFormed.1.names, wellFormed.2.names⟩
  | .thresh _ items => exact wellFormed.2.2.2.names
  | .unknown => exact wellFormed.elim

theorem AllWellFormed.names {items : List Policy} (each : AllWellFormed items) :
    ∀ name ∈ keysOfAll items, IsName name := by
  match items with
  | [] => simp
  | item :: items =>
    exact List.forall_mem_append.mpr ⟨each.1.names, AllWellFormed.names each.2⟩

end

theorem printable_iff_wellFormed {policy : Policy} : policy.Printable ↔ policy.WellFormed := by
  constructor
  · exact Printable.wellFormed
  · intro wellFormed
    exact ⟨wellFormed.built, wellFormed.names,
      fun threshold member => (wellFormed.legible.thresholds threshold member).1⟩

theorem alike_iff {policy other : Policy} (first : policy.WellFormed) (second : other.WellFormed) :
    policy.alike other = true ↔ policy = other := by
  constructor
  · intro alike
    obtain ⟨_, same⟩ := Bool.and_eq_true_iff.mp alike
    have reads := read_text first
    rw [beq_iff_eq.mp same, read_text second] at reads
    exact (Except.ok.inj reads).symm
  · rintro rfl
    simp [alike]

theorem printing_inverts_reading :
    (∀ policy : Policy, policy.Printable → read policy.text = .ok policy) ∧
      (∀ s policy, read s = .ok policy → policy.Printable) ∧
      ∀ s t policy other, read s = .ok policy → read t = .ok other →
        (policy.alike other = true ↔ policy = other) := by
  refine ⟨fun policy printable => read_text printable.wellFormed, ?printable, ?alike⟩
  case printable =>
    exact fun s policy reads => printable_iff_wellFormed.mpr (wellFormed_of_read reads)
  case alike =>
    exact fun s t policy other first second =>
      alike_iff (wellFormed_of_read first) (wellFormed_of_read second)

theorem printing_inverts_reading_quorum :
    Printable (.thresh 2 [.key ['a'], .or (.key ['b']) (.older 144), .after 10]) ∧
      read "thresh(2,pk(a),or(pk(b),older(144)),after(10))".toList =
        .ok (.thresh 2 [.key ['a'], .or (.key ['b']) (.older 144), .after 10]) ∧
      alike (.thresh 2 [.key ['a'], .or (.key ['b']) (.older 144), .after 10])
        (.thresh 2 [.key ['a'], .or (.key ['b']) (.older 144), .after 10]) = true := by
  have first : IsName ['a'] := by decide
  have second : IsName ['b'] := by decide
  have two : Numeral.Legible 2 := legible_of_isInRange (by decide)
  have wellFormed : WellFormed (.thresh 2 [.key ['a'], .or (.key ['b']) (.older 144), .after 10]) :=
    ⟨by decide, by decide, two, first, ⟨second, rfl⟩, rfl, trivial⟩
  have printable := printable_iff_wellFormed.mpr wellFormed
  have reads := printing_inverts_reading.1 _ printable
  exact ⟨printable, reads, (printing_inverts_reading.2.2 _ _ _ _ reads reads).mpr rfl⟩

end SpendPolicy.Policy
