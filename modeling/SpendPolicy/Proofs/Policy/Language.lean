import SpendPolicy.Proofs.Numeral.Hexadecimal
import SpendPolicy.Proofs.Numeral.Literal
import SpendPolicy.Proofs.Policy.WellFormed

set_option autoImplicit false

namespace SpendPolicy

namespace Policy

open Text (Blank)

inductive Argument : LeafName → Text → Policy → Prop
  | key {name : Text} (isName : IsName name) : Argument .key name (.key name)
  | after {number : Text} {value : Nat} (literal : Numeral.Literal number value) (low : 1 ≤ value)
      (high : value ≤ 2147483647) : Argument .after number (.after value)
  | older {number : Text} {value : Nat} (literal : Numeral.Literal number value) (low : 1 ≤ value)
      (high : value ≤ 2147483647) : Argument .older number (.older value)
  | hash {hex : Text} {algorithm : HashAlgorithm} {digest : Bytes} (spelled : Hex.Spelled hex digest)
      (size : digest.length = algorithm.digestSize) :
      Argument (.hash algorithm) hex (.hash algorithm digest)

def PairName.join : PairName → Policy → Policy → Policy
  | .and, left, right => .and left right
  | .or, left, right => .or left right

mutual

inductive Phrase : Text → Policy → Prop
  | leaf {indent gap before argument after : Text} {name : LeafName} {policy : Policy}
      (blankIndent : Blank indent) (blankGap : Blank gap) (blankBefore : Blank before)
      (blankAfter : Blank after) (given : Argument name argument policy) :
      Phrase (indent ++ name.text ++ gap ++ '(' :: (before ++ argument ++ after ++ [')'])) policy
  | pair {indent gap first middle second last : Text} {name : PairName} {left right : Policy}
      (blankIndent : Blank indent) (blankGap : Blank gap) (derivedLeft : Phrase first left)
      (blankMiddle : Blank middle) (derivedRight : Phrase second right) (blankLast : Blank last) :
      Phrase (indent ++ name.text ++ gap ++
        '(' :: (first ++ middle ++ ',' :: (second ++ last ++ [')']))) (name.join left right)
  | thresh {indent gap before number after body : Text} {required : Nat} {items : List Policy}
      (blankIndent : Blank indent) (blankGap : Blank gap) (blankBefore : Blank before)
      (literal : Numeral.Literal number required) (blankAfter : Blank after) (low : 1 ≤ required)
      (high : required ≤ items.length) (derived : Phrases body items) :
      Phrase (indent ++ Name.thresh.text ++ gap ++
        '(' :: (before ++ number ++ after ++ ',' :: body)) (.thresh required items)

inductive Phrases : Text → List Policy → Prop
  | last {head gap : Text} {policy : Policy} (first : Phrase head policy) (blank : Blank gap) :
      Phrases (head ++ gap ++ [')']) [policy]
  | more {head gap tail : Text} {policy : Policy} {items : List Policy}
      (first : Phrase head policy) (blank : Blank gap) (others : Phrases tail items) :
      Phrases (head ++ gap ++ ',' :: tail) (policy :: items)

end

def Sentence (s : Text) (policy : Policy) : Prop :=
  ∃ phrase gap, s = phrase ++ gap ∧ Phrase phrase policy ∧ Blank gap

theorem isInRange_iff {value : Int} :
    Locktime.isInRange value = true ↔ 1 ≤ value ∧ value ≤ 2147483647 := by
  have bound : Locktime.maximum = 2147483647 := rfl
  simp only [Locktime.isInRange, Bool.and_eq_true, decide_eq_true_eq]
  omega

theorem Argument.plain {name : LeafName} {argument : Text} {policy : Policy}
    (given : Argument name argument policy) : Plain argument := by
  have free (absent : ∀ c ∈ ['(', ')', ','], c ∉ argument) : Plain argument :=
    ⟨absent _ (by decide), absent _ (by decide), absent _ (by decide)⟩
  cases given with
  | key isName => exact isName.plain
  | after literal | older literal => exact free fun _ => literal.not_mem_of_delimiter
  | hash spelled => exact free fun _ => spelled.not_mem_of_delimiter

theorem Argument.trim {name : LeafName} {argument : Text} {policy : Policy}
    (given : Argument name argument policy) : Argument name argument.trim policy := by
  cases given with
  | key isName => exact isName.trimmed.symm ▸ .key isName
  | after literal low high =>
    exact .after ((Text.trim_eq_of_visible literal.visible).symm ▸ literal) low high
  | older literal low high =>
    exact .older ((Text.trim_eq_of_visible literal.visible).symm ▸ literal) low high
  | hash spelled size =>
    obtain ⟨before, after, blankBefore, blankAfter, split⟩ := Text.exists_gaps_trim argument
    rw [split, List.append_assoc] at spelled
    exact .hash ((spelled.of_blank_append blankBefore).of_append_blank blankAfter) size

theorem build_eq_ok_iff {name : LeafName} {argument : Text} {policy : Policy}
    (trimmed : argument.trim = argument) (plain : Plain argument) :
    name.build argument = .ok policy ↔ Argument name argument policy := by
  constructor
  · intro builds
    cases name with
    | key =>
      simp only [LeafName.build, built_eq_ok_iff, ofKey] at builds
      split at builds
      · cases builds
      · next filled =>
        cases builds
        exact .key ⟨filled, trimmed, plain⟩
    | after =>
      simp only [LeafName.build] at builds
      split at builds
      · cases builds
      · next value reads =>
        simp only [built_eq_ok_iff, ofAfter] at builds
        split at builds
        · next range =>
          cases builds
          obtain ⟨low, high⟩ := isInRange_iff.mp range
          have literal := Numeral.read?_eq_some_iff.mp reads
          rw [trimmed, ← Int.toNat_of_nonneg (show 0 ≤ value by omega)] at literal
          exact .after literal (by omega) (by omega)
        · cases builds
    | older =>
      simp only [LeafName.build] at builds
      split at builds
      · cases builds
      · next value reads =>
        simp only [built_eq_ok_iff, ofOlder] at builds
        split at builds
        · next range =>
          cases builds
          obtain ⟨low, high⟩ := isInRange_iff.mp range
          have literal := Numeral.read?_eq_some_iff.mp reads
          rw [trimmed, ← Int.toNat_of_nonneg (show 0 ≤ value by omega)] at literal
          exact .older literal (by omega) (by omega)
        · cases builds
    | hash algorithm =>
      simp only [LeafName.build] at builds
      split at builds
      · cases builds
      · next digest decodes =>
        simp only [built_eq_ok_iff, ofHash] at builds
        split at builds
        · next size =>
          cases builds
          exact .hash (Hex.decode?_eq_some_iff.mp decodes) size
        · cases builds
  · intro given
    cases given with
    | key isName => exact build_key isName.filled
    | after literal low high | older literal low high =>
      have range := isInRange_iff.mpr ⟨Int.ofNat_le.mpr low, Int.ofNat_le.mpr high⟩
      simp [LeafName.build, literal.read?_eq, built_eq_ok_iff, ofAfter, ofOlder, range]
    | hash spelled size =>
      simp [LeafName.build, Hex.decode?_eq_some_iff.mpr spelled, built_eq_ok_iff, ofHash, size]

theorem plain_of_blank {s : Text} (blank : Blank s) : Plain s :=
  ⟨blank.notMem (by decide), blank.notMem (by decide), blank.notMem (by decide)⟩

theorem Plain.append {s t : Text} (left : Plain s) (right : Plain t) : Plain (s ++ t) := by
  simp only [Plain, List.mem_append, not_or]
  exact ⟨⟨left.1, right.1⟩, ⟨left.2.1, right.2.1⟩, left.2.2, right.2.2⟩

theorem leaf_iff {name : LeafName} {s : Text} {policy : Policy} :
    Plain s ∧ name.build s.trim = .ok policy ↔
      ∃ before argument after, Blank before ∧ Blank after ∧ s = before ++ argument ++ after ∧
        Argument name argument policy := by
  constructor
  · rintro ⟨plain, builds⟩
    obtain ⟨before, after, blankBefore, blankAfter, split⟩ := Text.exists_gaps_trim s
    exact ⟨before, s.trim, after, blankBefore, blankAfter, split,
      (build_eq_ok_iff (Text.trim_trim s) plain.trim).mp builds⟩
  · rintro ⟨before, argument, after, blankBefore, blankAfter, rfl, given⟩
    refine ⟨((plain_of_blank blankBefore).append given.plain).append (plain_of_blank blankAfter), ?_⟩
    rw [Text.trim_gaps blankBefore blankAfter]
    exact (build_eq_ok_iff (Text.trim_trim argument) given.plain.trim).mpr given.trim

theorem number_iff {s : Text} {value : Int} :
    ',' ∉ s ∧ Numeral.read? s = some value ↔
      ∃ before number after, Blank before ∧ Blank after ∧ s = before ++ number ++ after ∧
        Numeral.Literal number value := by
  constructor
  · rintro ⟨_, reads⟩
    obtain ⟨before, after, blankBefore, blankAfter, split⟩ := Text.exists_gaps_trim s
    exact ⟨before, s.trim, after, blankBefore, blankAfter, split, Numeral.read?_eq_some_iff.mp reads⟩
  · rintro ⟨before, number, after, blankBefore, blankAfter, rfl, literal⟩
    have single : ',' ∉ before ++ number ++ after := by
      simp only [List.mem_append, not_or]
      exact ⟨⟨blankBefore.notMem (by decide), literal.not_mem_of_delimiter (by decide)⟩,
        blankAfter.notMem (by decide)⟩
    refine ⟨single, Numeral.read?_eq_some_iff.mpr ?_⟩
    rwa [Text.trim_gaps blankBefore blankAfter, Text.trim_eq_of_visible literal.visible]

theorem ofThresh_eq_ok_iff {required : Int} {items : List Policy} {policy : Policy} :
    ofThresh required items = .ok policy ↔
      ∃ count : Nat, required = count ∧ 1 ≤ count ∧ count ≤ items.length ∧
        policy = .thresh count items := by
  unfold ofThresh
  split
  · next bounds =>
    constructor
    · rintro ⟨⟩
      exact ⟨required.toNat, by omega, by omega, by omega, rfl⟩
    · rintro ⟨count, rfl, _, _, rfl⟩
      rfl
  · next bounds =>
    constructor
    · rintro ⟨⟩
    · rintro ⟨count, rfl, low, high, _⟩
      omega

theorem pairBuild_eq_ok_iff {name : PairName} {items : List Policy} {policy : Policy} :
    name.build items = .ok policy ↔
      ∃ left right, items = [left, right] ∧ policy = name.join left right := by
  constructor
  · intro builds
    unfold PairName.build at builds
    split at builds
    · cases builds
      exact ⟨_, _, rfl, rfl⟩
    · cases builds
      exact ⟨_, _, rfl, rfl⟩
    · cases builds
  · rintro ⟨left, right, rfl, rfl⟩
    cases name <;> rfl

mutual

theorem Fragment.phrase {s : Text} {policy : Policy} (derived : Fragment s policy) :
    Phrase s policy := by
  match derived with
  | .leaf blankIndent blankGap plain builds =>
    obtain ⟨before, argument, after, blankBefore, blankAfter, rfl, given⟩ :=
      leaf_iff.mp ⟨plain, builds⟩
    exact .leaf blankIndent blankGap blankBefore blankAfter given
  | .pair blankIndent blankGap inner builds =>
    have phrases := inner.phrases
    obtain ⟨left, right, rfl, rfl⟩ := pairBuild_eq_ok_iff.mp builds
    match phrases with
    | .more first blankMiddle (.last second blankLast) =>
      exact .pair blankIndent blankGap first blankMiddle second blankLast
  | .thresh blankIndent blankGap single reads inner builds =>
    have phrases := inner.phrases
    obtain ⟨count, rfl, low, high, rfl⟩ := ofThresh_eq_ok_iff.mp builds
    obtain ⟨before, number, after, blankBefore, blankAfter, rfl, literal⟩ :=
      number_iff.mp ⟨single, reads⟩
    exact .thresh blankIndent blankGap blankBefore literal blankAfter low high phrases

theorem Fragments.phrases {s : Text} {items : List Policy} (derived : Fragments s items) :
    Phrases s items := by
  match derived with
  | .last first blank => exact .last first.phrase blank
  | .more first blank others => exact .more first.phrase blank others.phrases

end

mutual

theorem Phrase.fragment {s : Text} {policy : Policy} (derived : Phrase s policy) :
    Fragment s policy := by
  match derived with
  | .leaf blankIndent blankGap blankBefore blankAfter given =>
    obtain ⟨plain, builds⟩ := leaf_iff.mpr ⟨_, _, _, blankBefore, blankAfter, rfl, given⟩
    exact .leaf blankIndent blankGap plain builds
  | .pair blankIndent blankGap first blankMiddle second blankLast =>
    exact .pair blankIndent blankGap
      (.more first.fragment blankMiddle (.last second.fragment blankLast))
      (pairBuild_eq_ok_iff.mpr ⟨_, _, rfl, rfl⟩)
  | .thresh blankIndent blankGap blankBefore literal blankAfter low high inner =>
    obtain ⟨single, reads⟩ := number_iff.mpr ⟨_, _, _, blankBefore, blankAfter, rfl, literal⟩
    exact .thresh blankIndent blankGap single reads inner.fragments
      (ofThresh_eq_ok_iff.mpr ⟨_, rfl, low, high, rfl⟩)

theorem Phrases.fragments {s : Text} {items : List Policy} (derived : Phrases s items) :
    Fragments s items := by
  match derived with
  | .last first blank => exact .last first.fragment blank
  | .more first blank others => exact .more first.fragment blank others.fragments

end

theorem read_eq_ok_iff_sentence {s : Text} {policy : Policy} :
    read s = .ok policy ↔ Sentence s policy := by
  rw [read_eq_ok_iff]
  constructor
  · rintro ⟨written, gap, split, derived, blank⟩
    exact ⟨written, gap, split, derived.phrase, blank⟩
  · rintro ⟨phrase, gap, split, derived, blank⟩
    exact ⟨phrase, gap, split, derived.fragment, blank⟩

theorem reader_accepts_sentences (s : Text) :
    (∀ policy, read s = .ok policy ↔ Sentence s policy) ∧
      (∀ policy other, Sentence s policy → Sentence s other → policy = other) ∧
      ((¬ ∃ policy, Sentence s policy) ↔ ∃ cause : Malformed, read s = .error cause) := by
  refine ⟨fun policy => read_eq_ok_iff_sentence, ?unambiguous, ?refused⟩
  case unambiguous =>
    intro policy other first second
    have same := (read_eq_ok_iff_sentence.mpr first).symm.trans (read_eq_ok_iff_sentence.mpr second)
    exact Except.ok.inj same
  case refused =>
    simp only [← read_eq_ok_iff_sentence]
    cases read s with
    | ok policy => simp
    | error cause => simp

end Policy

end SpendPolicy
