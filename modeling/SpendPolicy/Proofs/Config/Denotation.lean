import SpendPolicy.Proofs.Config.Patterns

set_option autoImplicit false

namespace SpendPolicy

theorem HashAlgorithm.eq_name_of_ofName? {s : Text} {algorithm : HashAlgorithm}
    (found : ofName? s = some algorithm) : s = algorithm.name := by
  have same := List.find?_some found
  exact (beq_iff_eq.mp same).symm

theorem Policy.isKey_eq_false_of_read {s : Text} {policy : Policy} (reads : read s = .ok policy) :
    Key.isKey s = false := by
  rw [← Bool.not_eq_true]
  intro accepted
  obtain ⟨written, gap, rfl, derived, _⟩ := read_eq_ok_iff.mp reads
  obtain ⟨⟨unopened, _⟩, _⟩ := isArgument_of_isKey accepted
  exact unopened (List.mem_append_left gap derived.opens)

namespace Config

open Policy (IsArgument isArgument_of_isKey isKey_eq_false_of_read presents_after presents_hash
  presents_key presents_older)

inductive ItemDenotes (item : Text) : Policy → Prop
  | key (accepted : Key.isKey item = true) : ItemDenotes item (.key item.trim)
  | policy {policy : Policy} (reads : Policy.read item = .ok policy) : ItemDenotes item policy

inductive Denotes : Config → Policy → Prop
  | pattern {config : Config} {keys : List Text} (signers : config.signers? = some keys) :
      Denotes config (config.policyBy Text.trim)
  | threshold {m n : Int} {items : List Text} {policies : List Policy}
      (each : List.Forall₂ ItemDenotes items policies) :
      Denotes (.threshold m n items) (.thresh m.toNat policies)
  | absoluteTimelock (value : Int) : Denotes (.absoluteTimelock value) (.after value.toNat)
  | relativeTimelock (value : Int) : Denotes (.relativeTimelock value) (.older value.toNat)
  | hashlock {name text : Text} {algorithm : HashAlgorithm} {digest : Bytes}
      (known : HashAlgorithm.ofName? name = some algorithm)
      (decodes : Hex.decode? text = some digest) : Denotes (.hashlock name text) (.hash algorithm digest)

section Unique

variable {item : Text} {config : Config} {policy other : Policy}

theorem ItemDenotes.unique (first : ItemDenotes item policy) (second : ItemDenotes item other) :
    policy = other := by
  cases first with
  | key accepted =>
    cases second with
    | key => rfl
    | policy reads => simp [isKey_eq_false_of_read reads] at accepted
  | policy reads =>
    cases second with
    | key accepted => simp [isKey_eq_false_of_read reads] at accepted
    | policy again => exact Except.ok.inj (reads.symm.trans again)

theorem Denotes.unique (first : config.Denotes policy) (second : config.Denotes other) :
    policy = other := by
  cases first with
  | pattern signers =>
    cases second with
    | pattern => rfl
    | _ => cases signers
  | threshold each =>
    cases second with
    | pattern signers => cases signers
    | threshold again =>
      have unique : Relator.RightUnique ItemDenotes := fun _ _ _ => ItemDenotes.unique
      rw [unique.forall₂ each again]
  | absoluteTimelock value | relativeTimelock value =>
    cases second with
    | pattern signers => cases signers
    | _ => rfl
  | hashlock known decodes =>
    cases second with
    | pattern signers => cases signers
    | hashlock again reads =>
      cases known.symm.trans again
      cases decodes.symm.trans reads
      rfl

end Unique

def members : Config → List Text
  | .multiSig _ _ keys | .vault _ _ keys _ _ | .inheritance _ keys _ _ _ _ => keys
  | .threshold _ _ items => items
  | .singleSig _ | .simpleEscrow _ _ _ _ | .absoluteTimelock _ | .relativeTimelock _ | .hashlock _ _
  | .unrecognised _ => []

def items : Config → List Text
  | .threshold _ _ items => items
  | _ => []

section Read

variable {config : Config} {keys : List Text} {item : Text} {policy : Policy}

theorem Pattern.legible (pattern : config.Pattern keys) (countable : Numeral.Legible config.members.length) :
    Numeral.Legible config.groupQuorum.toNat := by
  have one : Numeral.Legible 1 := Policy.legible_of_isInRange (by decide)
  cases pattern with
  | singleSig | simpleEscrow => exact one
  | multiSig low high | vault low high | inheritance low high => exact countable.mono high

theorem ItemDenotes.read_eq (denotes : ItemDenotes item policy) :
    Policy.read (thresholdItem item) = .ok policy := by
  unfold thresholdItem
  cases denotes with
  | key accepted =>
    rw [if_pos accepted]
    exact (presents_key (isArgument_of_isKey accepted)).read_eq
  | policy reads => rwa [if_neg (by simp [isKey_eq_false_of_read reads])]

theorem exists_itemDenotes {items : List Text}
    (given : ∀ item ∈ items, Key.isKey item = true ∨ ∃ policy, Policy.read item = .ok policy) :
    ∃ policies, List.Forall₂ ItemDenotes items policies := by
  induction items with
  | nil => exact ⟨[], .nil⟩
  | cons item items ih =>
    obtain ⟨here, later⟩ := List.forall_mem_cons.mp given
    obtain ⟨policies, others⟩ := ih later
    rcases here with accepted | ⟨policy, reads⟩
    · exact ⟨_, .cons (.key accepted) others⟩
    · exact ⟨_, .cons (.policy reads) others⟩

theorem read_threshold {m n : Int} {items : List Text} {policies : List Policy}
    (checked : requireQuorum .items m n items = .ok ()) (countable : Numeral.Legible items.length)
    (each : List.Forall₂ ItemDenotes items policies) :
    Policy.read (Form.thresh m (items.map thresholdItem)) = .ok (.thresh m.toNat policies) := by
  obtain ⟨required, rfl, low, high⟩ := exists_of_requireQuorum checked
  have reads : List.Forall₂ (fun s item => Policy.read s = .ok item) (items.map thresholdItem) policies :=
    List.forall₂_map_left_iff.mpr (each.imp fun _ _ denotes => denotes.read_eq)
  exact Policy.read_thresh low (each.length_eq ▸ high) (countable.mono high) reads

theorem read_hashlock {name text : Text} (checked : requireDigest name text = .ok ()) :
    ∃ policy, Denotes (.hashlock name text) policy ∧ Policy.read (Form.call name [text]) = .ok policy := by
  unfold requireDigest at checked
  split at checked
  · cases checked
  · next algorithm known =>
    simp only [require_eq_ok_iff, Hex.isHex, Bool.and_eq_true, List.all_eq_true, beq_iff_eq] at checked
    obtain ⟨⟨_, digits⟩, length⟩ := checked
    obtain ⟨digest, decodes, size⟩ := Hex.exists_decode digits length
    have solid : Solid text := fun c member => solid_hexDigit (digits c member)
    have plain : Policy.Plain text :=
      ⟨fun member => (solid _ member).2 (by decide), fun member => (solid _ member).2 (by decide),
        fun member => (solid _ member).2 (by decide)⟩
    have trimmed : text.trim = text := Text.trim_eq_of_visible fun c member => (solid c member).1
    refine ⟨_, .hashlock known decodes, ?_⟩
    rw [HashAlgorithm.eq_name_of_ofName? known]
    exact (presents_hash plain (trimmed.symm ▸ decodes) size).read_eq

theorem exists_denotes (checked : config.check = .ok ())
    (accepted : ∀ keys, config.signers? = some keys → ∀ key ∈ keys, Key.isKey key = true)
    (given : ∀ item ∈ config.items, Key.isKey item = true ∨ ∃ policy, Policy.read item = .ok policy)
    (countable : Numeral.Legible config.members.length) :
    ∃ policy, config.Denotes policy ∧ Policy.read config.form = .ok policy := by
  cases signers : config.signers? with
  | some keys =>
    have pattern := pattern_of_check signers checked
    have arguments : ∀ key ∈ keys, IsArgument key :=
      fun key member => isArgument_of_isKey (accepted keys signers key member)
    exact ⟨_, .pattern signers, (pattern.presents arguments (pattern.legible countable)).read_eq⟩
  | none =>
    cases config with
    | threshold m n items =>
      obtain ⟨policies, each⟩ := exists_itemDenotes given
      exact ⟨_, .threshold each, read_threshold checked countable each⟩
    | absoluteTimelock value =>
      obtain ⟨height, rfl, range⟩ := exists_of_requireTimelock checked
      exact ⟨_, .absoluteTimelock height, (presents_after range).read_eq⟩
    | relativeTimelock value =>
      obtain ⟨height, rfl, range⟩ := exists_of_requireTimelock checked
      exact ⟨_, .relativeTimelock height, (presents_older range).read_eq⟩
    | hashlock name text => exact read_hashlock (seq_eq_ok_iff.mp checked).2
    | unrecognised description => cases checked
    | singleSig | multiSig | vault | inheritance | simpleEscrow => cases signers

theorem expression_denotes (checked : config.check = .ok ())
    (accepted : ∀ keys, config.signers? = some keys → ∀ key ∈ keys, Key.isKey key = true)
    (given : ∀ item ∈ config.items, Key.isKey item = true ∨ ∃ policy, Policy.read item = .ok policy)
    (countable : Numeral.Legible config.members.length) :
    (∃ expression policy, config.expression = .ok expression ∧ Policy.read expression = .ok policy ∧
      ∀ other, config.Denotes other ↔ other = policy) ∧
    ∀ s policy, Policy.read s = .ok policy → Key.isKey s = false := by
  obtain ⟨policy, denotes, reads⟩ := exists_denotes checked accepted given countable
  have written : config.expression = .ok config.form := by simp only [expression, checked]
  have only (other : Policy) : config.Denotes other ↔ other = policy := by
    constructor
    · exact fun also => also.unique denotes
    · rintro rfl
      exact denotes
  exact ⟨⟨config.form, policy, written, reads, only⟩, fun _ _ => isKey_eq_false_of_read⟩

theorem expression_denotes_mixed :
    let key : Text := '0' :: '2' :: List.replicate 64 '1'
    let delayed : Policy := .or (.key ['b']) (.older 144)
    let config := Config.threshold 2 3 [key, delayed.text, "after(1000)".toList]
    config.check = .ok () ∧ config.Denotes (.thresh 2 [.key key, delayed, .after 1000]) ∧
      ∃ expression policy, config.expression = .ok expression ∧ Policy.read expression = .ok policy ∧
        ∀ other, config.Denotes other ↔ other = policy := by
  intro key delayed config
  have checked : config.check = .ok () := by decide +kernel
  have accepted : Key.isKey key = true := by decide +kernel
  have isName : Policy.IsName ['b'] := by decide +kernel
  have range : Locktime.isInRange 144 = true := by decide
  have wellFormed : delayed.WellFormed := ⟨isName, range⟩
  have reads : Policy.read delayed.text = .ok delayed := Policy.read_text wellFormed
  have timelock : Policy.read "after(1000)".toList = .ok (.after 1000) :=
    (@presents_after 1000 (by decide)).read_eq
  have given : ∀ item ∈ config.items, Key.isKey item = true ∨ ∃ policy, Policy.read item = .ok policy := by
    intro item member
    obtain rfl | rfl | rfl : item = key ∨ item = delayed.text ∨ item = "after(1000)".toList := by
      simpa [config, items] using member
    · exact .inl accepted
    · exact .inr ⟨_, reads⟩
    · exact .inr ⟨_, timelock⟩
  have countable : Numeral.Legible config.members.length := Policy.legible_of_isInRange (by decide)
  have denotes : config.Denotes (.thresh 2 [.key key.trim, delayed, .after 1000]) :=
    .threshold (.cons (.key accepted) (.cons (.policy reads) (.cons (.policy timelock) .nil)))
  exact ⟨checked, denotes, (expression_denotes checked (fun _ signers => nomatch signers) given countable).1⟩

end Read

end Config

end SpendPolicy
