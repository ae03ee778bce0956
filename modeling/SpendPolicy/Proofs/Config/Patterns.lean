import SpendPolicy.Config.Expression
import SpendPolicy.Proofs.Compilation.Quorums
import SpendPolicy.Proofs.Policy.Forms

set_option autoImplicit false

namespace SpendPolicy.Config

open Policy (IsArgument KeySite Presents presents_after presents_key presents_pair presents_thresh
  presentsEach_keys quorum_parts secured_and secured_delayed secured_key secured_or secured_quorum)

section Checks

variable {condition : Bool} {error : ConfigError} {m n value : Int} {members : List Text}

theorem require_eq_ok_iff : require condition error = .ok () ↔ condition = true := by
  cases condition <;> simp [require]

theorem seq_eq_ok_iff {first second : Except ConfigError Unit} :
    (do first; second) = .ok () ↔ first = .ok () ∧ second = .ok () := by
  cases first <;> simp [bind, Except.bind]

theorem exists_of_requireQuorum {member : Member}
    (checked : requireQuorum member m n members = .ok ()) :
    ∃ required : Nat, m = required ∧ 1 ≤ required ∧ required ≤ members.length := by
  simp only [requireQuorum, require_eq_ok_iff, Bool.and_eq_true, decide_eq_true_eq] at checked
  exact ⟨m.toNat, by omega, by omega, by omega⟩

theorem exists_of_requireTimelock {field : TimelockField}
    (checked : requireTimelock field value = .ok ()) :
    ∃ height : Nat, value = height ∧ Locktime.isInRange height = true := by
  rw [requireTimelock, require_eq_ok_iff] at checked
  have range := checked
  simp only [Locktime.isInRange, Bool.and_eq_true, decide_eq_true_eq] at range
  obtain ⟨height, rfl⟩ := Int.eq_ofNat_of_zero_le (show 0 ≤ value by omega)
  exact ⟨height, rfl, checked⟩

end Checks

def signers? : Config → Option (List Text)
  | .singleSig key => some [key]
  | .multiSig _ _ keys => some keys
  | .vault _ _ keys _ cancelKey => some (keys ++ [cancelKey])
  | .inheritance ownerKey heirsKeys _ _ thirdPartyKey _ =>
    some (ownerKey :: (heirsKeys ++ [thirdPartyKey]))
  | .simpleEscrow partyAKey partyBKey arbiterKey _ => some [partyAKey, partyBKey, arbiterKey]
  | .threshold _ _ _ | .absoluteTimelock _ | .relativeTimelock _ | .hashlock _ _ | .unrecognised _ =>
    none

def groupQuorum : Config → Int
  | .multiSig m _ _ | .vault m _ _ _ _ | .inheritance _ _ m _ _ _ => m
  | .singleSig _ | .simpleEscrow _ _ _ _ | .threshold _ _ _ | .absoluteTimelock _
  | .relativeTimelock _ | .hashlock _ _ | .unrecognised _ => 1

def quorumBy (name : Text → Text) (required : Int) (keys : List Text) : Policy :=
  .thresh required.toNat (keys.map fun key => .key (name key))

def policyBy (name : Text → Text) : Config → Policy
  | .singleSig key => .key (name key)
  | .multiSig m _ keys => quorumBy name m keys
  | .vault m _ keys delay cancelKey =>
    .or (.and (quorumBy name m keys) (.after delay.toNat)) (.key (name cancelKey))
  | .inheritance ownerKey heirsKeys heirsThreshold timelock1 thirdPartyKey timelock2 =>
    .or
      (.or (.key (name ownerKey))
        (.and (quorumBy name heirsThreshold heirsKeys) (.after timelock1.toNat)))
      (.and (.key (name thirdPartyKey)) (.after timelock2.toNat))
  | .simpleEscrow partyAKey partyBKey arbiterKey timeout =>
    .or (.and (.key (name partyAKey)) (.key (name partyBKey)))
      (.and (.key (name arbiterKey)) (.after timeout.toNat))
  | .threshold _ _ _ | .absoluteTimelock _ | .relativeTimelock _ | .hashlock _ _ | .unrecognised _ =>
    .unknown

variable {config : Config} {keys : List Text} {name : Text → Text}

theorem keys_quorumBy (required : Int) (keys : List Text) :
    (quorumBy name required keys).keys = keys.map name := by
  simp [quorumBy, Policy.keys, List.flatMap_map, ← List.map_eq_flatMap]

theorem rename_policyBy (f : Text → Text) (config : Config) :
    (config.policyBy name).rename f = config.policyBy (f ∘ name) := by
  cases config <;> simp [policyBy, quorumBy, Policy.rename]

inductive Pattern : Config → List Text → Prop
  | singleSig (key : Text) : Pattern (.singleSig key) [key]
  | multiSig {required : Nat} {n : Int} {keys : List Text} (low : 1 ≤ required)
      (high : required ≤ keys.length) : Pattern (.multiSig required n keys) keys
  | vault {required delay : Nat} {n : Int} {keys : List Text} {cancelKey : Text} (low : 1 ≤ required)
      (high : required ≤ keys.length) (range : Locktime.isInRange delay = true) :
      Pattern (.vault required n keys delay cancelKey) (keys ++ [cancelKey])
  | inheritance {required timelock1 timelock2 : Nat} {keys : List Text} {ownerKey thirdPartyKey : Text}
      (low : 1 ≤ required) (high : required ≤ keys.length)
      (first : Locktime.isInRange timelock1 = true) (second : Locktime.isInRange timelock2 = true) :
      Pattern (.inheritance ownerKey keys required timelock1 thirdPartyKey timelock2)
        (ownerKey :: (keys ++ [thirdPartyKey]))
  | simpleEscrow {timeout : Nat} {partyAKey partyBKey arbiterKey : Text}
      (range : Locktime.isInRange timeout = true) :
      Pattern (.simpleEscrow partyAKey partyBKey arbiterKey timeout) [partyAKey, partyBKey, arbiterKey]

theorem pattern_of_check (signers : config.signers? = some keys) (checked : config.check = .ok ()) :
    Pattern config keys := by
  cases config with
  | singleSig key =>
    cases signers
    exact .singleSig key
  | multiSig m n keys =>
    cases signers
    obtain ⟨required, rfl, low, high⟩ := exists_of_requireQuorum checked
    exact .multiSig low high
  | vault m n keys delay cancelKey =>
    cases signers
    simp only [check, seq_eq_ok_iff] at checked
    obtain ⟨quorum, timelock, _⟩ := checked
    obtain ⟨required, rfl, low, high⟩ := exists_of_requireQuorum quorum
    obtain ⟨delay, rfl, range⟩ := exists_of_requireTimelock timelock
    exact .vault low high range
  | inheritance ownerKey heirsKeys heirsThreshold timelock1 thirdPartyKey timelock2 =>
    cases signers
    simp only [check, seq_eq_ok_iff, require_eq_ok_iff, Bool.and_eq_true, decide_eq_true_eq] at checked
    obtain ⟨_, _, bounds, first, _, second, _⟩ := checked
    obtain ⟨required, rfl⟩ := Int.eq_ofNat_of_zero_le (show 0 ≤ heirsThreshold by omega)
    obtain ⟨timelock1, rfl, range⟩ := exists_of_requireTimelock first
    obtain ⟨timelock2, rfl, later⟩ := exists_of_requireTimelock second
    exact .inheritance (by omega) (by omega) range later
  | simpleEscrow partyAKey partyBKey arbiterKey timeout =>
    cases signers
    simp only [check, seq_eq_ok_iff] at checked
    obtain ⟨_, _, _, timelock⟩ := checked
    obtain ⟨timeout, rfl, range⟩ := exists_of_requireTimelock timelock
    exact .simpleEscrow range
  | threshold | absoluteTimelock | relativeTimelock | hashlock | unrecognised => cases signers

theorem Pattern.keys_policyBy (pattern : Pattern config keys) :
    (config.policyBy name).keys = keys.map name := by
  cases pattern <;> simp [policyBy, keys_quorumBy, Policy.keys]

theorem presents_quorum {required : Nat} (arguments : ∀ key ∈ keys, IsArgument key)
    (low : 1 ≤ required) (high : required ≤ keys.length) (legible : Numeral.Legible required) :
    Presents (Form.thresh required (keys.map Form.key)) (quorumBy Text.trim required keys)
      (keys.map .visible) :=
  presents_thresh (presentsEach_keys arguments) low (by simpa using high) legible

theorem Pattern.presents (pattern : Pattern config keys) (arguments : ∀ key ∈ keys, IsArgument key)
    (legible : Numeral.Legible config.groupQuorum.toNat) :
    Presents config.form (config.policyBy Text.trim) (keys.map .visible) := by
  cases pattern with
  | singleSig key => exact presents_key (arguments key (by simp))
  | multiSig low high => exact presents_quorum arguments low high legible
  | @vault required delay n keys cancelKey low high range =>
    obtain ⟨group, cancel⟩ := List.forall_mem_append.mp arguments
    have delayed := presents_pair .and (presents_quorum group low high legible) (presents_after range)
    have either := presents_pair .or delayed (presents_key (cancel cancelKey (by simp)))
    have sites : (keys ++ [cancelKey]).map KeySite.visible =
        keys.map .visible ++ [] ++ [.visible cancelKey] := by
      simp
    rw [sites]
    exact either
  | @inheritance required _ _ keys ownerKey thirdPartyKey low high first second =>
    obtain ⟨owner, others⟩ := List.forall_mem_cons.mp arguments
    obtain ⟨heirs, third⟩ := List.forall_mem_append.mp others
    have inherited := presents_pair .and (presents_quorum heirs low high legible) (presents_after first)
    have family := presents_pair .or (presents_key owner) inherited
    have recovered :=
      presents_pair .and (presents_key (third thirdPartyKey (by simp))) (presents_after second)
    have either := presents_pair .or family recovered
    have sites : (ownerKey :: (keys ++ [thirdPartyKey])).map KeySite.visible =
        [.visible ownerKey] ++ (keys.map .visible ++ []) ++ ([.visible thirdPartyKey] ++ []) := by
      simp
    rw [sites]
    exact either
  | @simpleEscrow timeout partyAKey partyBKey arbiterKey range =>
    have party (key : Text) (member : key ∈ [partyAKey, partyBKey, arbiterKey]) :=
      presents_key (arguments key member)
    have agreed := presents_pair .and (party partyAKey (by simp)) (party partyBKey (by simp))
    have judged := presents_pair .and (party arbiterKey (by simp)) (presents_after range)
    exact presents_pair .or agreed judged

theorem secured_quorumBy {required : Nat} (low : 1 ≤ required) :
    (quorumBy name required keys).Secured ∧
      Timelocks.ofLeaves (quorumBy name required keys).leaves = .none := by
  have group : ∀ item ∈ keys.map fun key => Policy.key (name key), ∃ other, item = .key other := by
    intro item member
    obtain ⟨key, _, rfl⟩ := List.mem_map.mp member
    exact ⟨name key, rfl⟩
  exact ⟨secured_quorum low group, (quorum_parts group).2⟩

theorem Pattern.secured (pattern : Pattern config keys) : (config.policyBy name).Secured := by
  cases pattern with
  | singleSig key => exact secured_key (name key)
  | multiSig low high => exact (secured_quorumBy low).1
  | vault low high range =>
    obtain ⟨secured, timeless⟩ := secured_quorumBy low
    exact secured_or (secured_delayed secured timeless) (secured_key _)
  | inheritance low high first second =>
    obtain ⟨secured, timeless⟩ := secured_quorumBy low
    exact secured_or (secured_or (secured_key _) (secured_delayed secured timeless))
      (secured_delayed (secured_key _) rfl)
  | simpleEscrow range =>
    exact secured_or (secured_and (secured_key _) (secured_key _).quorums rfl)
      (secured_delayed (secured_key _) rfl)

end SpendPolicy.Config
