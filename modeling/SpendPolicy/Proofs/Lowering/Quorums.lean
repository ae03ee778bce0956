import SpendPolicy.Proofs.Lowering.Malleability
import SpendPolicy.Proofs.Lowering.Outline
import SpendPolicy.Proofs.Lowering.Timelocks

set_option autoImplicit false

namespace SpendPolicy

open Lowering Miniscript
open Environment (keyless)

namespace Policy

def HasQuorums : Policy → Prop
  | .and left right | .or left right => left.HasQuorums ∧ right.HasQuorums
  | .thresh _ items => ∀ item ∈ items, ∃ name, item = .key name
  | .key _ | .after _ | .older _ | .hash _ _ | .unknown => True

def isUnmixed : Policy → Bool
  | .and left right => !(Timelocks.ofLeaves (left.leaves ++ right.leaves)).mixes
  | .or left right => left.isUnmixed && right.isUnmixed
  | .thresh _ _ | .key _ | .after _ | .older _ | .hash _ _ | .unknown => true

end Policy

namespace Node

def Shows (node : Node) (timelocks : Timelocks) (unmixed : Bool) : Prop :=
  node.knownTimelocks = timelocks ∧ node.noTimelockMix = unmixed

variable {a b node : Node} {items : List Node} {x y : Timelocks} {p q : Bool}

theorem shows_or (first : a.Shows x p) (second : b.Shows y q)
    (typed : orD a b = .ok node ∨ orI a b = .ok node) : node.Shows (x.merge y) (p && q) := by
  obtain ⟨known, both⟩ := typed.elim timelocks_of_orD timelocks_of_orI
  exact ⟨by rw [known, first.1, second.1], by rw [both, first.2, second.2]⟩

theorem timelocksOfAll_eq_none (timeless : ∀ item ∈ items, item.Shows .none true) :
    timelocksOfAll items = .none := by
  induction items with
  | nil => rfl
  | cons item items ih =>
    obtain ⟨here, later⟩ := List.forall_mem_cons.mp timeless
    rw [timelocksOfAll, List.foldr_cons, here.1, ← timelocksOfAll, ih later]
    rfl

theorem shows_thresh {required : Nat} (timeless : ∀ item ∈ items, item.Shows .none true)
    (typed : thresh required items = .ok node) : node.Shows .none true := by
  rcases timelocks_of_thresh typed with ⟨rfl, hidden⟩ | ⟨many, known, apart⟩
  · obtain ⟨first, rest, rfl, found⟩ := exists_threshTimelocks typed
    have each : rest.all Node.noTimelockMix = true :=
      List.all_eq_true.mpr fun item member => (timeless item (List.mem_cons_of_mem _ member)).2
    simp only [threshTimelocks, if_true, threshOne, each] at found
    split at found
    · exact ⟨by simp [knownTimelocks, hidden], (congrArg Prod.snd (Except.ok.inj found)).symm⟩
    · cases found
  · rw [timelocksOfAll_eq_none timeless] at known
    exact ⟨known, by rw [apart, known]; rfl⟩

end Node

namespace Miniscript

def IsSigner (item : Miniscript) : Prop :=
  ∃ name, item = .key name ∨ item = .wrap .s (.key name)

variable {item : Miniscript} {required : Nat} {items : List Miniscript}

theorem IsSigner.spending (signer : item.IsSigner) : item.spending = .key := by
  obtain ⟨name, rfl | rfl⟩ := signer <;> rfl

theorem IsSigner.needsSignature (signer : item.IsSigner) : item.spending.needsSignature = true := by
  rw [signer.spending]
  rfl

theorem IsSigner.witnesses (signer : item.IsSigner) : item.witnesses = .key := by
  obtain ⟨name, rfl | rfl⟩ := signer <;> rfl

theorem IsSigner.hidesTimelocks (signer : item.IsSigner) : item.hidesTimelocks = false := by
  obtain ⟨name, rfl | rfl⟩ := signer <;> rfl

theorem IsSigner.determined (signer : item.IsSigner) : item.Determined := by
  have alone (name : Text) : (key name).Determined := determined_leaf rfl trivial
  obtain ⟨name, rfl | rfl⟩ := signer
  · exact alone name
  · exact determined_wrap.mpr (alone name)

theorem IsSigner.shows (signer : item.IsSigner) {a : Node} (typed : item.node = .ok a) :
    a.Shows .none true := by
  obtain ⟨name, rfl | rfl⟩ := signer
  · cases typed
    exact ⟨rfl, rfl⟩
  · cases typed
    exact ⟨rfl, rfl⟩

theorem determined_quorum (signers : ∀ item ∈ items, item.IsSigner) :
    (thresh required items).Determined := by
  have unblocked : (items.map witnesses).any Witnesses.isBlocked = false := by
    simp only [List.any_map, List.any_eq_false]
    intro item member
    simp [(signers item member).witnesses]
    decide
  refine determined_thresh.mpr ⟨⟨fun _ item member => (signers item member).hidesTimelocks, ?_⟩,
    fun item member => (signers item member).determined⟩
  simp [Witnesses.thresh?, unblocked]

theorem nonmalleable_quorum (signers : ∀ item ∈ items, item.IsSigner) :
    (thresh required items).spending.nonmalleable = true := by
  refine spending_thresh_nonmalleable.mpr ⟨fun item member => ?_, ?_⟩
  · simp [(signers item member).spending, Spending.key]
  · have all : items.countP (fun m => m.spending.needsSignature) = items.length :=
      List.countP_eq_length.mpr fun item member => (signers item member).needsSignature
    omega

theorem shows_quorum (signers : ∀ item ∈ items, item.IsSigner) {node : Node}
    (typed : (thresh required items).node = .ok node) : node.Shows .none true := by
  obtain ⟨xs, pairs, whole⟩ := exists_nodes_of_thresh typed
  refine Node.shows_thresh (fun a member => ?_) whole
  obtain ⟨item, inside, itemTyped⟩ := pairs.exists_left_of_mem member
  exact (signers item inside).shows itemTyped

end Miniscript

namespace Lowering

variable {name : Text} {m : Miniscript}

theorem picksFirst_key (picked : PicksFirst outline (.key name) m) : m = .key name := by
  cases picked
  rfl

theorem picksItem_key (picked : PicksItem outline (.key name) m) : m = .wrap .s (.key name) := by
  cases picked
  rfl

end Lowering

namespace Policy

structure Settled (policy : Policy) (m : Miniscript) : Prop where
  key : ∀ name, policy = .key name → m = .key name
  base : m.IsBase
  determined : m.Determined
  nonmalleable : m.spending.nonmalleable = true
  signature : m.spending.needsSignature = !policy.satisfied keyless
  timelocks : ∀ node, m.node = .ok node →
    node.Shows (.ofLeaves policy.leaves) policy.isUnmixed

section Parts

variable {policy left right : Policy} {x y m : Miniscript}

theorem settled_leaf {node : Node} (key : ∀ name, policy = .key name → m = .key name)
    (single : m.subscripts = [m]) (own : m.IsDetermined) (typed : m.node = .ok node)
    (base : node.type.base = .base) (nonmalleable : m.spending.nonmalleable = true)
    (signature : m.spending.needsSignature = !policy.satisfied keyless)
    (shows : node.Shows (.ofLeaves policy.leaves) policy.isUnmixed) : policy.Settled m where
  key := key
  base := ⟨node.type, (describes_of_node typed).type, base⟩
  determined := determined_leaf single own
  nonmalleable := nonmalleable
  signature := signature
  timelocks other same := by
    cases typed.symm.trans same
    exact shows

theorem settled_key (name : Text) : (Policy.key name).Settled (.key name) :=
  settled_leaf (fun _ same => by cases same; rfl) rfl trivial rfl rfl rfl rfl ⟨rfl, rfl⟩

theorem settled_after {value : Nat} (range : Locktime.isInRange value = true) :
    (Policy.after value).Settled (.after value) :=
  settled_leaf nofun rfl trivial (if_pos range) rfl rfl rfl
    ⟨(Timelocks.ofLeaves_singleton (.after value)).symm, rfl⟩

theorem settled_older {value : Nat} (range : Locktime.isInRange value = true) :
    (Policy.older value).Settled (.older value) :=
  settled_leaf nofun rfl trivial (if_pos range) rfl rfl rfl
    ⟨(Timelocks.ofLeaves_singleton (.older value)).symm, rfl⟩

theorem settled_hash {algorithm : HashAlgorithm} {digest : Bytes}
    (size : digest.length = algorithm.digestSize) :
    (Policy.hash algorithm digest).Settled (.hash algorithm digest) :=
  settled_leaf nofun rfl trivial (if_pos (beq_iff_eq.mpr size)) rfl rfl rfl
    ⟨(Timelocks.ofLeaves_singleton (.hash algorithm digest)).symm, rfl⟩

theorem settled_and (first : left.Settled x) (second : right.Settled y) :
    (Policy.and left right).Settled (.andV (verified x) y) where
  key := nofun
  base := isBase_and first.base second.base
  determined := by
    rw [determined_andV, verified, determined_wrap]
    exact ⟨first.determined, second.determined⟩
  nonmalleable := Bool.and_eq_true_iff.mpr ⟨first.nonmalleable, second.nonmalleable⟩
  signature := by
    have either : (Miniscript.andV (verified x) y).spending.needsSignature =
        (x.spending.needsSignature || y.spending.needsSignature) := rfl
    rw [either, first.signature, second.signature, satisfied, Bool.not_and]
  timelocks node typed := by
    obtain ⟨a, b, leftTyped, rightTyped, both⟩ := exists_of_node_andV typed
    obtain ⟨inner, innerTyped, checked⟩ := exists_of_node_wrap leftTyped
    obtain ⟨known, apart⟩ := Node.timelocks_of_andV both
    have all : node.knownTimelocks = .ofLeaves (left.leaves ++ right.leaves) := by
      rw [known, Node.knownTimelocks_wrap checked, (first.timelocks inner innerTyped).1,
        (second.timelocks b rightTyped).1, Timelocks.ofLeaves_append]
    exact ⟨all, by rw [apart, all]; rfl⟩

theorem spending_orCandidate (member : m ∈ orCandidates x y) :
    m.spending.needsSignature = (x.spending.needsSignature && y.spending.needsSignature) := by
  rcases mem_orCandidates.mp member with rfl | rfl | rfl
  · rfl
  · exact Bool.and_comm ..
  · rfl

theorem determined_orCandidate (member : m ∈ orCandidates x y) :
    m.Determined ↔ x.Determined ∧ y.Determined :=
  everywhere_orCandidate (fun _ _ => trivial) (fun _ _ => trivial) member

theorem nonmalleable_of_picked (first : x.IsBase) (second : y.IsBase)
    (picked : pick outline isNonmalleable (orCandidates x y) = .ok m)
    (both : (x.spending.nonmalleable && y.spending.nonmalleable) = true) :
    m.spending.nonmalleable = true := by
  obtain ⟨type, typed, _⟩ := isBase_orI first second
  exact nonmalleable_of_pick picked ⟨_, outline_eq_ok_iff.mpr ⟨type, typed, rfl⟩⟩ both

theorem settled_or (first : left.Settled x) (second : right.Settled y)
    (picked : pick outline isNonmalleable (orCandidates x y) = .ok m) :
    (Policy.or left right).Settled m := by
  have member := pick_mem picked
  obtain ⟨chosen, _, found, base⟩ := exists_pick_or first.base second.base
  cases picked.symm.trans found
  have nonmalleable := nonmalleable_of_picked first.base second.base picked
    (Bool.and_eq_true_iff.mpr ⟨first.nonmalleable, second.nonmalleable⟩)
  refine ⟨by simp, base, ?_, nonmalleable, ?_, ?_⟩
  · exact (determined_orCandidate member).mpr ⟨first.determined, second.determined⟩
  · rw [spending_orCandidate member, first.signature, second.signature, satisfied, Bool.not_or]
  · intro node typed
    rw [leaves, Timelocks.ofLeaves_append, isUnmixed]
    rcases mem_orCandidates.mp member with rfl | rfl | rfl
    · obtain ⟨a, b, leftTyped, rightTyped, both⟩ := exists_of_node_orD typed
      exact Node.shows_or (first.timelocks a leftTyped) (second.timelocks b rightTyped) (.inl both)
    · obtain ⟨b, a, rightTyped, leftTyped, both⟩ := exists_of_node_orD typed
      rw [Timelocks.merge_comm, Bool.and_comm]
      exact Node.shows_or (second.timelocks b rightTyped) (first.timelocks a leftTyped) (.inl both)
    · obtain ⟨a, b, leftTyped, rightTyped, both⟩ := exists_of_node_orI typed
      exact Node.shows_or (first.timelocks a leftTyped) (second.timelocks b rightTyped) (.inr both)

theorem quorum_parts {items : List Policy} (keys : ∀ item ∈ items, ∃ name, item = .key name) :
    satisfiedCount keyless items = 0 ∧ Timelocks.ofLeaves (leavesOfAll items) = .none := by
  induction items with
  | nil => exact ⟨rfl, rfl⟩
  | cons item items ih =>
    obtain ⟨⟨name, rfl⟩, later⟩ := List.forall_mem_cons.mp keys
    obtain ⟨unsigned, timeless⟩ := ih later
    constructor
    · rw [satisfiedCount, unsigned]
      rfl
    · rw [leavesOfAll, Timelocks.ofLeaves_append, timeless]
      rfl

theorem settled_quorum {required : Nat} {items : List Policy} {name : Text} {scripts : List Miniscript}
    (positive : 1 ≤ required) (bounded : required ≤ scripts.length + 1)
    (keys : ∀ item ∈ items, ∃ name, item = .key name)
    (wrapped : ∀ script ∈ scripts, ∃ name, script = .wrap .s (.key name)) :
    (Policy.thresh required items).Settled (.thresh required (.key name :: scripts)) := by
  have signers : ∀ item ∈ Miniscript.key name :: scripts, item.IsSigner := by
    refine List.forall_mem_cons.mpr ⟨⟨name, .inl rfl⟩, fun script member => ?_⟩
    obtain ⟨other, same⟩ := wrapped script member
    exact ⟨other, .inr same⟩
  have suit : ∀ script ∈ scripts, script.Suits .wrapped := by
    intro script member
    obtain ⟨other, rfl⟩ := wrapped script member
    exact ⟨_, rfl, rfl⟩
  obtain ⟨unsigned, timeless⟩ := quorum_parts keys
  refine ⟨nofun, isBase_thresh positive bounded ⟨_, rfl, rfl⟩ suit, determined_quorum signers,
    nonmalleable_quorum signers, ?_, ?_⟩
  · have needs := needsSignature_thresh positive fun item member =>
      (signers item member).needsSignature
    rw [needs, satisfied, unsigned, decide_eq_false (by omega), Bool.not_false]
  · intro node typed
    rw [leaves, timeless]
    exact shows_quorum signers typed

end Parts

theorem settled_invariant :
    LoweringInvariant outline fun policy m => policy.WellFormed → policy.HasQuorums → policy.Settled m where
  key name _ _ := settled_key name
  after _ wellFormed _ := settled_after wellFormed
  older _ wellFormed _ := settled_older wellFormed
  hash _ _ wellFormed _ := settled_hash wellFormed
  and left right wellFormed quorums :=
    settled_and (left wellFormed.1 quorums.1) (right wellFormed.2 quorums.2)
  or left right picked wellFormed quorums :=
    settled_or (left wellFormed.1 quorums.1) (right wellFormed.2 quorums.2) picked
  thresh {required first x m items scripts} head picked others wellFormed quorums := by
    obtain ⟨positive, bounded, _, here, each⟩ := wellFormed
    obtain ⟨⟨name, rfl⟩, later⟩ := List.forall_mem_cons.mp quorums
    rw [(head here trivial).key name rfl] at picked
    cases picksFirst_key picked
    refine settled_quorum positive ?_ quorums fun script member => ?_
    · rwa [← others.length_eq]
    · obtain ⟨item, inside, y, settled, candidate⟩ := others.exists_left_of_mem member
      obtain ⟨other, rfl⟩ := later item inside
      rw [(settled (allWellFormed_iff.mp each _ inside) trivial).key other rfl] at candidate
      exact ⟨other, picksItem_key candidate⟩

end Policy

end SpendPolicy
