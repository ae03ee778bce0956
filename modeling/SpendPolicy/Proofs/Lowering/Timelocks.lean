import SpendPolicy.Proofs.Lowering.Meaning
import SpendPolicy.Proofs.Miniscript.Typing
import SpendPolicy.Proofs.Policy.Timelocks

set_option autoImplicit false

namespace SpendPolicy

open Lowering

namespace Node

variable {a b node : Node}

theorem timelocks_of_andV (typed : andV a b = .ok node) :
    node.knownTimelocks = a.knownTimelocks.merge b.knownTimelocks ∧
      node.noTimelockMix = !node.knownTimelocks.mixes := by
  obtain ⟨_, rfl⟩ := require_eq_ok_iff.mp typed
  exact ⟨rfl, rfl⟩

theorem timelocks_of_orD (typed : orD a b = .ok node) :
    node.knownTimelocks = a.knownTimelocks.merge b.knownTimelocks ∧
      node.noTimelockMix = (a.noTimelockMix && b.noTimelockMix) := by
  obtain ⟨_, rfl⟩ := require_eq_ok_iff.mp typed
  exact ⟨rfl, rfl⟩

theorem timelocks_of_orI (typed : orI a b = .ok node) :
    node.knownTimelocks = a.knownTimelocks.merge b.knownTimelocks ∧
      node.noTimelockMix = (a.noTimelockMix && b.noTimelockMix) := by
  obtain ⟨_, rfl⟩ := require_eq_ok_iff.mp typed
  exact ⟨rfl, rfl⟩

theorem knownTimelocks_wrap {wrapper : Wrapper} (typed : wrap wrapper a = .ok node) :
    node.knownTimelocks = a.knownTimelocks := by
  cases wrapper with
  | v | s | a | n =>
    obtain ⟨_, rfl⟩ := require_eq_ok_iff.mp typed
    rfl
  | l =>
    rw [(timelocks_of_orI typed).1]
    exact Timelocks.none_merge _
  | u =>
    rw [(timelocks_of_orI typed).1, Timelocks.merge_comm]
    exact Timelocks.none_merge _

def timelocksOfAll (items : List Node) : Timelocks :=
  items.foldr (fun item rest => item.knownTimelocks.merge rest) .none

theorem mergeItems_known {timelocks merged : Option Timelocks} {items : List Node}
    (merges : mergeItems timelocks items = .ok merged) :
    merged.getD .none = (timelocks.getD .none).merge (timelocksOfAll items) := by
  induction items generalizing timelocks with
  | nil =>
    cases merges
    rw [Timelocks.merge_comm]
    exact (Timelocks.none_merge _).symm
  | cons item items ih =>
    unfold mergeItems at merges
    split at merges
    · split at merges
      · next x y known =>
        rw [ih merges]
        simp [timelocksOfAll, knownTimelocks, known, Timelocks.merge_assoc]
      · cases merges
    · cases merges

theorem exists_threshTimelocks {required : Nat} {items : List Node}
    (typed : thresh required items = .ok node) :
    ∃ first rest, items = first :: rest ∧
      threshTimelocks required first rest = .ok (node.timelocks, node.noTimelockMix) := by
  unfold thresh at typed
  split at typed
  · cases typed
  · next first rest =>
    split at typed
    · unfold threshOf at typed
      split at typed
      · cases typed
      · next timelocks apart found =>
        split at typed
        · cases typed
        · cases typed
          exact ⟨first, rest, rfl, found⟩
    · cases typed

theorem timelocks_of_thresh {required : Nat} {items : List Node}
    (typed : thresh required items = .ok node) :
    required = 1 ∧ node.timelocks = none ∨
      required ≠ 1 ∧ node.knownTimelocks = timelocksOfAll items ∧
        node.noTimelockMix = !node.knownTimelocks.mixes := by
  obtain ⟨first, rest, rfl, found⟩ := exists_threshTimelocks typed
  unfold threshTimelocks at found
  split at found
  · next one =>
    unfold threshOne at found
    split at found
    · exact .inl ⟨one, (congrArg Prod.fst (Except.ok.inj found)).symm⟩
    · cases found
  · next many =>
    unfold threshMany at found
    split at found
    · cases found
    · next merged merges =>
      have same := Except.ok.inj found
      have timelocks : merged = node.timelocks := congrArg Prod.fst same
      have apart : (!mixesTimelocks merged) = node.noTimelockMix := congrArg Prod.snd same
      refine .inr ⟨many, ?_, ?_⟩
      · rw [knownTimelocks, ← timelocks]
        exact mergeItems_known merges
      · rw [← apart, timelocks]
        rfl

end Node

namespace Miniscript

variable {x m : Miniscript} {node : Node}

theorem knownTimelocks_optional (typed : (optional x).node = .ok node) :
    ∃ a, x.node = .ok a ∧ node.knownTimelocks = a.knownTimelocks := by
  obtain ⟨b, inner, wrapped⟩ := exists_of_node_wrap typed
  obtain ⟨a, innermost, unit⟩ := exists_of_node_wrap inner
  exact ⟨a, innermost, (Node.knownTimelocks_wrap wrapped).trans (Node.knownTimelocks_wrap unit)⟩

theorem knownTimelocks_firstCandidate (member : m ∈ firstCandidates x) (typed : m.node = .ok node) :
    ∃ a, x.node = .ok a ∧ node.knownTimelocks = a.knownTimelocks := by
  rcases mem_firstCandidates.mp member with rfl | rfl
  · exact ⟨node, typed, rfl⟩
  · exact knownTimelocks_optional typed

theorem knownTimelocks_itemCandidate (member : m ∈ itemCandidates x) (typed : m.node = .ok node) :
    ∃ a, x.node = .ok a ∧ node.knownTimelocks = a.knownTimelocks := by
  obtain ⟨first, inside, rfl | rfl⟩ := mem_itemCandidates.mp member
  · obtain ⟨b, inner, wrapped⟩ := exists_of_node_wrap typed
    obtain ⟨a, innermost, same⟩ := knownTimelocks_firstCandidate inside inner
    exact ⟨a, innermost, (Node.knownTimelocks_wrap wrapped).trans same⟩
  · obtain ⟨b, inner, wrapped⟩ := exists_of_node_wrap typed
    obtain ⟨a, innermost, same⟩ := knownTimelocks_firstCandidate inside inner
    exact ⟨a, innermost, (Node.knownTimelocks_wrap wrapped).trans same⟩

end Miniscript

namespace Policy

open Miniscript (mem_orCandidates exists_of_node_andV exists_of_node_orD exists_of_node_orI
  exists_of_node_wrap exists_nodes_of_thresh knownTimelocks_firstCandidate
  knownTimelocks_itemCandidate)

structure ShowsTimelocks (policy : Policy) (node : Node) : Prop where
  known : node.knownTimelocks = .ofLeaves policy.outsideOnes.leaves
  apart : node.noTimelockMix = true → policy.outsideOnes.mixes = false

section Nodes

variable {policy left right : Policy} {a b node : Node}

theorem showsTimelocks_of_all (known : node.knownTimelocks = .ofLeaves policy.outsideOnes.leaves)
    (all : node.noTimelockMix = !node.knownTimelocks.mixes) : policy.ShowsTimelocks node where
  known := known
  apart none := by
    rw [all, known, Bool.not_eq_true'] at none
    exact not_mixes_of_timelocks none

theorem showsTimelocks_or (first : left.ShowsTimelocks a) (second : right.ShowsTimelocks b)
    (known : node.knownTimelocks = a.knownTimelocks.merge b.knownTimelocks)
    (both : node.noTimelockMix = (a.noTimelockMix && b.noTimelockMix)) :
    (Policy.or left right).ShowsTimelocks node where
  known := by simp [known, first.known, second.known, outsideOnes, leaves]
  apart none := by
    rw [both, Bool.and_eq_true] at none
    simp [outsideOnes, mixes, first.apart none.1, second.apart none.2]

theorem timelocksOfAll_eq {items : List Policy} {nodes : List Node}
    (each : List.Forall₂ (fun item a => a.knownTimelocks = .ofLeaves item.outsideOnes.leaves)
      items nodes) :
    Node.timelocksOfAll nodes = .ofLeaves ((items.map outsideOnes).flatMap leaves) := by
  induction each with
  | nil => rfl
  | @cons item a items nodes here _ ih =>
    rw [List.map_cons, List.flatMap_cons, Timelocks.ofLeaves_append, ← here, ← ih]
    rfl

theorem showsTimelocks_thresh {required : Nat} {items : List Policy} {nodes : List Node}
    (each : List.Forall₂ (fun item a => a.knownTimelocks = .ofLeaves item.outsideOnes.leaves)
      items nodes)
    (typed : Node.thresh required nodes = .ok node) :
    (Policy.thresh required items).ShowsTimelocks node := by
  rcases Node.timelocks_of_thresh typed with ⟨rfl, hidden⟩ | ⟨many, known, all⟩
  · -- A threshold of one tells nothing, and nothing of it is left outside.
    constructor
    · simp [Node.knownTimelocks, hidden, outsideOnes, leaves]
    · intro _
      rfl
  · apply showsTimelocks_of_all _ all
    rw [known, timelocksOfAll_eq each]
    simp [outsideOnes, leaves, many]

end Nodes

theorem timelocks_invariant (typing : Typing) :
    LoweringInvariant typing fun policy m => ∀ node, m.node = .ok node → policy.ShowsTimelocks node where
  key name := by
    rintro node ⟨⟩
    exact showsTimelocks_of_all rfl rfl
  after value node typed := by
    obtain ⟨_, rfl⟩ := Node.require_eq_ok_iff.mp typed
    exact ⟨(Timelocks.ofLeaves_singleton (.after value)).symm, fun _ => rfl⟩
  older value node typed := by
    obtain ⟨_, rfl⟩ := Node.require_eq_ok_iff.mp typed
    exact ⟨(Timelocks.ofLeaves_singleton (.older value)).symm, fun _ => rfl⟩
  hash algorithm digest node typed := by
    obtain ⟨_, rfl⟩ := Node.require_eq_ok_iff.mp typed
    exact showsTimelocks_of_all rfl rfl
  and {left right x y} first second node typed := by
    obtain ⟨a, b, leftTyped, rightTyped, both⟩ := exists_of_node_andV typed
    obtain ⟨inner, innerTyped, checked⟩ := exists_of_node_wrap leftTyped
    obtain ⟨known, all⟩ := Node.timelocks_of_andV both
    apply showsTimelocks_of_all _ all
    rw [known, Node.knownTimelocks_wrap checked, (first inner innerTyped).known,
      (second b rightTyped).known, ← Timelocks.ofLeaves_append]
    rfl
  or {left right x y m} first second picked node typed := by
    rcases mem_orCandidates.mp (pick_mem picked) with rfl | rfl | rfl
    · obtain ⟨a, b, leftTyped, rightTyped, both⟩ := exists_of_node_orD typed
      obtain ⟨known, each⟩ := Node.timelocks_of_orD both
      exact showsTimelocks_or (first a leftTyped) (second b rightTyped) known each
    · obtain ⟨b, a, rightTyped, leftTyped, both⟩ := exists_of_node_orD typed
      obtain ⟨known, each⟩ := Node.timelocks_of_orD both
      rw [Timelocks.merge_comm] at known
      rw [Bool.and_comm] at each
      exact showsTimelocks_or (first a leftTyped) (second b rightTyped) known each
    · obtain ⟨a, b, leftTyped, rightTyped, both⟩ := exists_of_node_orI typed
      obtain ⟨known, each⟩ := Node.timelocks_of_orI both
      exact showsTimelocks_or (first a leftTyped) (second b rightTyped) known each
  thresh {required first x m items scripts} head picked others node typed := by
    obtain ⟨nodes, pairs, whole⟩ := exists_nodes_of_thresh typed
    cases pairs with
    | @cons _ a _ rest headTyped restTyped =>
      refine showsTimelocks_thresh (.cons ?_ ?_) whole
      · obtain ⟨inner, innerTyped, same⟩ := knownTimelocks_firstCandidate (pick_mem picked) headTyped
        rw [same, (head inner innerTyped).known]
      · refine (others.comp restTyped).imp ?_
        rintro item b ⟨script, ⟨y, shows, candidate⟩, scriptTyped⟩
        obtain ⟨inner, innerTyped, same⟩ :=
          knownTimelocks_itemCandidate (pick_mem candidate) scriptTyped
        rw [same, (shows inner innerTyped).known]

end Policy

end SpendPolicy
