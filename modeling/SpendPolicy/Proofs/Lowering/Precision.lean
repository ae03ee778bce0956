import SpendPolicy.Proofs.Lowering.Malleability

set_option autoImplicit false

namespace SpendPolicy

open Lowering
open Environment (keyless)

namespace Miniscript

/-- By the analysis the items of a threshold are expressive, and enough of them need a signature. -/
def IsCredited : Miniscript → Prop
  | .thresh required items => (∀ item ∈ items, item.spending.expressive = true) ∧
    items.length ≤ items.countP (fun m => m.spending.needsSignature) + required
  | _ => True

def Credited (m : Miniscript) : Prop :=
  m.Everywhere IsCredited

section Credited

variable {x y : Miniscript}

theorem credited_andV : (andV x y).Credited ↔ x.Credited ∧ y.Credited :=
  everywhere_andV.trans (iff_of_eq (true_and _))

theorem credited_thresh {required : Nat} {items : List Miniscript} :
    (thresh required items).Credited ↔
      (thresh required items).IsCredited ∧ ∀ item ∈ items, item.Credited :=
  everywhere_thresh

theorem credited_wrap {wrapper : Wrapper} : (wrap wrapper x).Credited ↔ x.Credited :=
  everywhere_wrap.trans (iff_of_eq (true_and _))

-- The analysis calls a script malleable for any malleable part of it.
mutual

theorem credited_of_nonmalleable (m : Miniscript) (nonmalleable : m.spending.nonmalleable = true) :
    m.Credited := by
  match m with
  | .zero | .key _ | .after _ | .older _ | .hash _ _ =>
    exact List.forall_mem_singleton.mpr trivial
  | .andV left right =>
    obtain ⟨first, second⟩ := Bool.and_eq_true_iff.mp nonmalleable
    exact credited_andV.mpr ⟨credited_of_nonmalleable left first, credited_of_nonmalleable right second⟩
  | .orD left right =>
    simp only [spending, Spending.orD, Bool.and_eq_true] at nonmalleable
    obtain ⟨⟨⟨first, second⟩, _⟩, _⟩ := nonmalleable
    exact everywhere_orD.mpr
      ⟨trivial, credited_of_nonmalleable left first, credited_of_nonmalleable right second⟩
  | .orI left right =>
    obtain ⟨first, second⟩ := Bool.and_eq_true_iff.mp nonmalleable
    exact everywhere_orI.mpr
      ⟨trivial, credited_of_nonmalleable left first, credited_of_nonmalleable right second⟩
  | .thresh required items =>
    obtain ⟨each, enough⟩ := spending_thresh_nonmalleable.mp nonmalleable
    exact credited_thresh.mpr ⟨⟨fun item member => (each item member).1, enough⟩,
      credited_of_all_nonmalleable items fun item member => (each item member).2⟩
  | .wrap wrapper argument =>
    have inner : argument.spending.nonmalleable = true := by
      cases wrapper with
      | v | s | a | n | l => exact nonmalleable
      | u => exact (Bool.and_eq_true_iff.mp nonmalleable).1
    exact credited_wrap.mpr (credited_of_nonmalleable argument inner)

theorem credited_of_all_nonmalleable (items : List Miniscript)
    (each : ∀ item ∈ items, item.spending.nonmalleable = true) : ∀ item ∈ items, item.Credited := by
  match items with
  | [] => exact List.forall_mem_nil _
  | item :: items =>
    obtain ⟨here, later⟩ := List.forall_mem_cons.mp each
    exact List.forall_mem_cons.mpr
      ⟨credited_of_nonmalleable item here, credited_of_all_nonmalleable items later⟩

end

end Credited

structure Precise (m : Miniscript) : Prop where
  credited : m.reference.nonmalleable = true → m.Credited → m.spending.nonmalleable = true
  zeroFree : m.reference.nonmalleable = true → m.ZeroFree → m.spending.nonmalleable = true ∧
    (m.reference.expressive = true → m.spending.expressive = true)

section Precise

variable {x y m : Miniscript}

theorem needsSignature_eq_reference (free : m.ZeroFree) :
    m.spending.needsSignature = m.reference.needsSignature := by
  rw [needsSignature_of_zeroFree free, reference_needsSignature_eq]

theorem precise_leaf (sound : m.spending.nonmalleable = true)
    (same : m.spending.expressive = m.reference.expressive) : m.Precise where
  credited _ _ := sound
  zeroFree _ _ := ⟨sound, same.trans⟩

theorem precise_andV (left : x.Precise) (right : y.Precise) : (andV (verified x) y).Precise where
  credited nonmalleable credited := by
    obtain ⟨first, second⟩ := Bool.and_eq_true_iff.mp nonmalleable
    obtain ⟨here, there⟩ := credited_andV.mp credited
    exact Bool.and_eq_true_iff.mpr
      ⟨left.credited first (credited_wrap.mp here), right.credited second there⟩
  zeroFree nonmalleable free := by
    obtain ⟨first, second⟩ := Bool.and_eq_true_iff.mp nonmalleable
    obtain ⟨_, verified, there⟩ := everywhere_andV.mp free
    obtain ⟨_, here⟩ := everywhere_wrap.mp verified
    exact ⟨Bool.and_eq_true_iff.mpr ⟨(left.zeroFree first here).1, (right.zeroFree second there).1⟩, nofun⟩

section Or

theorem exists_nodes_of_orCandidate {node : Node} (member : m ∈ orCandidates x y)
    (typed : m.node = .ok node) : ∃ a b, x.node = .ok a ∧ y.node = .ok b := by
  rcases mem_orCandidates.mp member with rfl | rfl | rfl
  · obtain ⟨a, b, first, second, _⟩ := exists_of_node_orD typed
    exact ⟨a, b, first, second⟩
  · obtain ⟨b, a, second, first, _⟩ := exists_of_node_orD typed
    exact ⟨a, b, first, second⟩
  · obtain ⟨a, b, first, second, _⟩ := exists_of_node_orI typed
    exact ⟨a, b, first, second⟩

theorem exists_node_orI {a b : Node} (here : Analysed x a) (there : Analysed y b) (first : x.node = .ok a)
    (second : y.node = .ok b) : ∃ node, (orI x y).node = .ok node := by
  simp only [Miniscript.node, first, second]
  exact ⟨_, Node.require_eq_ok_iff.mpr ⟨by simp [here.base, there.base], rfl⟩⟩

theorem reference_nonmalleable_parts (member : m ∈ orCandidates x y)
    (nonmalleable : m.reference.nonmalleable = true) :
    x.reference.nonmalleable = true ∧ y.reference.nonmalleable = true := by
  rcases mem_orCandidates.mp member with rfl | rfl | rfl
  · simp only [reference, Reference.orD, Bool.and_eq_true] at nonmalleable
    exact nonmalleable.1.1
  · simp only [reference, Reference.orD, Bool.and_eq_true] at nonmalleable
    exact nonmalleable.1.1.symm
  · simp only [reference, Reference.orI, Bool.and_eq_true] at nonmalleable
    exact nonmalleable.1

theorem precise_or {a b : Node} (here : Analysed x a) (there : Analysed y b) (first : x.node = .ok a)
    (second : y.node = .ok b) (picked : pick Miniscript.node isNonmalleable (orCandidates x y) = .ok m)
    (left : x.Precise) (right : y.Precise) : m.Precise := by
  have member := pick_mem picked
  have sound := nonmalleable_of_pick picked (exists_node_orI here there first second)
  rw [Bool.and_eq_true] at sound
  constructor
  · intro nonmalleable credited
    obtain ⟨soundLeft, soundRight⟩ := reference_nonmalleable_parts member nonmalleable
    obtain ⟨ownLeft, ownRight⟩ :=
      (everywhere_orCandidate (fun _ _ => trivial) (fun _ _ => trivial) member).mp credited
    exact sound ⟨left.credited soundLeft ownLeft, right.credited soundRight ownRight⟩
  · intro nonmalleable free
    obtain ⟨soundLeft, soundRight⟩ := reference_nonmalleable_parts member nonmalleable
    obtain ⟨ownLeft, ownRight⟩ :=
      (everywhere_orCandidate (fun _ _ => trivial) (fun _ _ => trivial) member).mp free
    obtain ⟨mx, ex⟩ := left.zeroFree soundLeft ownLeft
    obtain ⟨my, ey⟩ := right.zeroFree soundRight ownRight
    refine ⟨sound ⟨mx, my⟩, fun expressive => ?_⟩
    -- The first part of an `or_d` is expressive, since the reference calls it nonmalleable.
    rcases mem_orCandidates.mp member with rfl | rfl | rfl
    · simp only [reference, Reference.orD, Bool.and_eq_true] at nonmalleable
      exact Bool.and_eq_true_iff.mpr ⟨ex nonmalleable.1.2, ey expressive⟩
    · simp only [reference, Reference.orD, Bool.and_eq_true] at nonmalleable
      exact Bool.and_eq_true_iff.mpr ⟨ey nonmalleable.1.2, ex expressive⟩
    · obtain ⟨dullLeft, dullRight⟩ := dull_parts_of_orI here there first second picked
      simp only [reference, Reference.orI, Bool.or_eq_true, Bool.and_eq_true] at expressive
      rcases expressive with ⟨part, _⟩ | ⟨_, part⟩
      · exact absurd (ex part) (by simp [dullLeft])
      · exact absurd (ey part) (by simp [dullRight])

end Or

theorem precise_optional (inner : x.Precise) : (Lowering.optional x).Precise where
  credited nonmalleable credited := by
    have sound : x.reference.nonmalleable = true := by
      simpa [Lowering.optional, reference, Reference.wrap, Reference.orI, Reference.zero] using nonmalleable
    exact inner.credited sound (credited_wrap.mp (credited_wrap.mp credited))
  zeroFree _ free := (everywhere_wrap.mp free).1.elim

theorem precise_wrap {wrapper : Wrapper} (plain : wrapper = .s ∨ wrapper = .a) (inner : x.Precise) :
    (wrap wrapper x).Precise := by
  rcases plain with rfl | rfl
  · exact ⟨fun sound credited => inner.credited sound (credited_wrap.mp credited),
      fun sound free => inner.zeroFree sound (everywhere_wrap.mp free).2⟩
  · exact ⟨fun sound credited => inner.credited sound (credited_wrap.mp credited),
      fun sound free => inner.zeroFree sound (everywhere_wrap.mp free).2⟩

theorem precise_of_candidate {node : Node} (precise : ∀ a, x.node = .ok a → x.Precise)
    (member : m ∈ firstCandidates x ∨ m ∈ itemCandidates x) (typed : m.node = .ok node) : m.Precise :=
  item_cases precise (fun a inner => precise_optional (precise a inner))
    (fun _ plain _ inner => precise_wrap plain inner) member typed

theorem precise_thresh {required : Nat} {items : List Miniscript} (each : ∀ item ∈ items, item.Precise) :
    (thresh required items).Precise where
  credited nonmalleable credited := by
    obtain ⟨sound, _⟩ := reference_thresh_nonmalleable.mp nonmalleable
    obtain ⟨⟨expressive, enough⟩, inner⟩ := credited_thresh.mp credited
    exact spending_thresh_nonmalleable.mpr ⟨fun item member => ⟨expressive item member,
      (each item member).credited (sound item member).2 (inner item member)⟩, enough⟩
  zeroFree nonmalleable free := by
    obtain ⟨sound, enough⟩ := reference_thresh_nonmalleable.mp nonmalleable
    have inner := zeroFree_thresh.mp free
    have found : ∀ item ∈ items, item.spending.nonmalleable = true ∧ item.spending.expressive = true := by
      intro item member
      obtain ⟨nonmalleable, expressive⟩ :=
        (each item member).zeroFree (sound item member).2 (inner item member)
      exact ⟨nonmalleable, expressive (sound item member).1⟩
    have count : items.countP (fun m => m.spending.needsSignature) =
        items.countP (fun m => m.reference.needsSignature) :=
      List.countP_congr fun item member => by rw [needsSignature_eq_reference (inner item member)]
    refine ⟨spending_thresh_nonmalleable.mpr ⟨fun item member => (found item member).symm, ?_⟩,
      fun expressive => spending_thresh_expressive.mpr fun item member => ⟨(found item member).2, ?_⟩⟩
    · rw [count]
      exact enough
    · rw [needsSignature_eq_reference (inner item member)]
      exact (reference_thresh_expressive.mp expressive item member).2

end Precise

end Miniscript

namespace Policy

open Miniscript

theorem precise_invariant : LoweringInvariant Miniscript.node fun _ m =>
    m.WellAnalysed ∧ ∀ node, m.node = .ok node → m.Precise where
  key name := ⟨wellAnalysed_invariant.key name, fun _ _ => precise_leaf rfl rfl⟩
  after value := ⟨wellAnalysed_invariant.after value, fun _ _ => precise_leaf rfl rfl⟩
  older value := ⟨wellAnalysed_invariant.older value, fun _ _ => precise_leaf rfl rfl⟩
  hash algorithm digest :=
    ⟨wellAnalysed_invariant.hash algorithm digest, fun _ _ => precise_leaf rfl rfl⟩
  and left right := by
    refine ⟨wellAnalysed_andV left.1 right.1, fun node typed => ?_⟩
    obtain ⟨_, b, verified, there, _⟩ := exists_of_node_andV typed
    obtain ⟨a, here, _⟩ := exists_of_node_wrap verified
    exact precise_andV (left.2 a here) (right.2 b there)
  or {first second x y m} left right picked := by
    refine ⟨@LoweringInvariant.or _ _ wellAnalysed_invariant first second x y m left.1 right.1 picked,
      fun node typed => ?_⟩
    obtain ⟨a, b, here, there⟩ := exists_nodes_of_orCandidate (pick_mem picked) typed
    exact precise_or (left.1 a here) (right.1 b there) here there picked (left.2 a here) (right.2 b there)
  thresh {required opening x m items scripts} head picked others := by
    refine ⟨@LoweringInvariant.thresh _ _ wellAnalysed_invariant required opening x m items scripts head.1
      picked (others.imp fun _ _ ⟨x, inner, picked⟩ => ⟨x, inner.1, picked⟩), fun node typed => ?_⟩
    obtain ⟨xs, pairs, _⟩ := exists_nodes_of_thresh typed
    apply precise_thresh
    intro item member
    obtain ⟨a, _, own⟩ := pairs.exists_right_of_mem member
    rcases List.mem_cons.mp member with rfl | later
    · exact precise_of_candidate head.2 (.inl (pick_mem picked)) own
    · obtain ⟨_, _, x, inner, candidate⟩ := others.exists_left_of_mem later
      exact precise_of_candidate inner.2 (.inr (pick_mem candidate)) own

section Lowered

variable {policy : Policy} {m : Miniscript} {node : Node}

theorem nonmalleable_iff_credited (lowered : policy.lower = .ok m) (typed : m.node = .ok node)
    (nonmalleable : m.reference.nonmalleable = true) :
    m.spending.nonmalleable = true ↔ m.Credited :=
  ⟨credited_of_nonmalleable m, ((precise_invariant.holds lowered).2 node typed).credited nonmalleable⟩

theorem nonmalleable_of_zeroFree (lowered : policy.lower = .ok m) (typed : m.node = .ok node)
    (nonmalleable : m.reference.nonmalleable = true) (free : m.ZeroFree) :
    m.spending.nonmalleable = true :=
  (((precise_invariant.holds lowered).2 node typed).zeroFree nonmalleable free).1

theorem base_of_lowered (lowered : policy.lower = .ok m) (typed : m.node = .ok node) :
    node.type.base = .base :=
  (wellAnalysed_invariant.holds lowered node typed).base

end Lowered

end Policy

end SpendPolicy
