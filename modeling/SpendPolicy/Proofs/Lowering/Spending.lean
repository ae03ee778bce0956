import SpendPolicy.Proofs.Lowering.Members

set_option autoImplicit false

namespace SpendPolicy

open Lowering Miniscript

namespace Policy

structure Reflects (policy : Policy) (m : Miniscript) : Prop where
  coherent : m.Coherent
  shows : ∀ node, m.node = .ok node → policy.ShowsTimelocks node
  hides : m.hidesTimelocks = policy.asksForOne
  agree : m.spending.nonmalleable = true ∨ policy.spending.nonmalleable = true →
    m.spending = policy.spending
  determined : m.spending.nonmalleable = true → (m.Determined ↔ policy.nestsOnes = false)
  apart : m.spending.nonmalleable = true → m.spending.needsSignature = true →
    ∀ node, m.node = .ok node → node.noTimelockMix = !policy.reportsMix

section Parts

variable {policy left right : Policy} {x y m script : Miniscript}

theorem reflects_leaf (coherent : m.Coherent)
    (shows : ∀ node, m.node = .ok node → policy.ShowsTimelocks node)
    (single : m.subscripts = [m]) (own : m.IsDetermined)
    (hides : m.hidesTimelocks = policy.asksForOne) (spending : m.spending = policy.spending)
    (flat : policy.nestsOnes = false) (unmixed : policy.reportsMix = false)
    (apart : ∀ node, m.node = .ok node → node.noTimelockMix = true) : policy.Reflects m where
  coherent := coherent
  shows := shows
  hides := hides
  agree _ := spending
  determined _ := iff_of_true (determined_leaf single own) flat
  apart _ _ node typed := by rw [apart node typed, unmixed, Bool.not_false]

theorem reflects_and (first : left.Reflects x) (second : right.Reflects y) :
    (Policy.and left right).Reflects (.andV (verified x) y) where
  coherent := coherent_andV first.coherent second.coherent
  shows := (timelocks_invariant outline).and first.shows second.shows
  hides := rfl
  agree nonmalleable := by
    have parts : x.spending.nonmalleable = true ∧ y.spending.nonmalleable = true ∨
        left.spending.nonmalleable = true ∧ right.spending.nonmalleable = true :=
      nonmalleable.imp Bool.and_eq_true_iff.mp Bool.and_eq_true_iff.mp
    have here := first.agree (parts.imp And.left And.left)
    have there := second.agree (parts.imp And.right And.right)
    rw [Policy.spending, ← here, ← there]
    rfl
  determined nonmalleable := by
    obtain ⟨here, there⟩ := Bool.and_eq_true_iff.mp nonmalleable
    rw [determined_andV, verified, determined_wrap, first.determined here, second.determined there,
      nestsOnes, Bool.or_eq_false_iff]
  apart _ _ node typed := by
    obtain ⟨a, b, _, _, both⟩ := exists_of_node_andV typed
    have shown := (timelocks_invariant outline).and first.shows second.shows node typed
    rw [(Node.timelocks_of_andV both).2, shown.known]
    rfl

theorem noTimelockMix_of_orCandidate {node : Node} (member : m ∈ orCandidates x y)
    (typed : m.node = .ok node) : ∃ a b, x.node = .ok a ∧ y.node = .ok b ∧
      node.noTimelockMix = (a.noTimelockMix && b.noTimelockMix) := by
  rcases mem_orCandidates.mp member with rfl | rfl | rfl
  · obtain ⟨a, b, first, second, both⟩ := exists_of_node_orD typed
    exact ⟨a, b, first, second, (Node.timelocks_of_orD both).2⟩
  · obtain ⟨b, a, second, first, both⟩ := exists_of_node_orD typed
    exact ⟨a, b, first, second, (Node.timelocks_of_orD both).2.trans (Bool.and_comm ..)⟩
  · obtain ⟨a, b, first, second, both⟩ := exists_of_node_orI typed
    exact ⟨a, b, first, second, (Node.timelocks_of_orI both).2⟩

theorem reflects_or (first : left.Reflects x) (second : right.Reflects y)
    (picked : pick outline isNonmalleable (orCandidates x y) = .ok m) :
    (Policy.or left right).Reflects m := by
  have member := pick_mem picked
  have spending := spending_of_pick_or first.coherent second.coherent picked
  have parts : m.spending.nonmalleable = true →
      x.spending.nonmalleable = true ∧ y.spending.nonmalleable = true := by
    intro nonmalleable
    rw [spending] at nonmalleable
    exact Bool.and_eq_true_iff.mp nonmalleable
  have shows := (timelocks_invariant outline).or first.shows second.shows picked
  refine ⟨coherent_or first.coherent second.coherent picked, shows, ?_, ?_, ?_, ?_⟩
  · rcases mem_orCandidates.mp member with rfl | rfl | rfl <;> rfl
  · intro nonmalleable
    have both : x.spending.nonmalleable = true ∧ y.spending.nonmalleable = true ∨
        left.spending.nonmalleable = true ∧ right.spending.nonmalleable = true :=
      nonmalleable.imp parts Bool.and_eq_true_iff.mp
    rw [spending, first.agree (both.imp And.left And.left),
      second.agree (both.imp And.right And.right)]
    rfl
  · intro nonmalleable
    obtain ⟨here, there⟩ := parts nonmalleable
    rw [determined_orCandidate member, first.determined here, second.determined there, nestsOnes,
      Bool.or_eq_false_iff]
  · intro nonmalleable signed node typed
    obtain ⟨here, there⟩ := parts nonmalleable
    rw [spending] at signed
    obtain ⟨signedHere, signedThere⟩ := Bool.and_eq_true_iff.mp signed
    obtain ⟨a, b, leftTyped, rightTyped, both⟩ := noTimelockMix_of_orCandidate member typed
    rw [both, first.apart here signedHere a leftTyped, second.apart there signedThere b rightTyped,
      reportsMix, Bool.not_or]

section Items

theorem nonmalleable_member (x : Miniscript) :
    (member x).spending.nonmalleable = x.spending.nonmalleable := by
  by_cases suits : x.Suits .base
  · rw [member_of_suits suits]
  · rw [member_of_not_suits suits]
    simp [Lowering.optional, Miniscript.spending, Spending.wrap, Spending.orI, Spending.zero]

theorem spending_member (reflects : policy.Reflects x)
    (strong : (member x).spending.expressive = true ∧ (member x).spending.nonmalleable = true ∨
      policy.spending.item.expressive = true ∧ policy.spending.item.nonmalleable = true) :
    (member x).spending = policy.spending.item := by
  have same : x.spending = policy.spending := by
    apply reflects.agree
    rw [← nonmalleable_member x, ← Spending.nonmalleable_item policy.spending]
    exact strong.imp And.right And.right
  rw [← same] at strong ⊢
  by_cases suits : x.Suits .base
  · rw [member_of_suits suits] at strong ⊢
    have expressive : x.spending.expressive = true := by
      rw [Spending.expressive_item, Bool.or_eq_true] at strong
      rcases strong with ⟨alone, _⟩ | ⟨alone | forced, _⟩
      · exact alone
      · exact alone
      · obtain ⟨type, typed, fits⟩ := suits
        simp [ScriptType.isDissatisfiableUnit, reflects.coherent.forced forced type typed] at fits
    exact (if_pos expressive).symm
  · have dull : ¬ x.spending.expressive = true :=
      fun expressive => suits (reflects.coherent.expressive expressive).suits
    rw [member_of_not_suits suits]
    exact (if_neg dull).symm

theorem hidesTimelocks_member (reflects : policy.Reflects x) :
    (member x).hidesTimelocks = policy.asksForOne := by
  rw [← reflects.hides]
  by_cases suits : x.Suits .base
  · rw [member_of_suits suits]
  · rw [member_of_not_suits suits]
    exact (Bool.eq_false_iff.mpr (suits ∘ reflects.coherent.hidden)).symm

theorem determined_member (x : Miniscript) : (member x).Determined ↔ x.Determined := by
  unfold member
  split
  · rfl
  · simp [Lowering.optional]

def Becomes (item : Policy) (script : Miniscript) : Prop :=
  ∃ x, item.Reflects x ∧ IsMember x script

variable {required : Nat} {items : List Policy} {scripts : List Miniscript}

theorem members_of_becomes (pairs : List.Forall₂ Becomes items scripts) : Members scripts := by
  intro script inside
  obtain ⟨item, _, x, reflects, is⟩ := pairs.exists_left_of_mem inside
  exact ⟨x, reflects.coherent, is⟩

theorem spendings_of_becomes (pairs : List.Forall₂ Becomes items scripts)
    (strong : (∀ script ∈ scripts,
        script.spending.expressive = true ∧ script.spending.nonmalleable = true) ∨
      ∀ item ∈ items, item.spending.item.expressive = true ∧ item.spending.item.nonmalleable = true) :
    scripts.map Miniscript.spending = itemSpendings items := by
  induction pairs with
  | nil => rfl
  | cons here _ ih =>
    obtain ⟨x, reflects, is⟩ := here
    simp only [List.forall_mem_cons] at strong
    rw [List.map_cons, itemSpendings, ih (strong.imp And.right And.right), is.spending]
    rw [is.spending] at strong
    rw [spending_member reflects (strong.imp And.left And.left)]

end Items

section Thresh

variable {required : Nat} {items : List Policy} {scripts : List Miniscript}

theorem agree_thresh (pairs : List.Forall₂ Becomes items scripts)
    (nonmalleable : (Miniscript.thresh required scripts).spending.nonmalleable = true ∨
      (thresh required items).spending.nonmalleable = true) :
    (Miniscript.thresh required scripts).spending = (thresh required items).spending := by
  have same : scripts.map Miniscript.spending = itemSpendings items := by
    apply spendings_of_becomes pairs
    refine nonmalleable.imp (fun here => (spending_thresh_nonmalleable.mp here).1) fun there => ?_
    have each := (Spending.thresh_nonmalleable_iff.mp there).1
    rw [itemSpendings_eq_map] at each
    exact List.forall_mem_map.mp each
  rw [Miniscript.spending, Policy.spending, spendings_eq_map, same]

theorem isSome_thresh? (members : Members scripts)
    (expressive : ∀ script ∈ scripts, script.spending.expressive = true) :
    (Witnesses.thresh? required (scripts.map witnesses)).isSome = true := by
  have unblocked : (scripts.map witnesses).any Witnesses.isBlocked = false := by
    simp only [List.any_map, List.any_eq_false, Function.comp_apply]
    intro script inside
    obtain ⟨x, coherent, is⟩ := members script inside
    simp [Witnesses.isBlocked, witness_of_expressive coherent is (expressive script inside)]
  simp [Witnesses.thresh?, unblocked]

theorem determined_thresh_iff (pairs : List.Forall₂ Becomes items scripts)
    (nonmalleable : (Miniscript.thresh required scripts).spending.nonmalleable = true) :
    (Miniscript.thresh required scripts).Determined ↔ (thresh required items).nestsOnes = false := by
  have each := (spending_thresh_nonmalleable.mp nonmalleable).1
  have hidden : (∀ script ∈ scripts, script.hidesTimelocks = false) ↔
      ∀ item ∈ items, item.asksForOne = false := by
    refine (pairs.imp ?_).forall_mem_iff.symm
    rintro item script ⟨x, reflects, is⟩
    rw [is.hidesTimelocks, hidesTimelocks_member reflects]
  have parts : (∀ script ∈ scripts, script.Determined) ↔ ∀ item ∈ items, item.nestsOnes = false := by
    constructor
    · intro all item inside
      obtain ⟨script, member, x, reflects, is⟩ := pairs.exists_right_of_mem inside
      have strong := (each script member).2
      rw [is.spending, nonmalleable_member] at strong
      rw [← reflects.determined strong, ← determined_member, ← is.determined]
      exact all script member
    · intro all script member
      obtain ⟨item, inside, x, reflects, is⟩ := pairs.exists_left_of_mem member
      have strong := (each script member).2
      rw [is.spending, nonmalleable_member] at strong
      rw [is.determined, determined_member, reflects.determined strong]
      exact all item inside
  have known : (Witnesses.thresh? required (scripts.map witnesses)).isSome = true :=
    isSome_thresh? (members_of_becomes pairs) fun script inside => (each script inside).1
  rw [determined_thresh, IsDetermined, and_iff_left known, hidden, parts, nestsOnes,
    anyNestsOnes_eq_any, Bool.or_eq_false_iff, Bool.and_eq_false_iff, List.any_eq_false,
    List.any_eq_false]
  simp [imp_iff_not_or]

theorem apart_thresh (pairs : List.Forall₂ Becomes items scripts)
    (shows : ∀ node, (Miniscript.thresh required scripts).node = .ok node →
      (thresh required items).ShowsTimelocks node)
    (nonmalleable : (Miniscript.thresh required scripts).spending.nonmalleable = true)
    (signed : (Miniscript.thresh required scripts).spending.needsSignature = true)
    {node : Node} (typed : (Miniscript.thresh required scripts).node = .ok node) :
    node.noTimelockMix = !(thresh required items).reportsMix := by
  obtain ⟨nodes, _, whole⟩ := exists_nodes_of_thresh typed
  rcases Node.timelocks_of_thresh whole with ⟨rfl, _⟩ | ⟨_, _, apart⟩
  · -- A threshold of one needs a signature only if all its items do, and then it has no timelocks.
    have each := (spending_thresh_nonmalleable.mp nonmalleable).1
    rw [signatureRules_spending.thresh, decide_eq_true_eq] at signed
    have all : ∀ script ∈ scripts, script.spending.needsSignature = true := by
      apply List.countP_eq_length.mp
      have most : scripts.countP (fun m => m.spending.needsSignature) ≤ scripts.length :=
        List.countP_le_length
      omega
    have shown := shows_of_signed (members_of_becomes pairs)
      (fun script inside => ⟨(each script inside).1, all script inside⟩) typed
    rw [shown.2]
    rfl
  · rw [apart, (shows node typed).known]
    rfl

end Thresh

theorem reflects_thresh {required : Nat} {items : List Policy} {scripts : List Miniscript}
    (positive : 1 ≤ required) (base : (Miniscript.thresh required scripts).IsBase)
    (pairs : List.Forall₂ Becomes items scripts)
    (shows : ∀ node, (Miniscript.thresh required scripts).node = .ok node →
      (thresh required items).ShowsTimelocks node) :
    (thresh required items).Reflects (.thresh required scripts) where
  coherent := coherent_thresh positive base (members_of_becomes pairs)
  shows := shows
  hides := rfl
  agree := agree_thresh pairs
  determined := determined_thresh_iff pairs
  apart nonmalleable signed _ := apart_thresh pairs shows nonmalleable signed

end Parts

theorem reflects_invariant :
    LoweringInvariant outline fun policy m => policy.WellFormed → policy.Reflects m where
  key name _ :=
    reflects_leaf (coherent_key name) ((timelocks_invariant outline).key name) rfl trivial rfl rfl rfl
      rfl (by rintro _ ⟨⟩; rfl)
  after value wellFormed :=
    reflects_leaf (coherent_timelock (if_pos wellFormed) rfl rfl)
      ((timelocks_invariant outline).after value) rfl trivial rfl rfl rfl rfl
      (fun node typed => by obtain ⟨_, rfl⟩ := Node.require_eq_ok_iff.mp typed; rfl)
  older value wellFormed :=
    reflects_leaf (coherent_timelock (if_pos wellFormed) rfl rfl)
      ((timelocks_invariant outline).older value) rfl trivial rfl rfl rfl rfl
      (fun node typed => by obtain ⟨_, rfl⟩ := Node.require_eq_ok_iff.mp typed; rfl)
  hash algorithm digest wellFormed :=
    reflects_leaf (coherent_hash wellFormed) ((timelocks_invariant outline).hash algorithm digest) rfl
      trivial rfl rfl rfl rfl
      (fun node typed => by obtain ⟨_, rfl⟩ := Node.require_eq_ok_iff.mp typed; rfl)
  and left right wellFormed := reflects_and (left wellFormed.1) (right wellFormed.2)
  or left right picked wellFormed := reflects_or (left wellFormed.1) (right wellFormed.2) picked
  thresh {required opening x m items scripts} head picked others wellFormed := by
    obtain ⟨positive, bounded, _, here, each⟩ := wellFormed
    have first := head here
    have rest : List.Forall₂ (fun item script => ∃ x, item.Reflects x ∧ PicksItem outline x script)
        items scripts := by
      refine ((List.forall₂_and_left items scripts).mpr ⟨allWellFormed_iff.mp each, others⟩).imp ?_
      rintro item script ⟨wellFormed, x, reflects, picked⟩
      exact ⟨x, reflects wellFormed, picked⟩
    have becomes : List.Forall₂ Becomes (opening :: items) (m :: scripts) := by
      refine .cons ⟨x, first, member_of_picksFirst first.coherent.base picked⟩ (rest.imp ?_)
      rintro item script ⟨x, reflects, picked⟩
      exact ⟨x, reflects, member_of_picksItem reflects.coherent.base picked⟩
    apply reflects_thresh positive _ becomes
    · exact (timelocks_invariant outline).thresh first.shows picked
        (rest.imp fun _ _ ⟨x, reflects, picked⟩ => ⟨x, reflects.shows, picked⟩)
    · apply isBase_thresh positive
      · rw [← rest.length_eq]
        exact bounded
      · exact suits_of_picksFirst first.coherent.base picked
      · intro script inside
        obtain ⟨_, _, x, reflects, picked⟩ := rest.exists_left_of_mem inside
        exact suits_of_picksItem reflects.coherent.base picked

end Policy

end SpendPolicy
