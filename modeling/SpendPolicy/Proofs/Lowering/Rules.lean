import SpendPolicy.Lowering
import SpendPolicy.Proofs.Basic

set_option autoImplicit false

namespace SpendPolicy

namespace Lowering

section Choice

variable {α : Type} {typing : Typing} {script : α → Miniscript} {fits : Miniscript → Node → Bool}

def NoneFits (typing : Typing) (script : α → Miniscript) (fits : Miniscript → Node → Bool)
    (candidates : List α) : Prop :=
  ∀ candidate ∈ candidates, ∀ node, typing (script candidate) = .ok node →
    fits (script candidate) node = false

structure Chosen (typing : Typing) (script : α → Miniscript) (fits : Miniscript → Node → Bool)
    (fallback : Option α) (candidates : List α) (chosen : α) (node : Node) : Prop where
  typed : typing (script chosen) = .ok node
  split : ∃ earlier later, candidates = earlier ++ chosen :: later ∧
    (fits (script chosen) node = true ∧ NoneFits typing script fits earlier ∨
      fallback = none ∧ ∀ candidate ∈ earlier, typing (script candidate) = .error .requirement)

theorem Chosen.cons {fallback later : Option α} {candidate chosen : α} {rest : List α} {node : Node}
    (choice : Chosen typing script fits later rest chosen node)
    (unfit : ∀ other, typing (script candidate) = .ok other → fits (script candidate) other = false)
    (untyped : later = none → fallback = none ∧ typing (script candidate) = .error .requirement) :
    Chosen typing script fits fallback (candidate :: rest) chosen node := by
  obtain ⟨typed, earlier, tail, rfl, first | second⟩ := choice
  · refine ⟨typed, candidate :: earlier, tail, rfl, .inl ⟨first.1, ?_⟩⟩
    intro other member
    rcases List.mem_cons.mp member with rfl | inside
    · exact unfit
    · exact first.2 other inside
  · obtain ⟨none, requirement⟩ := untyped second.1
    refine ⟨typed, candidate :: earlier, tail, rfl, .inr ⟨none, ?_⟩⟩
    intro other member
    rcases List.mem_cons.mp member with rfl | inside
    · exact requirement
    · exact second.2 other inside

theorem chooseFrom_spec {candidates : List α} {fallback : Option α} {chosen : α}
    (found : chooseFrom typing script fits fallback candidates = .ok (some chosen)) :
    fallback = some chosen ∨ ∃ node, Chosen typing script fits fallback candidates chosen node := by
  -- The fallback changes on the way, once a candidate has a type and does not fit.
  induction candidates generalizing fallback with
  | nil =>
    cases found
    exact .inl rfl
  | cons candidate rest ih =>
    unfold chooseFrom at found
    split at found
    · next requirement =>
      refine (ih found).imp id fun ⟨node, choice⟩ => ⟨node, choice.cons ?_ fun none => ?_⟩
      · simp [requirement]
      · exact ⟨none, requirement⟩
    · cases found
    · next node typed =>
      split at found
      · next fit =>
        cases found
        exact .inr ⟨node, typed, [], rest, rfl, .inl ⟨fit, by simp [NoneFits]⟩⟩
      · next unfit =>
        have never : ∀ other, typing (script candidate) = .ok other →
            fits (script candidate) other = false := by
          intro other again
          rw [typed, Except.ok.injEq] at again
          simpa [← again] using unfit
        -- Either this candidate is the fallback that is taken in the end, or a later one fits.
        rcases ih found with earlier | ⟨other, choice⟩
        · rcases Option.or_eq_some_iff.mp earlier with same | ⟨none, same⟩
          · exact .inl same
          · cases same
            exact .inr ⟨node, typed, [], rest, rfl, .inr ⟨none, by simp⟩⟩
        · exact .inr ⟨other, choice.cons never (by simp)⟩

theorem chooseFrom_fits {candidates : List α} {fallback found : Option α} {candidate : α} {node : Node}
    (ended : chooseFrom typing script fits fallback candidates = .ok found) (member : candidate ∈ candidates)
    (typed : typing (script candidate) = .ok node) (fit : fits (script candidate) node = true) :
    ∃ chosen node, found = some chosen ∧ typing (script chosen) = .ok node ∧
      fits (script chosen) node = true := by
  induction candidates generalizing fallback with
  | nil => cases member
  | cons first rest ih =>
    have later (apart : ¬ (typing (script first) = .ok node ∧ fits (script first) node = true)) :
        candidate ∈ rest := by
      rcases List.mem_cons.mp member with rfl | inside
      · exact absurd ⟨typed, fit⟩ apart
      · exact inside
    unfold chooseFrom at ended
    split at ended
    · next requirement => exact ih ended (later (by simp [requirement]))
    · cases ended
    · next other own =>
      split at ended
      · next fitting =>
        cases ended
        exact ⟨first, other, rfl, own, fitting⟩
      · next unfit =>
        refine ih ended (later ?_)
        rintro ⟨same, fitting⟩
        cases own.symm.trans same
        exact unfit fitting

theorem chooseFrom_congr {other : Typing} {script' : α → Miniscript}
    {fits' : Miniscript → Node → Bool} {candidates : List α}
    (agree : ∀ candidate ∈ candidates, (typing (script candidate)).map (fits (script candidate)) =
      (other (script' candidate)).map (fits' (script' candidate)))
    (fallback : Option α) :
    chooseFrom typing script fits fallback candidates =
      chooseFrom other script' fits' fallback candidates := by
  induction candidates generalizing fallback with
  | nil => rfl
  | cons candidate rest ih =>
    have tail := ih fun candidate member => agree candidate (List.mem_cons_of_mem _ member)
    have here := agree candidate (List.mem_cons_self ..)
    unfold chooseFrom
    cases left : typing (script candidate) with
    | error fault =>
      cases right : other (script' candidate) with
      | error fault' =>
        simp only [left, right, Except.map, Except.error.injEq] at here
        subst here
        cases fault <;> simp only [tail]
      | ok node => simp [left, right, Except.map] at here
    | ok node =>
      cases right : other (script' candidate) with
      | error fault => simp [left, right, Except.map] at here
      | ok node' =>
        simp only [left, right, Except.map, Except.ok.injEq] at here
        simp only [here, tail]

end Choice

theorem pick_congr {typing other : Typing} {fits : Miniscript → Node → Bool}
    {candidates : List Miniscript}
    (agree : ∀ m ∈ candidates, (typing m).map (fits m) = (other m).map (fits m)) :
    pick typing fits candidates = pick other fits candidates := by
  have same : chooseFrom typing id fits none candidates = chooseFrom other id fits none candidates :=
    chooseFrom_congr agree none
  simp only [pick, choose, same]

theorem pick_spec {typing : Typing} {fits : Miniscript → Node → Bool} {candidates : List Miniscript}
    {m : Miniscript} (picked : pick typing fits candidates = .ok m) :
    ∃ node, Chosen typing id fits none candidates m node := by
  unfold pick choose at picked
  split at picked
  · next found =>
    cases picked
    exact (chooseFrom_spec found).resolve_left (by simp)
  · cases picked
  · cases picked

theorem pick_mem {typing : Typing} {fits : Miniscript → Node → Bool} {candidates : List Miniscript}
    {m : Miniscript} (picked : pick typing fits candidates = .ok m) : m ∈ candidates := by
  obtain ⟨_, _, earlier, later, rfl, _⟩ := pick_spec picked
  simp

theorem fits_of_pick {typing : Typing} {fits : Miniscript → Node → Bool} {candidates : List Miniscript}
    {m : Miniscript} (picked : pick typing fits candidates = .ok m)
    (some : ∃ candidate ∈ candidates, ∃ node, typing candidate = .ok node ∧ fits candidate node = true) :
    ∃ node, typing m = .ok node ∧ fits m node = true := by
  obtain ⟨candidate, member, node, typed, fit⟩ := some
  unfold pick choose at picked
  split at picked
  · next found =>
    cases picked
    obtain ⟨chosen, node, same, typed, fit⟩ := chooseFrom_fits found member typed fit
    cases same
    exact ⟨node, typed, fit⟩
  · cases picked
  · cases picked

section Equations

variable (typing : Typing)

theorem pickItems_cons (x : Miniscript) (xs : List Miniscript) :
    pickItems typing (x :: xs) = (pick typing (isDissatisfiableUnit .wrapped) (itemCandidates x)).bind
      fun item => (pickItems typing xs).map fun items => item :: items := by
  rw [pickItems]
  cases pick typing (isDissatisfiableUnit .wrapped) (itemCandidates x) <;>
    cases pickItems typing xs <;> rfl

theorem thresh_cons (required : Nat) (x : Miniscript) (xs : List Miniscript) :
    thresh typing required (x :: xs) =
      (pick typing (isDissatisfiableUnit .base) (firstCandidates x)).bind fun first =>
        (pickItems typing xs).map fun items => .thresh required (first :: items) := by
  rw [thresh]
  cases pick typing (isDissatisfiableUnit .base) (firstCandidates x) <;>
    cases pickItems typing xs <;> rfl

end Equations

def PicksFirst (typing : Typing) (x first : Miniscript) : Prop :=
  pick typing (isDissatisfiableUnit .base) (firstCandidates x) = .ok first

def PicksItem (typing : Typing) (x item : Miniscript) : Prop :=
  pick typing (isDissatisfiableUnit .wrapped) (itemCandidates x) = .ok item

theorem forall₂_of_pickItems {typing : Typing} {xs scripts : List Miniscript}
    (picked : pickItems typing xs = .ok scripts) : List.Forall₂ (PicksItem typing) xs scripts :=
  Except.forall₂_of_eq_ok (pickItems_cons typing) rfl picked

theorem exists_of_thresh {typing : Typing} {required : Nat} {xs : List Miniscript} {m : Miniscript}
    (lowered : thresh typing required xs = .ok m) :
    ∃ x rest first scripts, xs = x :: rest ∧ PicksFirst typing x first ∧
      List.Forall₂ (PicksItem typing) rest scripts ∧ m = .thresh required (first :: scripts) := by
  cases xs with
  | nil => cases lowered
  | cons x rest =>
    rw [thresh_cons, Except.bind_eq_ok_iff] at lowered
    obtain ⟨first, picked, others⟩ := lowered
    obtain ⟨scripts, each, rfl⟩ := Except.map_eq_ok_iff.mp others
    exact ⟨x, rest, first, scripts, rfl, picked, forall₂_of_pickItems each, rfl⟩

end Lowering

namespace Policy

open Lowering

section Equations

variable (typing : Typing)

theorem lowerBy_and (left right : Policy) :
    (and left right).lowerBy typing = (left.lowerBy typing).bind fun x =>
      (right.lowerBy typing).map fun y => .andV (verified x) y := by
  rw [lowerBy]
  cases left.lowerBy typing <;> cases right.lowerBy typing <;> rfl

theorem lowerBy_or (left right : Policy) :
    (or left right).lowerBy typing = (left.lowerBy typing).bind fun x =>
      (right.lowerBy typing).bind fun y => pick typing isNonmalleable (orCandidates x y) := by
  rw [lowerBy]
  cases left.lowerBy typing <;> cases right.lowerBy typing <;> rfl

theorem lowerBy_thresh (required : Nat) (items : List Policy) :
    (thresh required items).lowerBy typing =
      (lowerAllBy typing items).bind (Lowering.thresh typing required) := by
  rw [lowerBy]
  cases lowerAllBy typing items <;> rfl

theorem lowerAllBy_cons (item : Policy) (items : List Policy) :
    lowerAllBy typing (item :: items) = (item.lowerBy typing).bind fun x =>
      (lowerAllBy typing items).map fun xs => x :: xs := by
  rw [lowerAllBy]
  cases item.lowerBy typing <;> cases lowerAllBy typing items <;> rfl

end Equations

section Inversion

variable {typing : Typing} {left right : Policy} {m : Miniscript}

theorem exists_of_lowerBy_and (lowered : (and left right).lowerBy typing = .ok m) :
    ∃ x y, left.lowerBy typing = .ok x ∧ right.lowerBy typing = .ok y ∧
      m = .andV (verified x) y := by
  rw [lowerBy_and, Except.bind_eq_ok_iff] at lowered
  obtain ⟨x, first, rest⟩ := lowered
  obtain ⟨y, second, rfl⟩ := Except.map_eq_ok_iff.mp rest
  exact ⟨x, y, first, second, rfl⟩

theorem exists_of_lowerBy_or (lowered : (or left right).lowerBy typing = .ok m) :
    ∃ x y, left.lowerBy typing = .ok x ∧ right.lowerBy typing = .ok y ∧
      pick typing isNonmalleable (orCandidates x y) = .ok m := by
  rw [lowerBy_or, Except.bind_eq_ok_iff] at lowered
  obtain ⟨x, first, rest⟩ := lowered
  obtain ⟨y, second, picked⟩ := Except.bind_eq_ok_iff.mp rest
  exact ⟨x, y, first, second, picked⟩

theorem forall₂_of_lowerAllBy {items : List Policy} {xs : List Miniscript}
    (lowered : lowerAllBy typing items = .ok xs) :
    List.Forall₂ (fun item x => item.lowerBy typing = .ok x) items xs :=
  Except.forall₂_of_eq_ok (lowerAllBy_cons typing) rfl lowered

theorem exists_of_lowerBy_thresh {required : Nat} {items : List Policy}
    (lowered : (thresh required items).lowerBy typing = .ok m) :
    ∃ xs, List.Forall₂ (fun item x => item.lowerBy typing = .ok x) items xs ∧
      Lowering.thresh typing required xs = .ok m := by
  rw [lowerBy_thresh, Except.bind_eq_ok_iff] at lowered
  obtain ⟨xs, each, whole⟩ := lowered
  exact ⟨xs, forall₂_of_lowerAllBy each, whole⟩

end Inversion

structure LoweringInvariant (typing : Typing) (motive : Policy → Miniscript → Prop) : Prop where
  key : ∀ name, motive (.key name) (.key name)
  after : ∀ value, motive (.after value) (.after value)
  older : ∀ value, motive (.older value) (.older value)
  hash : ∀ algorithm digest, motive (.hash algorithm digest) (.hash algorithm digest)
  and : ∀ {left right x y}, motive left x → motive right y →
    motive (.and left right) (.andV (verified x) y)
  or : ∀ {left right x y m}, motive left x → motive right y →
    pick typing isNonmalleable (orCandidates x y) = .ok m → motive (.or left right) m
  thresh : ∀ {required first x m items scripts}, motive first x → PicksFirst typing x m →
    List.Forall₂ (fun item script => ∃ x, motive item x ∧ PicksItem typing x script) items scripts →
    motive (.thresh required (first :: items)) (.thresh required (m :: scripts))

namespace LoweringInvariant

variable {typing : Typing} {motive : Policy → Miniscript → Prop}

mutual

-- Induction on the policy; the items of a threshold are lowered one by one, in order.
theorem holds (invariant : LoweringInvariant typing motive) {policy : Policy} {m : Miniscript}
    (lowered : policy.lowerBy typing = .ok m) : motive policy m := by
  match policy with
  | .key name =>
    cases lowered
    exact invariant.key name
  | .after value =>
    cases lowered
    exact invariant.after value
  | .older value =>
    cases lowered
    exact invariant.older value
  | .hash algorithm digest =>
    cases lowered
    exact invariant.hash algorithm digest
  | .and left right =>
    obtain ⟨x, y, first, second, rfl⟩ := exists_of_lowerBy_and lowered
    exact invariant.and (invariant.holds first) (invariant.holds second)
  | .or left right =>
    obtain ⟨x, y, first, second, picked⟩ := exists_of_lowerBy_or lowered
    exact invariant.or (invariant.holds first) (invariant.holds second) picked
  | .thresh required items =>
    obtain ⟨xs, each, whole⟩ := exists_of_lowerBy_thresh lowered
    obtain ⟨x, rest, first, scripts, rfl, fits, others, rfl⟩ := exists_of_thresh whole
    match items, invariant.holdsOfAll each with
    | item :: items, .cons head tail => exact invariant.thresh head fits (tail.comp others)
  | .unknown => cases lowered

theorem holdsOfAll (invariant : LoweringInvariant typing motive) {items : List Policy}
    {xs : List Miniscript} (each : List.Forall₂ (fun item x => item.lowerBy typing = .ok x) items xs) :
    List.Forall₂ motive items xs := by
  match items, each with
  | [], .nil => exact .nil
  | item :: items, .cons first rest => exact .cons (invariant.holds first) (invariant.holdsOfAll rest)

end

end LoweringInvariant

end Policy

end SpendPolicy
