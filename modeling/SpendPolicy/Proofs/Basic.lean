import Mathlib.Data.List.Forall2

set_option autoImplicit false

namespace Except

variable {ε δ α β : Type} {result : Except ε α}

theorem bind_eq_ok_iff {f : α → Except ε β} {b : β} :
    result.bind f = .ok b ↔ ∃ a, result = .ok a ∧ f a = .ok b := by
  cases result <;> simp [Except.bind]

theorem map_eq_ok_iff {f : α → β} {b : β} :
    result.map f = .ok b ↔ ∃ a, result = .ok a ∧ f a = b := by
  cases result <;> simp [Except.map]

theorem mapError_eq_ok_iff {g : ε → δ} {a : α} : result.mapError g = .ok a ↔ result = .ok a := by
  cases result <;> simp [Except.mapError]

theorem forall₂_of_eq_ok {each : α → Except ε β} {all : List α → Except ε (List β)}
    (cons : ∀ a as, all (a :: as) = (each a).bind fun b => (all as).map fun bs => b :: bs)
    (nil : all [] = .ok []) {as : List α} {bs : List β} (done : all as = .ok bs) :
    List.Forall₂ (fun a b => each a = .ok b) as bs := by
  induction as generalizing bs with
  | nil =>
    cases nil.symm.trans done
    exact .nil
  | cons a as ih =>
    rw [cons, bind_eq_ok_iff] at done
    obtain ⟨b, first, rest⟩ := done
    obtain ⟨others, later, rfl⟩ := map_eq_ok_iff.mp rest
    exact .cons first (ih later)

end Except

namespace List.Forall₂

variable {α β γ : Type} {as : List α} {bs : List β}

theorem map_eq {f : α → γ} {g : β → γ} (each : Forall₂ (fun a b => g b = f a) as bs) :
    bs.map g = as.map f := by
  induction each with
  | nil => rfl
  | cons here _ ih => rw [map_cons, map_cons, here, ih]

theorem countP_eq {p : α → Bool} {q : β → Bool} (each : Forall₂ (fun a b => q b = p a) as bs) :
    bs.countP q = as.countP p := by
  have same := congrArg (countP id) each.map_eq
  rwa [countP_map, countP_map] at same

theorem flatMap_perm {f : α → List γ} {g : β → List γ}
    (each : Forall₂ (fun a b => (g b).Perm (f a)) as bs) : (bs.flatMap g).Perm (as.flatMap f) := by
  induction each with
  | nil => exact .refl _
  | cons here _ ih =>
    rw [flatMap_cons, flatMap_cons]
    exact here.append ih

theorem forall_mem_iff {p : α → Prop} {q : β → Prop} (each : Forall₂ (fun a b => p a ↔ q b) as bs) :
    (∀ a ∈ as, p a) ↔ ∀ b ∈ bs, q b := by
  induction each with
  | nil => simp
  | cons here _ ih => rw [forall_mem_cons, forall_mem_cons, here, ih]

theorem exists_right_of_mem {r : α → β → Prop} (pairs : Forall₂ r as bs) {a : α} (member : a ∈ as) :
    ∃ b ∈ bs, r a b := by
  induction pairs with
  | nil => simp at member
  | @cons _ b _ _ here _ ih =>
    rcases mem_cons.mp member with rfl | later
    · exact ⟨b, mem_cons_self .., here⟩
    · obtain ⟨other, inside, related⟩ := ih later
      exact ⟨other, mem_cons_of_mem _ inside, related⟩

theorem exists_left_of_mem {r : α → β → Prop} (pairs : Forall₂ r as bs) {b : β} (member : b ∈ bs) :
    ∃ a ∈ as, r a b :=
  pairs.flip.exists_right_of_mem member

theorem comp {r : α → β → Prop} {s : β → γ → Prop} {cs : List γ} (first : Forall₂ r as bs)
    (second : Forall₂ s bs cs) : Forall₂ (fun a c => ∃ b, r a b ∧ s b c) as cs := by
  induction first generalizing cs with
  | nil =>
    cases second
    exact .nil
  | cons here _ ih =>
    cases second with
    | cons there later => exact .cons ⟨_, here, there⟩ (ih later)

end List.Forall₂
