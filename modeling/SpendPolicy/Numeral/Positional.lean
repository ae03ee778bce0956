set_option autoImplicit false

namespace SpendPolicy.Positional

def value (base : Nat) (digits : List Nat) : Nat :=
  digits.foldl (fun n d => n * base + d) 0

def digits (base n : Nat) : List Nat :=
  if 1 < base ∧ 0 < n then digits base (n / base) ++ [n % base] else []
termination_by n
decreasing_by
  rename_i h
  exact Nat.div_lt_self h.2 h.1

theorem value_append_singleton (base : Nat) (ds : List Nat) (d : Nat) :
    value base (ds ++ [d]) = value base ds * base + d := by
  simp [value]

theorem value_digits {base : Nat} (h : 1 < base) (n : Nat) : value base (digits base n) = n := by
  induction n using Nat.strongRecOn with
  | _ n ih =>
    rw [digits]
    by_cases hn : 0 < n
    · simp only [h, hn, and_self, if_true, value_append_singleton,
        ih (n / base) (Nat.div_lt_self hn h)]
      exact Nat.div_add_mod' n base
    · simp [value, Nat.eq_zero_of_not_pos hn]

end SpendPolicy.Positional
