import SpendPolicy.Proofs.Lowering.Outline

set_option autoImplicit false

namespace SpendPolicy

def Miniscript.answer (m : Miniscript) (node : Node) : Compilation :=
  match m.insanity? node with
  | some insanity => .unsound m.text (.insane insanity)
  | none => .sound m.text

namespace Policy

def Derives (s : Text) (policy : Policy) : Prop :=
  ∃ written gap, s = written ++ gap ∧ Fragment written policy ∧ Text.Blank gap

theorem derived_iff {s : Text} : (∃ policy, Derives s policy) ↔ (read s).toBool = true := by
  constructor
  · rintro ⟨policy, derived⟩
    rw [read_eq_ok_iff.mpr derived]
    rfl
  · intro readable
    cases reads : read s with
    | ok policy => exact ⟨policy, read_eq_ok_iff.mp reads⟩
    | error cause =>
      rw [reads] at readable
      cases readable

def Stops (policy : Policy) : Prop :=
  policy.lower = .error (.untyped .undetermined) ∨
    ∃ m, policy.lower = .ok m ∧ m.node = .error .undetermined

section Lowers

variable {policy : Policy} {m : Miniscript}

theorem Lowers.typed (lowers : policy.Lowers m) : m.Typed .byCount := by
  obtain ⟨type, typed, _⟩ := lowers.base
  exact ⟨type, typed⟩

theorem Lowers.builds (lowers : policy.Lowers m) (determined : m.Determined) :
    ∃ node, policy.lower = .ok m ∧ m.node = .ok node := by
  obtain ⟨node, built⟩ := Miniscript.exists_node lowers.typed determined
  exact ⟨node, lowers.follows.nodes.resolve_right fun stops => stops.1 determined, built⟩

theorem Lowers.stops (lowers : policy.Lowers m) (unknown : ¬ m.Determined) : policy.Stops :=
  match lowers.follows.nodes with
  | .inl lowered => .inr ⟨m, lowered, Miniscript.node_of_undetermined lowers.typed unknown⟩
  | .inr ⟨_, stops⟩ => .inl stops

end Lowers

section Compile

variable {policy : Policy} {m : Miniscript}

theorem compile_of_repeated (repeated : ¬ policy.keys.Nodup) :
    policy.compile = .ok (.unsound [] .repeatedKey) := by
  rw [compile, if_neg repeated]

theorem compile_of_determined (lowers : policy.Lowers m) (distinct : policy.keys.Nodup)
    (determined : m.Determined) :
    ∃ node, m.node = .ok node ∧ policy.compile = .ok (m.answer node) := by
  obtain ⟨node, lowered, built⟩ := lowers.builds determined
  refine ⟨node, built, ?_⟩
  rw [compile, if_pos distinct, lowered]
  simp only [built, Miniscript.answer]
  cases m.insanity? node <;> rfl

theorem compile_of_undetermined (lowers : policy.Lowers m) (distinct : policy.keys.Nodup)
    (unknown : ¬ m.Determined) : policy.compile = .error (.untyped .undetermined) := by
  rcases lowers.stops unknown with stops | ⟨script, lowered, built⟩
  · rw [compile, if_pos distinct, stops]
  · rw [compile, if_pos distinct, lowered]
    simp only [built]

end Compile

end Policy

theorem exists_malformed {s : Text} (underived : ¬ ∃ policy, Policy.Derives s policy) :
    ∃ cause, miniscriptCompiler s = .error (.malformed cause) := by
  unfold miniscriptCompiler
  cases reads : Policy.read s with
  | error cause => exact ⟨cause, rfl⟩
  | ok policy => exact absurd ⟨policy, Policy.read_eq_ok_iff.mp reads⟩ underived

theorem miniscriptCompiler_of_read {s : Text} {policy : Policy} (reads : Policy.read s = .ok policy) :
    miniscriptCompiler s = policy.compile := by
  simp only [miniscriptCompiler, reads]

/-- A text outside the grammar is malformed. A policy has an answer exactly if one of its keys is repeated
or every threshold of its script is determined; otherwise the compiler stops there. -/
theorem compiler_answers_iff (s : Text) :
    (¬ ∃ policy, Policy.Derives s policy) ∧
        (∃ cause, miniscriptCompiler s = .error (.malformed cause)) ∨
      ∃ policy m, Policy.Derives s policy ∧ policy.lowerBy Miniscript.outline = .ok m ∧
        ((∃ c, miniscriptCompiler s = .ok c) ↔ (policy.keys.Nodup → m.Determined)) ∧
        ((∃ c, miniscriptCompiler s = .ok c) ∨ miniscriptCompiler s = .error (.untyped .undetermined)) := by
  by_cases derived : ∃ policy, Policy.Derives s policy
  · obtain ⟨policy, derived⟩ := derived
    have reads := Policy.read_eq_ok_iff.mpr derived
    obtain ⟨m, lowers⟩ := Policy.exists_lowers (Policy.wellFormed_of_read reads)
    refine .inr ⟨policy, m, derived, lowers.follows.types, ?_⟩
    rw [miniscriptCompiler_of_read reads]
    by_cases distinct : policy.keys.Nodup
    · by_cases determined : m.Determined
      · obtain ⟨node, _, answers⟩ := Policy.compile_of_determined lowers distinct determined
        simp [answers, determined]
      · simp [Policy.compile_of_undetermined lowers distinct determined, distinct, determined]
    · simp [Policy.compile_of_repeated distinct, distinct]
  · exact .inl ⟨derived, exists_malformed derived⟩

/-- The outer threshold cannot put together the timelocks of its items: the inner one hides its own. -/
theorem derived_but_stopped :
    (∃ policy, Policy.Derives "thresh(2,thresh(1,pk(a),pk(b)),pk(c))".toList policy) ∧
      miniscriptCompiler "thresh(2,thresh(1,pk(a),pk(b)),pk(c))".toList =
        .error (.untyped .undetermined) := by
  constructor
  · exact Policy.derived_iff.mpr (by decide +kernel)
  · decide +kernel

end SpendPolicy
