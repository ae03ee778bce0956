import SpendPolicy.Proofs.Compilation.Stages
import SpendPolicy.Proofs.Lowering.Precision

set_option autoImplicit false

namespace SpendPolicy

/-- A form that is nonmalleable by the rules of the reference is rejected as malleable exactly if the analysis
asks for a signature and does not credit one of its thresholds. A form without `0` is rejected as malleable
only if it is. -/
theorem malleable_rejection_iff {s : Text} {c : Compilation} (compiled : miniscriptCompiler s = .ok c)
    (shown : c.canonical ≠ []) :
    ∃ m, Miniscript.read? c.canonical = some m ∧
      (m.reference.nonmalleable = true → (c.reason? = some (.insane .malleable) ↔
        m.spending.needsSignature = true ∧ ¬ m.Credited)) ∧
      (c.reason? = some (.insane .malleable) → m.ZeroFree → m.reference.nonmalleable = false) := by
  obtain ⟨policy, m, node, stages, typed, same, reason⟩ := exists_script_of_shown compiled shown
  have base := Policy.base_of_lowered stages.lowered typed
  have rejected : c.reason? = some (.insane .malleable) ↔
      m.spending.needsSignature = true ∧ ¬ m.spending.nonmalleable = true := by
    rw [reason, insanity?_eq_malleable_iff, Bool.not_eq_true, and_iff_right base]
  refine ⟨m, same ▸ stages.read?_text, fun nonmalleable => ?_, fun malleable free => ?_⟩
  · rw [rejected, Policy.nonmalleable_iff_credited stages.lowered typed nonmalleable]
  · by_contra nonmalleable
    exact (rejected.mp malleable).2 (Policy.nonmalleable_of_zeroFree stages.lowered typed
      (Bool.not_eq_false _ ▸ nonmalleable) free)

theorem malleable_rejection_iff_forms :
    let digest : Text := List.replicate 40 '0'
    let hashed : Text := "thresh(2,pk(a),s:pk(b),s:hash160(".toList ++ digest ++ "))".toList
    let timed : Text := "thresh(2,pk(a),sln:and_v(v:after(10),after(20)))".toList
    (∃ m, Miniscript.read? hashed = some m ∧ m.ZeroFree ∧ m.reference.nonmalleable = false) ∧
      ∃ m, Miniscript.read? timed = some m ∧ m.reference.nonmalleable = true ∧ ¬ m.Credited := by
  intro digest hashed timed
  constructor
  · have compiled : miniscriptCompiler ("thresh(2,pk(a),pk(b),hash160(".toList ++ digest ++ "))".toList) =
        .ok (.unsound hashed (.insane .malleable)) := by
      decide +kernel
    have free : (Miniscript.read? hashed).all fun m => m.ZeroFree := by decide +kernel
    obtain ⟨m, reads, _, rejected⟩ := malleable_rejection_iff compiled (by decide)
    change Miniscript.read? hashed = some m at reads
    rw [reads] at free
    have free : m.ZeroFree := by simpa using free
    exact ⟨m, reads, free, rejected rfl free⟩
  · have compiled : miniscriptCompiler "thresh(2,pk(a),and(after(10),after(20)))".toList =
        .ok (.unsound timed (.insane .malleable)) := by
      decide +kernel
    have sound : (Miniscript.read? timed).all fun m => m.reference.nonmalleable := by decide +kernel
    obtain ⟨m, reads, rejected, _⟩ := malleable_rejection_iff compiled (by decide)
    change Miniscript.read? timed = some m at reads
    rw [reads] at sound
    have sound : m.reference.nonmalleable = true := sound
    exact ⟨m, reads, sound, ((rejected sound).mp rfl).2⟩

/-- An `or_d` that is forced as its second part is, and an `and_v` that is forced as its second part is.
Nobody but the signers changes how these forms are satisfied. -/
theorem rejected_but_nonmalleable :
    (miniscriptCompiler "thresh(2,pk(c),or(pk(a),and(pk(b),after(10))))".toList =
        .ok (.unsound "thresh(2,pk(c),aln:or_d(pk(a),and_v(v:pk(b),after(10))))".toList
          (.insane .malleable)) ∧
      (Miniscript.read? "thresh(2,pk(c),aln:or_d(pk(a),and_v(v:pk(b),after(10))))".toList).map
        (fun m => m.reference.nonmalleable) = some true) ∧
    miniscriptCompiler "thresh(2,pk(a),and(after(10),after(20)))".toList =
        .ok (.unsound "thresh(2,pk(a),sln:and_v(v:after(10),after(20)))".toList (.insane .malleable)) ∧
      (Miniscript.read? "thresh(2,pk(a),sln:and_v(v:after(10),after(20)))".toList).map
        (fun m => m.reference.nonmalleable) = some true := by
  refine ⟨⟨?_, ?_⟩, ?_, ?_⟩ <;> decide +kernel

end SpendPolicy
