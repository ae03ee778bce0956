import SpendPolicy.Proofs.Validation.KeyGate

set_option autoImplicit false

namespace SpendPolicy

open Extraction
open Text (Blank)

def Verdict.compiled? : Verdict → Option Text
  | .valid compiled _ => some compiled
  | .invalid _ => none

theorem isValid_eq_isSome_compiled? (verdict : Verdict) : verdict.isValid = verdict.compiled?.isSome := by
  cases verdict <;> rfl

variable {v : Validator} {s t : Text} {f : Text → Text}

section Blank

theorem not_blank_key (content rest : Text) : ¬ Blank (Form.key content ++ rest) := by
  rw [key_text]
  intro blank
  exact absurd (blank 'p' (by simp)) (by decide)

theorem blank_rewritten_iff (f : Text → Text) (ps : List Piece) :
    Blank (rewritten f ps) ↔ Blank (textOf ps) := by
  induction ps with
  | nil => rfl
  | cons p ps ih =>
    cases p with
    | outside c =>
      change Blank (c :: rewritten f ps) ↔ Blank (c :: textOf ps)
      unfold Blank at ih ⊢
      rw [List.forall_mem_cons, List.forall_mem_cons, ih]
    | key content => exact iff_of_false (not_blank_key _ _) (not_blank_key _ _)

theorem trim_rewritten_iff (f : Text → Text) (s : Text) :
    (rewritten f (pieces s)).trim = [] ↔ s.trim = [] := by
  rw [Text.trim_eq_nil_iff, Text.trim_eq_nil_iff, blank_rewritten_iff, textOf_pieces]

theorem validate_of_blank (empty : s.trim = []) : v.validate s = .invalid .empty := by
  simp [Validator.validate, Validator.prepare, empty]

end Blank

theorem compiled?_congr (filled : s.trim ≠ []) (filledToo : t.trim ≠ [])
    (admitted : ∀ content ∈ contents s, IsAdmitted v.settings content)
    (admittedToo : ∀ content ∈ contents t, IsAdmitted v.settings content)
    (same : (ofText s).template = (ofText t).template) :
    (v.validate s).compiled? = (v.validate t).compiled? := by
  have prepared : Validator.prepare v.settings s = .ok (ofText s) :=
    prepare_eq_ok_iff.mpr ⟨filled, admitted, rfl⟩
  have preparedToo : Validator.prepare v.settings t = .ok (ofText t) :=
    prepare_eq_ok_iff.mpr ⟨filledToo, admittedToo, rfl⟩
  simp only [Validator.validate, prepared, preparedToo, same]
  rcases v.compiler (ofText t).template with failure | canonical | ⟨canonical, reason⟩ <;> rfl

/-- An expression with other keys, of which none that differ become the same, has the same template and the
same placeholders. If the keys of both are accepted, both are valid with one canonical form, or both are not,
whatever the compiler. -/
theorem validation_key_blind (flat : ∀ content ∈ contents s, Flat (f content))
    (injective : ∀ a ∈ contents s, ∀ b ∈ contents s, f a = f b → a = b) :
    let other := rewritten f (pieces s)
    (ofText other).template = (ofText s).template ∧
      (ofText other).keyMap.pairs =
        (ofText s).keyMap.pairs.map (fun (placeholder, content) => (placeholder, f content)) ∧
      ∀ v : Validator, (∀ content ∈ contents s, IsAdmitted v.settings content) →
        (∀ content ∈ contents other, IsAdmitted v.settings content) →
        (v.validate other).isValid = (v.validate s).isValid ∧
          (v.validate other).compiled? = (v.validate s).compiled? := by
  intro other
  have flat : ∀ content ∈ written (pieces s), Flat (f content) := fun content member =>
    flat content (mem_contents_iff.mpr member)
  have injective : ∀ a ∈ written (pieces s), ∀ b ∈ written (pieces s), f a = f b → a = b :=
    fun a first b second => injective a (mem_contents_iff.mpr first) b (mem_contents_iff.mpr second)
  have template : (ofText other).template = (ofText s).template := template_rewritten flat injective
  refine ⟨template, pairs_rewritten flat injective, fun v admitted admittedToo => ?_⟩
  have compiled : (v.validate other).compiled? = (v.validate s).compiled? := by
    by_cases empty : s.trim = []
    · rw [validate_of_blank empty, validate_of_blank ((trim_rewritten_iff f s).mpr empty)]
    · have filled : other.trim ≠ [] := fun blank => empty ((trim_rewritten_iff f s).mp blank)
      exact compiled?_congr filled empty admittedToo admitted template
  exact ⟨by rw [isValid_eq_isSome_compiled?, isValid_eq_isSome_compiled?, compiled], compiled⟩

theorem validation_key_blind_nested :
    let s := "or(pk(pk(a),and(xpk(b),pk(c),pk(a)),pk(".toList
    let f (content : Text) : Text := placeholder 2 ++ content
    let other := "or(pk(pk(key2a),and(xpk(b),pk(key2c),pk(key2a)),pk(".toList
    (∀ content ∈ contents s, Flat (f content)) ∧
      (∀ a ∈ contents s, ∀ b ∈ contents s, f a = f b → a = b) ∧ rewritten f (pieces s) = other ∧
      (ofText other).template = (ofText s).template ∧
      (ofText other).keyMap.pairs =
        (ofText s).keyMap.pairs.map (fun (placeholder, content) => (placeholder, f content)) ∧
      ∀ v : Validator, (∀ content ∈ contents s, IsAdmitted v.settings content) →
        (∀ content ∈ contents other, IsAdmitted v.settings content) →
        (v.validate other).isValid = (v.validate s).isValid ∧
          (v.validate other).compiled? = (v.validate s).compiled? := by
  intro s f other
  have flat : ∀ content ∈ contents s, Flat (f content) := by decide +kernel
  have injective : ∀ a ∈ contents s, ∀ b ∈ contents s, f a = f b → a = b := by decide +kernel
  have same : rewritten f (pieces s) = other := by decide +kernel
  exact ⟨flat, injective, same, same ▸ validation_key_blind flat injective⟩

end SpendPolicy
