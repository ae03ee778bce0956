import SpendPolicy.Proofs.Substitution.Reinsertion

set_option autoImplicit false

namespace SpendPolicy

def Piece.holed : Piece → List (Option Char)
  | .outside c => [some c]
  | .key _ => [some 'p', some 'k', some '(', none, some ')']

namespace Extraction

/-- The first text stands in the second, and in no part over the content of a key. -/
def OccursOutside (t s : Text) : Prop :=
  t.map some <:+: (pieces s).flatMap Piece.holed

instance (t s : Text) : Decidable (OccursOutside t s) :=
  inferInstanceAs (Decidable (_ <:+: _))

variable {s : Text} {ps : List Piece}

theorem prefix_holed {f : Text → Text} {p : Text} (plain : '(' ∉ p) (begins : p <+: rewritten f ps) :
    p.map some <+: ps.flatMap Piece.holed := by
  induction ps generalizing p with
  | nil =>
    rw [List.prefix_nil.mp begins]
    exact List.nil_prefix
  | cons piece ps ih =>
    cases piece with
    | outside c =>
      rw [rewritten_outside] at begins
      rcases List.prefix_cons_iff.mp begins with rfl | ⟨q, rfl, later⟩
      · exact List.nil_prefix
      · have rest := ih (fun member => plain (List.mem_cons_of_mem c member)) later
        exact List.cons_prefix_cons.mpr ⟨rfl, rest⟩
    | key content =>
      -- What begins here ends before the parenthesis, and so before the content.
      have short : p <+: ['p', 'k'] := by
        rw [rewritten_key, key_text] at begins
        exact prefix_of_notMem plain begins
      exact (short.map some).trans ⟨_, rfl⟩

theorem leading?_apart {c : Char} (f : Text → Text)
    (apart : ∀ p ∈ (ofText s).keyMap.placeholders,
      ¬ p.map some <:+: (Piece.outside c :: ps).flatMap Piece.holed) :
    KeyMap.leading? (ofText s).keyMap.placeholdersByLength (c :: rewritten f ps) = none := by
  refine List.find?_eq_none.mpr fun p listed begins => ?_
  have member := KeyMap.mem_placeholdersByLength.mp listed
  obtain ⟨content, _, rfl⟩ := exists_of_placeholder member
  have plain : '(' ∉ placeholderOf (contents s) content := (flat_placeholder _).1
  have begins : placeholderOf (contents s) content <+: rewritten f (.outside c :: ps) :=
    List.isPrefixOf_iff_prefix.mp begins
  exact apart _ member (prefix_holed plain begins).isInfix

theorem reinsertFrom_rewritten (within : ∀ content ∈ written ps, content ∈ contents s)
    (apart : ∀ p ∈ (ofText s).keyMap.placeholders, ¬ p.map some <:+: ps.flatMap Piece.holed) :
    (ofText s).keyMap.reinsertFrom (ofText s).keyMap.placeholdersByLength
      (rewritten (placeholderOf (contents s)) ps) = textOf ps := by
  induction ps with
  | nil =>
    change KeyMap.reinsertFrom _ _ [] = []
    rw [KeyMap.reinsertFrom_nil, replacement_nil]
  | cons piece ps ih =>
    have later : ∀ p ∈ (ofText s).keyMap.placeholders, ¬ p.map some <:+: ps.flatMap Piece.holed :=
      fun p member inside => apart p member (inside.trans (List.suffix_append _ _).isInfix)
    cases piece with
    | outside c =>
      rw [rewritten_outside, KeyMap.reinsertFrom_outside (leading?_apart _ apart), replacement_nil,
        ih within later]
      rfl
    | key content =>
      obtain ⟨member, others⟩ := List.forall_mem_cons.mp within
      rw [rewritten_key, restores_key member, ih others later]
      rfl

theorem substitution_round_trip (apart : ∀ p ∈ (ofText s).keyMap.placeholders, ¬ OccursOutside p s) :
    (ofText s).keyMap.reinsert (ofText s).template = s := by
  have restored := reinsertFrom_rewritten (fun _ => mem_contents_iff.mpr) apart
  rwa [textOf_pieces, ← template_eq] at restored

theorem substitution_round_trip_twelve :
    let keys : List Text := (List.range 12).map fun i => placeholder (12 - i)
    let s : Text := Form.thresh 2 (keys.map Form.key) ++ ", key (pk(".toList
    (ofText s).keyMap.keys = keys ∧ (∀ p ∈ (ofText s).keyMap.placeholders, ¬ OccursOutside p s) ∧
      (ofText s).keyMap.reinsert (ofText s).template = s := by
  intro keys s
  have apart : ∀ p ∈ (ofText s).keyMap.placeholders, ¬ OccursOutside p s := by decide +kernel
  exact ⟨by decide +kernel, apart, substitution_round_trip apart⟩

example : (ofText "key1,pk(a)".toList).keyMap.reinsert (ofText "key1,pk(a)".toList).template =
    "a,pk(a)".toList := by
  decide +kernel

end Extraction

end SpendPolicy
