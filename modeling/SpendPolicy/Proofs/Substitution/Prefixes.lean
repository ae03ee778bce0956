import SpendPolicy.Proofs.Substitution.Numbering

set_option autoImplicit false

namespace SpendPolicy.Extraction

theorem written_of_unclosed {inWord : Bool} {s : Text} (unclosed : ')' ∉ s) :
    written (piecesAfter inWord s) = [] := by
  apply List.eq_nil_iff_forall_not_mem.mpr
  intro content found
  obtain ⟨before, after, rfl, _⟩ := exists_occurrence found
  apply unclosed
  simp [key_text]

theorem unclosed_of_key_eq {content front back : Text} (flat : Flat content)
    (key : Form.key content = front ++ back) (filled : back ≠ []) : ')' ∉ front := by
  rw [key_text, ← List.cons_append, ← List.cons_append, ← List.cons_append,
    ← List.dropLast_append_getLast filled, ← List.append_assoc] at key
  have begun : 'p' :: 'k' :: '(' :: content = front ++ back.dropLast := List.append_inj_left' key rfl
  intro member
  have inside : ')' ∈ 'p' :: 'k' :: '(' :: content := begun ▸ List.mem_append_left _ member
  simp [flat.2] at inside

theorem unclosed_of_leadingKey? {s t : Text} (alone : leadingKey? s = none)
    (more : leadingKey? (s ++ t) ≠ none) : ')' ∉ s := by
  obtain ⟨⟨content, rest⟩, found⟩ := Option.ne_none_iff_exists'.mp more
  obtain ⟨split, flat⟩ := leadingKey?_eq_some_iff.mp found
  have begins (tail : Text) : s ≠ Form.key content ++ tail := fun whole => by
    rw [leadingKey?_eq_some_iff.mpr ⟨whole, flat⟩] at alone
    cases alone
  rcases List.append_eq_append_iff.mp split with ⟨back, key, _⟩ | ⟨tail, whole, _⟩
  · apply unclosed_of_key_eq flat key
    rintro rfl
    exact begins [] (by rw [key, List.append_nil, List.append_nil])
  · exact absurd whole (begins tail)

theorem prefix_written (inWord : Bool) (s t : Text) :
    written (piecesAfter inWord s) <+: written (piecesAfter inWord (s ++ t)) := by
  fun_induction piecesAfter inWord s with
  | case1 => exact List.nil_prefix
  | case2 inWord c rest content tail found ih =>
    have outer : inWord = false := by cases inWord <;> simp_all
    subst outer
    obtain ⟨split, flat⟩ := leadingKey?_eq_some_iff.mp found
    rw [split, List.append_assoc, piecesAfter_key flat]
    exact (List.prefix_cons_inj content).mpr ih
  | case3 inWord c rest found ih =>
    rw [List.cons_append]
    by_cases same : inWord = true ∨ leadingKey? (c :: (rest ++ t)) = none
    · rw [piecesAfter_outside same]
      exact ih
    · -- The key that begins here reaches into what follows.
      obtain ⟨outer, more⟩ := not_or.mp same
      have alone : leadingKey? (c :: rest) = none := by simpa [outer] using found
      have unclosed : ')' ∉ c :: rest := unclosed_of_leadingKey? alone more
      have none : written (.outside c :: piecesAfter (isWordCharacter c) rest) = [] :=
        written_of_unclosed fun member => unclosed (List.mem_cons_of_mem c member)
      rw [none]
      exact List.nil_prefix

theorem prefix_contents (s t : Text) : contents s <+: contents (s ++ t) := by
  obtain ⟨later, split⟩ := prefix_written false s t
  change (written (pieces s)).eraseDups <+: (written (piecesAfter false (s ++ t))).eraseDups
  rw [← split]
  rw [List.eraseDups_append]
  exact List.prefix_append _ _

theorem placeholderOf_append {names : List Text} (more : List Text) {name : Text}
    (member : name ∈ names) : placeholderOf (names ++ more) name = placeholderOf names name := by
  rw [placeholderOf, placeholderOf, List.idxOf_append_of_mem member]

theorem prefix_pairs (s t : Text) : (ofText s).keyMap.pairs <+: (ofText (s ++ t)).keyMap.pairs := by
  obtain ⟨later, split⟩ := prefix_contents s t
  simp only [ofText, ← split, List.map_append]
  have same : (contents s).map (fun content => (placeholderOf (contents s ++ later) content, content)) =
      (contents s).map fun content => (placeholderOf (contents s) content, content) :=
    List.map_congr_left fun content member => by rw [placeholderOf_append later member]
  rw [same]
  exact List.prefix_append _ _

end SpendPolicy.Extraction
