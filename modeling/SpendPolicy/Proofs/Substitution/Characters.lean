import Mathlib.Data.List.Find
import SpendPolicy.Proofs.Substitution.Numbering
import SpendPolicy.Proofs.Substitution.Reinsertion

set_option autoImplicit false

namespace SpendPolicy.Extraction

def Foreign (c : Char) : Prop :=
  ∀ n, c ∉ placeholder n

section Cut

variable {s t : Text} {c : Char}

theorem foreign_of_parenthesis : Foreign '(' :=
  fun n => (flat_placeholder n).1

theorem exists_of_leading? {p : Text}
    (found : KeyMap.leading? (ofText s).keyMap.placeholdersByLength t = some p) :
    p <+: t ∧ ∃ content ∈ contents s, placeholderOf (contents s) content = p := by
  have begins := List.find?_some found
  have listed := KeyMap.mem_placeholdersByLength.mp (List.mem_of_find?_eq_some found)
  exact ⟨List.isPrefixOf_iff_prefix.mp begins, exists_of_placeholder listed⟩

theorem leading?_cut (foreign : Foreign c) (before after : Text) :
    KeyMap.leading? (ofText s).keyMap.placeholdersByLength (before ++ c :: after) =
      KeyMap.leading? (ofText s).keyMap.placeholdersByLength before := by
  apply List.find?_congr
  intro p listed
  obtain ⟨content, _, rfl⟩ := exists_of_placeholder (KeyMap.mem_placeholdersByLength.mp listed)
  rw [Bool.eq_iff_iff, List.isPrefixOf_iff_prefix, List.isPrefixOf_iff_prefix]
  exact ⟨prefix_of_notMem (foreign _), fun begins => begins.trans (List.prefix_append _ _)⟩

theorem leading?_ne_nil : KeyMap.leading? (ofText s).keyMap.placeholdersByLength t ≠ some [] := by
  intro found
  obtain ⟨_, content, _, empty⟩ := exists_of_leading? found
  simp [placeholderOf, placeholder] at empty

theorem reinsert_cut (foreign : Foreign c) (before after : Text) :
    (ofText s).keyMap.reinsert (before ++ c :: after) =
      (ofText s).keyMap.reinsert before ++ c :: (ofText s).keyMap.reinsert after := by
  unfold KeyMap.reinsert
  fun_induction KeyMap.reinsertFrom (ofText s).keyMap (ofText s).keyMap.placeholdersByLength before with
  | case1 =>
    have absent : KeyMap.leading? (ofText s).keyMap.placeholdersByLength ([] ++ c :: after) = none := by
      rw [leading?_cut foreign, leading?_other (by simp)]
    exact KeyMap.reinsertFrom_outside absent
  | case2 d rest p tail found ih =>
    obtain ⟨⟨rest', split⟩, _⟩ := exists_of_leading? found
    obtain ⟨rfl, rfl⟩ : p = d ∧ tail ++ rest' = rest := List.cons.inj split
    rw [List.drop_left] at ih ⊢
    have longer := (leading?_cut foreign (p :: (tail ++ rest')) after).trans found
    have whole : p :: (tail ++ rest') ++ c :: after = p :: tail ++ (rest' ++ c :: after) := by simp
    rw [whole] at longer ⊢
    rw [KeyMap.reinsertFrom_found longer (List.cons_ne_nil _ _), ih, List.append_assoc]
  | case3 d rest found => exact absurd found leading?_ne_nil
  | case4 d rest found ih =>
    have longer := (leading?_cut foreign (d :: rest) after).trans found
    rw [List.cons_append] at longer ⊢
    rw [KeyMap.reinsertFrom_outside longer, ih, List.append_assoc, List.cons_append]

theorem mem_of_mem_reinsert (member : c ∈ (ofText s).keyMap.reinsert t) :
    c ∈ t ∨ ∃ content ∈ contents s, c ∈ content := by
  unfold KeyMap.reinsert at member
  fun_induction KeyMap.reinsertFrom (ofText s).keyMap (ofText s).keyMap.placeholdersByLength t with
  | case1 =>
    rw [replacement_nil] at member
    cases member
  | case2 d rest p tail found ih =>
    rcases List.mem_append.mp member with here | later
    · obtain ⟨_, content, extracted, named⟩ := exists_of_leading? found
      rw [← named, replacement_placeholderOf extracted] at here
      exact .inr ⟨content, extracted, here⟩
    · exact (ih later).imp_left fun inside => List.mem_cons_of_mem _ (List.mem_of_mem_drop inside)
  | case3 d rest found => exact absurd found leading?_ne_nil
  | case4 d rest found ih =>
    rw [replacement_nil, List.nil_append] at member
    rcases List.mem_cons.mp member with rfl | later
    · exact .inl List.mem_cons_self
    · exact (ih later).imp_left (List.mem_cons_of_mem _)

theorem mem_reinsert_iff (foreign : Foreign c)
    (placed : ∀ content ∈ contents s, placeholderOf (contents s) content ∈ contents t) :
    c ∈ (ofText s).keyMap.reinsert t ↔ c ∈ t ∨ ∃ content ∈ contents s, c ∈ content := by
  constructor
  · exact mem_of_mem_reinsert
  · rintro (member | ⟨content, extracted, member⟩)
    · obtain ⟨before, after, rfl⟩ := List.append_of_mem member
      rw [reinsert_cut foreign]
      exact List.mem_append_right _ List.mem_cons_self
    · obtain ⟨before, after, rfl, _⟩ := exists_occurrence (mem_contents_iff.mp (placed content extracted))
      -- The parenthesis before the placeholder is in none, so that the placeholder is found from its beginning.
      have filled : placeholderOf (contents s) content ≠ [] := by simp [placeholderOf, placeholder]
      have replaced := (ofText s).keyMap.reinsertFrom_found (leading?_placeholder extracted after) filled
      rw [replacement_placeholderOf extracted] at replaced
      have whole : before ++ Form.key (placeholderOf (contents s) content) ++ after =
          (before ++ ['p', 'k']) ++ '(' :: (placeholderOf (contents s) content ++ ')' :: after) := by
        simp [key_text]
      rw [whole, reinsert_cut foreign_of_parenthesis, KeyMap.reinsert, KeyMap.reinsert, replaced]
      simp [member]

end Cut

end SpendPolicy.Extraction
