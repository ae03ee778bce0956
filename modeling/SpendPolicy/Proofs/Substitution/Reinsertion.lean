import Mathlib.Data.List.Sort
import Mathlib.Data.List.Lex
import Mathlib.Data.Char
import SpendPolicy.Proofs.Substitution.Template

set_option autoImplicit false

namespace SpendPolicy

namespace KeyMap

section Scan

variable {m : KeyMap} {ps : List Text}

theorem reinsertFrom_nil : m.reinsertFrom ps [] = m.replacement [] := by
  rw [reinsertFrom]

theorem reinsertFrom_outside {c : Char} {rest : Text} (absent : leading? ps (c :: rest) = none) :
    m.reinsertFrom ps (c :: rest) = m.replacement [] ++ c :: m.reinsertFrom ps rest := by
  rw [reinsertFrom, absent]

theorem reinsertFrom_found {p rest : Text} (found : leading? ps (p ++ rest) = some p)
    (filled : p ≠ []) : m.reinsertFrom ps (p ++ rest) = m.replacement p ++ m.reinsertFrom ps rest := by
  obtain ⟨c, tail, rfl⟩ := List.exists_cons_of_ne_nil filled
  rw [List.cons_append] at found ⊢
  rw [reinsertFrom, found]
  simp only [List.drop_left]

end Scan

theorem comesBefore_iff {a b : Text} :
    comesBefore a b = true ↔ b.length < a.length ∨ a.length = b.length ∧ a ≤ b := by
  simp [comesBefore]

theorem comesBefore_trans (a b c : Text) (first : comesBefore a b = true)
    (second : comesBefore b c = true) : comesBefore a c = true := by
  rw [comesBefore_iff] at first second ⊢
  rcases first with longer | ⟨same, before⟩
  · exact .inl (by omega)
  · rcases second with longer | ⟨same', before'⟩
    · exact .inl (by omega)
    · exact .inr ⟨same.trans same', le_trans before before'⟩

theorem comesBefore_total (a b : Text) : (comesBefore a b || comesBefore b a) = true := by
  rw [Bool.or_eq_true, comesBefore_iff, comesBefore_iff]
  rcases Nat.lt_trichotomy a.length b.length with shorter | same | longer
  · exact .inr (.inl shorter)
  · exact (le_total a b).imp (fun before => .inr ⟨same, before⟩) fun after => .inr ⟨same.symm, after⟩
  · exact .inl (.inl longer)

theorem pairwise_placeholdersByLength (m : KeyMap) :
    m.placeholdersByLength.Pairwise fun p q => q.length ≤ p.length := by
  refine (List.pairwise_mergeSort comesBefore_trans comesBefore_total m.placeholders).imp ?_
  intro p q before
  rcases comesBefore_iff.mp before with longer | ⟨same, _⟩
  · exact Nat.le_of_lt longer
  · exact same.ge

theorem mem_placeholdersByLength {m : KeyMap} {p : Text} :
    p ∈ m.placeholdersByLength ↔ p ∈ m.placeholders :=
  List.mem_mergeSort

theorem leading?_longest {m : KeyMap} {p s : Text} (member : p ∈ m.placeholders) (begins : p <+: s)
    (longest : ∀ q ∈ m.placeholders, q <+: s → q <+: p) :
    leading? m.placeholdersByLength s = some p := by
  unfold leading?
  cases found : m.placeholdersByLength.find? fun q => q.isPrefixOf s with
  | none =>
    have absent := List.find?_eq_none.mp found p (mem_placeholdersByLength.mpr member)
    simp [begins] at absent
  | some q =>
    obtain ⟨starts, before, after, split, misses⟩ := List.find?_eq_some_iff_append.mp found
    have inside : q ∈ m.placeholders := mem_placeholdersByLength.mp (by simp [split])
    have shorter : q <+: p := longest q inside (List.isPrefixOf_iff_prefix.mp starts)
    -- What stands before it does not begin the text, and what stands after it is no longer.
    have place : p ∈ before ++ q :: after := split ▸ mem_placeholdersByLength.mpr member
    rcases List.mem_append.mp place with earlier | later
    · have miss : List.isPrefixOf p s = false := by simpa using misses p earlier
      rw [List.isPrefixOf_iff_prefix.mpr begins] at miss
      cases miss
    · rcases List.mem_cons.mp later with same | behind
      · rw [same]
      · have sorted := pairwise_placeholdersByLength m
        rw [split, List.pairwise_append] at sorted
        have bound : p.length ≤ q.length := List.rel_of_pairwise_cons sorted.2.1 behind
        rw [shorter.eq_of_length_le bound]

example : reinsert ⟨[("key1".toList, "a".toList), ("key11".toList, "key1".toList)]⟩
    "or_d(pk(key1),pk(key11))".toList = "or_d(pk(a),pk(key1))".toList := by
  cbv

end KeyMap

namespace Extraction

theorem prefix_of_notMem {p a b : Text} {mark : Char} (absent : mark ∉ p) (begins : p <+: a ++ mark :: b) :
    p <+: a := by
  rcases List.prefix_or_prefix_of_prefix begins (List.prefix_append _ _) with shorter | ⟨tail, rfl⟩
  · exact shorter
  · cases tail with
    | nil => simp
    | cons c tail =>
      obtain ⟨rfl, _⟩ := List.cons_prefix_cons.mp ((List.prefix_append_right_inj _).mp begins)
      simp at absent

def Restores (s before after : Text) : Prop :=
  ∀ rest, (ofText s).keyMap.reinsertFrom (ofText s).keyMap.placeholdersByLength (before ++ rest) =
    after ++ (ofText s).keyMap.reinsertFrom (ofText s).keyMap.placeholdersByLength rest

section OfText

variable {s : Text}

theorem exists_of_placeholder {p : Text} (member : p ∈ (ofText s).keyMap.placeholders) :
    ∃ content ∈ contents s, placeholderOf (contents s) content = p := by
  rw [placeholders_eq] at member
  exact List.mem_map.mp member

theorem starts_of_placeholder {p : Text} (member : p ∈ (ofText s).keyMap.placeholders) :
    ['k', 'e', 'y'] <+: p := by
  obtain ⟨content, _, rfl⟩ := exists_of_placeholder member
  exact List.prefix_append _ _

theorem replacement_nil : (ofText s).keyMap.replacement [] = [] := by
  have absent : (ofText s).keyMap.get? [] = none := by
    rw [KeyMap.get?, List.lookup_eq_none_iff]
    intro pair member
    have starts := starts_of_placeholder (List.mem_map_of_mem (f := Prod.fst) member)
    cases named : pair.1 with
    | nil => simp [named] at starts
    | cons c p => rfl
  rw [KeyMap.replacement, absent, Option.getD_none]

theorem leading?_other {t : Text} (other : ¬ ['k', 'e', 'y'] <+: t) :
    KeyMap.leading? (ofText s).keyMap.placeholdersByLength t = none := by
  refine List.find?_eq_none.mpr fun p member begins => other ?_
  have starts := starts_of_placeholder (KeyMap.mem_placeholdersByLength.mp member)
  exact starts.trans (List.isPrefixOf_iff_prefix.mp begins)

theorem leading?_placeholder {content : Text} (member : content ∈ contents s) (rest : Text) :
    KeyMap.leading? (ofText s).keyMap.placeholdersByLength
        (placeholderOf (contents s) content ++ ')' :: rest) =
      some (placeholderOf (contents s) content) := by
  have inside : placeholderOf (contents s) content ∈ (ofText s).keyMap.placeholders := by
    rw [placeholders_eq]
    exact List.mem_map_of_mem member
  refine KeyMap.leading?_longest inside (List.prefix_append _ _) fun q listed begins => ?_
  obtain ⟨other, _, rfl⟩ := exists_of_placeholder listed
  exact prefix_of_notMem (flat_placeholder _).2 begins

theorem reinsertFrom_other {c : Char} {t : Text} (other : ¬ ['k', 'e', 'y'] <+: c :: t) :
    (ofText s).keyMap.reinsertFrom (ofText s).keyMap.placeholdersByLength (c :: t) =
      c :: (ofText s).keyMap.reinsertFrom (ofText s).keyMap.placeholdersByLength t := by
  rw [KeyMap.reinsertFrom_outside (leading?_other other), replacement_nil, List.nil_append]

theorem Restores.append {a a' b b' : Text} (first : Restores s a a') (second : Restores s b b') :
    Restores s (a ++ b) (a' ++ b') := by
  intro rest
  rw [List.append_assoc, first, second, List.append_assoc]

theorem Restores.reinsert_eq {before after : Text} (restores : Restores s before after) :
    (ofText s).keyMap.reinsert before = after := by
  have alone := restores []
  rwa [List.append_nil, KeyMap.reinsertFrom_nil, replacement_nil, List.append_nil] at alone

theorem restores_plain {t : Text} (plain : 'k' ∉ t) : Restores s t t := by
  intro rest
  induction t with
  | nil => rfl
  | cons c t ih =>
    have other : 'k' ≠ c := fun same => plain (by simp [← same])
    have tail := ih fun member => plain (List.mem_cons_of_mem c member)
    rw [List.cons_append, reinsertFrom_other (by simp [List.cons_prefix_cons, other]), tail,
      List.cons_append]

theorem restores_opening : Restores s ['p', 'k', '('] ['p', 'k', '('] := by
  -- The letter `k` is there, but no placeholder goes on with a parenthesis.
  intro rest
  simp only [List.cons_append, List.nil_append]
  rw [reinsertFrom_other (by simp [List.cons_prefix_cons]),
    reinsertFrom_other (by simp [List.cons_prefix_cons]),
    reinsertFrom_other (by simp [List.cons_prefix_cons])]

theorem restores_key {content : Text} (member : content ∈ contents s) :
    Restores s (Form.key (placeholderOf (contents s) content)) (Form.key content) := by
  have body : Restores s (placeholderOf (contents s) content ++ [')']) (content ++ [')']) := by
    intro rest
    have filled : placeholderOf (contents s) content ≠ [] := by simp [placeholderOf, placeholder]
    simp only [List.append_assoc, List.cons_append, List.nil_append]
    rw [KeyMap.reinsertFrom_found (leading?_placeholder member rest) filled,
      replacement_placeholderOf member, reinsertFrom_other (by simp [List.cons_prefix_cons])]
  have whole := restores_opening.append body
  rwa [key_text, key_text]

theorem restores_commaSeparated {before after : List Text}
    (each : List.Forall₂ (Restores s) before after) :
    Restores s (Text.commaSeparated before) (Text.commaSeparated after) := by
  induction each with
  | nil => exact restores_plain (by simp [Text.commaSeparated])
  | @cons a a' before after first later ih =>
    cases later with
    | nil => simpa [Text.commaSeparated] using first
    | cons second others =>
      rw [Text.commaSeparated_cons (List.cons_ne_nil _ _),
        Text.commaSeparated_cons (List.cons_ne_nil _ _)]
      have comma : Restores s [','] [','] := restores_plain (by decide)
      exact first.append (comma.append ih)

theorem restores_call {name : Text} {before after : List Text} (plain : 'k' ∉ name)
    (each : List.Forall₂ (Restores s) before after) :
    Restores s (Form.call name before) (Form.call name after) := by
  have opens : Restores s (name ++ ['(']) (name ++ ['(']) := restores_plain (by simp [plain])
  have closes : Restores s [')'] [')'] := restores_plain (by decide)
  have whole := (opens.append (restores_commaSeparated each)).append closes
  simpa [Form.call] using whole

end OfText

end Extraction

end SpendPolicy
