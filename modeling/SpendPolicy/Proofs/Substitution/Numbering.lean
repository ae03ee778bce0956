import SpendPolicy.Proofs.Policy.Writing

set_option autoImplicit false

namespace SpendPolicy

open Extraction

namespace Extraction

def firstPlaceholders (n : Nat) : List Text :=
  (List.range n).map fun i => placeholder (i + 1)

def endsInWord (inWord : Bool) (s : Text) : Bool :=
  s.getLast?.elim inWord isWordCharacter

theorem endsInWord_cons (inWord : Bool) (c : Char) (s : Text) :
    endsInWord inWord (c :: s) = endsInWord (isWordCharacter c) s := by
  rw [endsInWord, List.getLast?_cons, endsInWord]
  cases s.getLast? <;> rfl

theorem endsInWord_key_append (inWord : Bool) (content s : Text) :
    endsInWord inWord (Form.key content ++ s) = endsInWord false s := by
  have closes : (Form.key content).getLast? = some ')' := by
    rw [key_text, ← List.cons_append, ← List.cons_append, ← List.cons_append, List.getLast?_concat]
  rw [endsInWord, List.getLast?_append, closes, endsInWord]
  have ends : isWordCharacter ')' = false := by decide +kernel
  cases s.getLast? with
  | none => exact ends
  | some c => rfl

theorem exists_occurrence {inWord : Bool} {s content : Text}
    (found : content ∈ written (piecesAfter inWord s)) :
    ∃ before after, s = before ++ Form.key content ++ after ∧ endsInWord inWord before = false := by
  fun_induction piecesAfter inWord s with
  | case1 => cases found
  | case2 inWord c rest first tail leads ih =>
    have outer : inWord = false := by cases inWord <;> simp_all
    subst outer
    have split : c :: rest = Form.key first ++ tail := (leadingKey?_eq_some_iff.mp leads).1
    rw [split]
    rcases List.mem_cons.mp found with rfl | later
    · exact ⟨[], tail, rfl, rfl⟩
    · obtain ⟨before, after, rfl, outside⟩ := ih later
      exact ⟨Form.key first ++ before, after, by simp, (endsInWord_key_append ..).trans outside⟩
  | case3 inWord c rest leads ih =>
    obtain ⟨before, after, rfl, outside⟩ := ih found
    exact ⟨c :: before, after, rfl, (endsInWord_cons ..).trans outside⟩

section OfText

variable (s : Text)

theorem nodup_contents : (contents s).Nodup :=
  nodup_eraseDups _

theorem placeholders_ofText :
    (ofText s).keyMap.placeholders = firstPlaceholders (contents s).length := by
  rw [placeholders_eq, map_placeholderOf (nodup_contents s), firstPlaceholders]

theorem pairs_ofText :
    (ofText s).keyMap.pairs = (firstPlaceholders (contents s).length).zip (contents s) :=
  List.zip_of_prod (placeholders_ofText s) (keys_eq s)

theorem length_pairs_ofText : (ofText s).keyMap.pairs.length = (contents s).length := by
  simp [ofText]

theorem ofText_template :
    ofText (ofText s).template =
      { template := (ofText s).template
        keyMap := ⟨(ofText s).keyMap.placeholders.map fun p => (p, p)⟩ } := by
  have flat : ∀ content ∈ written (pieces s), Flat (placeholderOf (contents s) content) :=
    fun _ _ => flat_placeholder _
  have injective : ∀ a ∈ written (pieces s), ∀ b ∈ written (pieces s),
      placeholderOf (contents s) a = placeholderOf (contents s) b → a = b :=
    fun a first b _ same => placeholderOf_injective (mem_contents_iff.mpr first) same
  have again := template_rewritten flat injective
  rw [← template_eq] at again
  have pairs : (ofText (ofText s).template).keyMap.pairs =
      (ofText s).keyMap.placeholders.map fun p => (p, p) := by
    rw [template_eq, pairs_rewritten flat injective, placeholders_eq, ofText, List.map_map, List.map_map]
    rfl
  calc ofText (ofText s).template
      = { template := (ofText (ofText s).template).template
          keyMap := ⟨(ofText (ofText s).template).keyMap.pairs⟩ } := rfl
    _ = _ := by rw [again, pairs]

theorem template_normal :
    (ofText s).keyMap.placeholders = firstPlaceholders (ofText s).keyMap.pairs.length ∧
      (ofText s).keyMap.keys.Nodup ∧
      (∀ p ∈ (ofText s).keyMap.placeholders, ∃ before after,
        (ofText s).template = before ++ Form.key p ++ after ∧ endsInWord false before = false) ∧
      ofText (ofText s).template =
        { template := (ofText s).template
          keyMap := ⟨(ofText s).keyMap.placeholders.map fun p => (p, p)⟩ } := by
  refine ⟨?numbered, ?distinct, ?occur, ofText_template s⟩
  case numbered => rw [placeholders_ofText, ← length_pairs_ofText]
  case distinct =>
    rw [keys_eq]
    exact nodup_contents s
  case occur =>
    intro p member
    rw [placeholders_eq] at member
    obtain ⟨content, inside, rfl⟩ := List.mem_map.mp member
    apply exists_occurrence
    rw [← pieces, written_template]
    exact List.mem_map_of_mem (mem_contents_iff.mp inside)

end OfText

end Extraction

theorem isName_placeholder (n : Nat) : Policy.IsName (placeholder n) where
  filled := by simp [placeholder]
  trimmed := trim_placeholder n
  plain := by
    refine ⟨(flat_placeholder n).1, (flat_placeholder n).2, fun comma => ?_⟩
    rcases List.mem_append.mp comma with letter | digit
    · exact absurd letter (by decide)
    · exact Numeral.notMem_ofNat (by decide) digit

namespace Policy

def distinctKeys (policy : Policy) : List Text :=
  policy.keys.eraseDups

def numbered (policy : Policy) : Policy :=
  policy.rename fun name => placeholder (policy.distinctKeys.idxOf name + 1)

theorem contents_text {policy : Policy} (wellFormed : policy.WellFormed) :
    contents policy.text = policy.distinctKeys :=
  congrArg List.eraseDups (written_text wellFormed)

theorem extraction_commutes {s : Text} {policy : Policy} (reads : read s = .ok policy) :
    ofText policy.text =
        { template := policy.numbered.text
          keyMap := ⟨(firstPlaceholders policy.distinctKeys.length).zip policy.distinctKeys⟩ } ∧
      read (ofText policy.text).template = .ok policy.numbered := by
  have wellFormed := wellFormed_of_read reads
  have template : (ofText policy.text).template = policy.numbered.text := by
    rw [template_text wellFormed, contents_text wellFormed]
    rfl
  have pairs := pairs_ofText policy.text
  rw [contents_text wellFormed] at pairs
  have numbered : policy.numbered.WellFormed := wellFormed.rename fun _ _ => isName_placeholder _
  constructor
  · rw [← template, ← pairs]
  · rw [template, read_text numbered]

theorem extraction_commutes_crossed :
    let s : Text := "or(pk(a),and(pk(key1),pk(a)))".toList
    let policy : Policy := .or (.key "a".toList) (.and (.key "key1".toList) (.key "a".toList))
    let numbered : Policy := .or (.key "key1".toList) (.and (.key "key2".toList) (.key "key1".toList))
    read s = .ok policy ∧
      ofText s =
        { template := "or(pk(key1),and(pk(key2),pk(key1)))".toList
          keyMap := ⟨[("key1".toList, "a".toList), ("key2".toList, "key1".toList)]⟩ } ∧
      read "or(pk(key1),and(pk(key2),pk(key1)))".toList = .ok numbered := by
  intro s policy numbered
  have first : IsName "a".toList := by decide
  have second : IsName "key1".toList := by decide
  have reads : read s = .ok policy := @read_text policy ⟨first, second, first⟩
  have same : policy.numbered = numbered :=
    eq_of_shape_of_keys (shape_rename policy) (by decide +kernel)
  obtain ⟨extracted, again⟩ := extraction_commutes reads
  rw [extracted, same] at again
  exact ⟨reads, extracted.trans (by decide +kernel), again⟩

end Policy

end SpendPolicy
