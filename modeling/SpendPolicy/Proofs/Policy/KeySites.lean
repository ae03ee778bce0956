import SpendPolicy.Proofs.Numeral.Decimal
import SpendPolicy.Proofs.Policy.Grammar
import SpendPolicy.Proofs.Substitution.Pieces

set_option autoImplicit false

namespace SpendPolicy

open Text (Blank)
open Extraction

def beginsSpacedKey : Text → Bool
  | 'p' :: 'k' :: c :: s => isBlank c && (Text.trimLeft s).head? == some '('
  | _ => false

/-- At how many places of a text white space parts `pk` from its parenthesis. -/
def spacedKeys : Text → Nat
  | [] => 0
  | c :: s => (if beginsSpacedKey (c :: s) then 1 else 0) + spacedKeys s

theorem head?_trimLeft_append {mark : Char} (visible : isBlank mark = false) (s t : Text) :
    (Text.trimLeft (s ++ mark :: t)).head? = (Text.trimLeft (s ++ [mark])).head? := by
  induction s with
  | nil => simp [Text.trimLeft_cons visible]
  | cons c s ih =>
    simp only [Text.trimLeft] at ih
    by_cases blank : isBlank c = true <;> simp [Text.trimLeft, blank, ih]

theorem spacedKeys_append {mark : Char} (visible : isBlank mark = false) (notP : mark ≠ 'p')
    (notK : mark ≠ 'k') (s t : Text) :
    spacedKeys (s ++ mark :: t) = spacedKeys (s ++ [mark]) + spacedKeys t := by
  -- A spaced key that begins before the mark also ends before it or at it: the mark is neither
  -- of its letters, and no white space.
  induction s with
  | nil => simp [spacedKeys, beginsSpacedKey, notP]
  | cons c s ih =>
    have same : beginsSpacedKey (c :: s ++ mark :: t) = beginsSpacedKey (c :: s ++ [mark]) := by
      match s with
      | [] => simp [beginsSpacedKey, notK]
      | [d] =>
        by_cases p : c = 'p' <;> by_cases k : d = 'k' <;>
          simp [beginsSpacedKey, p, k, visible]
      | d :: e :: s =>
        by_cases p : c = 'p' <;> by_cases k : d = 'k' <;>
          simp [beginsSpacedKey, p, k, head?_trimLeft_append visible s t]
    simp only [List.cons_append] at same ⊢
    simp only [spacedKeys, same, ih, Nat.add_assoc]

theorem spacedKeys_eq_zero {s : Text} (missing : 'k' ∉ s ∨ '(' ∉ s) : spacedKeys s = 0 := by
  induction s with
  | nil => rfl
  | cons c s ih =>
    have begins : beginsSpacedKey (c :: s) = false := by
      unfold beginsSpacedKey
      split
      · next d tail same =>
        obtain ⟨rfl, rfl⟩ := List.cons.inj same
        rcases missing with letter | parenthesis
        · simp at letter
        · have absent : '(' ∉ tail := fun member => parenthesis (by simp [member])
          have head : (Text.trimLeft tail).head? ≠ some '(' := by
            intro first
            exact absent ((List.dropWhile_suffix isBlank).subset (List.mem_of_mem_head? first))
          simp [head]
      · rfl
    have tail : 'k' ∉ s ∨ '(' ∉ s :=
      missing.imp (fun absent member => absent (by simp [member]))
        (fun absent member => absent (by simp [member]))
    simp [spacedKeys, begins, ih tail]

theorem spacedKeys_blank {gap : Text} (blank : Blank gap) (s : Text) :
    spacedKeys (gap ++ s) = spacedKeys s := by
  induction gap with
  | nil => rfl
  | cons c gap ih =>
    have tail : Blank gap := fun d member => blank d (by simp [member])
    have notP : c ≠ 'p' := by
      rintro rfl
      exact absurd (blank 'p' (by simp)) (by decide)
    simp [spacedKeys, beginsSpacedKey, notP, ih tail]

namespace Policy

theorem name_eq_key_of_mem {name : Name} (member : 'k' ∈ name.text) : name = .leaf .key := by
  rcases name with (_ | _ | _ | algorithm) | (_ | _) | _ <;> try cases algorithm
  · rfl
  all_goals exact absurd member (by decide)

theorem spacedKeys_opening {indent gap : Text} (blankIndent : Blank indent) (blankGap : Blank gap)
    (name : Name) (rest : Text) :
    spacedKeys (indent ++ name.text ++ gap ++ '(' :: rest) =
      (if name = .leaf .key ∧ gap ≠ [] then 1 else 0) + spacedKeys rest := by
  rw [spacedKeys_append (by decide) (by decide) (by decide)]
  congr 1
  rw [List.append_assoc, List.append_assoc, spacedKeys_blank blankIndent]
  by_cases key : name = .leaf .key
  · subst key
    have visible : ∀ s : Text, 'k' ∉ s → spacedKeys ('k' :: s) = 0 := by
      intro s absent
      simp [spacedKeys, beginsSpacedKey, spacedKeys_eq_zero (.inl absent)]
    have noK : 'k' ∉ gap ++ ['('] := by
      simp [blankGap.notMem (show isBlank 'k' = false by decide)]
    change spacedKeys ('p' :: 'k' :: (gap ++ ['('])) = _
    rw [spacedKeys, visible _ noK]
    cases gap with
    | nil => simp [beginsSpacedKey]; decide
    | cons c gap =>
      have first : isBlank c = true := blankGap c (by simp)
      have others : Blank gap := fun d member => blankGap d (by simp [member])
      have head : Text.trimLeft (gap ++ ['(']) = ['('] := by
        rw [Text.trimLeft_blank_append others, Text.trimLeft_cons (by decide)]
      simp [beginsSpacedKey, first, head]
  · have noK : 'k' ∉ name.text ++ (gap ++ ['(']) := by
      intro member
      rcases List.mem_append.mp member with inName | inGap
      · exact key (name_eq_key_of_mem inName)
      · simp [blankGap.notMem (show isBlank 'k' = false by decide)] at inGap
    simp [key, spacedKeys_eq_zero (.inl noK)]

theorem splits_opening {indent gap : Text} {name : Name} (blankIndent : Blank indent)
    (blankGap : Blank gap) (hidden : name ≠ .leaf .key ∨ gap ≠ []) :
    Splits (indent ++ name.text ++ gap ++ ['(']) (outsides (indent ++ name.text ++ gap ++ ['('])) := by
  have noK : 'k' ∉ indent ∧ 'k' ∉ gap :=
    ⟨blankIndent.notMem (by decide), blankGap.notMem (by decide)⟩
  rcases hidden with other | spaced
  · have absent : 'k' ∉ name.text := fun member => other (name_eq_key_of_mem member)
    exact splits_run (by decide +kernel) (.inl (by simp [noK, absent]))
  · obtain ⟨inner, last, rfl⟩ := (List.eq_nil_or_concat gap).resolve_left spaced
    rw [List.concat_eq_append] at blankGap ⊢
    have ends : isWordCharacter last = false := not_word_of_blank (blankGap last (by simp))
    have flat : '(' ∉ indent ++ name.text ++ inner ++ [last] := by
      intro member
      rw [List.append_assoc] at member
      rcases List.mem_append.mp member with first | inGap
      · rcases List.mem_append.mp first with inIndent | inName
        · exact blankIndent.notMem (by decide) inIndent
        · exact (name_visible name _ inName).2 rfl
      · exact blankGap.notMem (by decide) inGap
    rw [outsides_append, ← List.append_assoc]
    exact (splits_run ends (.inr flat)).append (splits_mark (by decide +kernel))

theorem splits_argument {argument : Text} (plain : Plain argument) :
    Splits (argument ++ [')']) (outsides (argument ++ [')'])) :=
  splits_run (by decide +kernel) (.inr (by simp [plain.1]))

theorem splits_leaf {indent gap argument : Text} {name : LeafName} (blankIndent : Blank indent)
    (blankGap : Blank gap) (plain : Plain argument) :
    Splits (indent ++ name.text ++ gap ++ '(' :: (argument ++ [')']))
      (if name = .key ∧ gap = [] then outsides indent ++ [.key argument]
        else outsides (indent ++ name.text ++ gap ++ '(' :: (argument ++ [')']))) := by
  split
  · next visible =>
    obtain ⟨rfl, rfl⟩ := visible
    have key := (splits_blank blankIndent).append (splits_key ⟨plain.1, plain.2.1⟩)
    rw [key_text] at key
    simpa [LeafName.text] using key
  · next hidden =>
    have named : Name.leaf name ≠ .leaf .key ∨ gap ≠ [] := by
      by_cases key : name = .key
      · exact .inr fun empty => hidden ⟨key, empty⟩
      · exact .inl fun same => key (Name.leaf.inj same)
    rw [List.append_cons, outsides_append]
    exact (splits_opening blankIndent blankGap named).append (splits_argument plain)

theorem splits_pair {indent gap body : Text} (name : PairName) {qs : List Piece}
    (blankIndent : Blank indent) (blankGap : Blank gap) (inner : Splits body qs) :
    Splits (indent ++ name.text ++ gap ++ '(' :: body)
      (outsides (indent ++ name.text ++ gap ++ ['(']) ++ qs) := by
  have opening : Splits (indent ++ (Name.pair name).text ++ gap ++ ['(']) _ :=
    splits_opening blankIndent blankGap (.inl (by simp))
  rw [List.append_cons]
  exact opening.append inner

theorem splits_thresh {indent gap number body : Text} {required : Int} {qs : List Piece}
    (blankIndent : Blank indent) (blankGap : Blank gap)
    (reads : Numeral.read? number = some required) (inner : Splits body qs) :
    Splits (indent ++ Name.thresh.text ++ gap ++ '(' :: (number ++ ',' :: body))
      (outsides (indent ++ Name.thresh.text ++ gap ++ ['(']) ++
        (outsides (number ++ [',']) ++ qs)) := by
  have flat : '(' ∉ number ++ [','] := by
    simp [Numeral.notMem_of_read? reads (c := '(') (by decide) (by decide) (by decide)]
  rw [List.append_cons, List.append_cons number]
  exact (splits_opening blankIndent blankGap (.inl (by simp))).append
    ((splits_run (by decide +kernel) (.inr flat)).append inner)

theorem splits_last {head gap : Text} {ps : List Piece} (first : Splits head ps)
    (blank : Blank gap) :
    Splits (head ++ gap ++ [')']) (ps ++ outsides gap ++ outsides [')']) :=
  (first.append (splits_blank blank)).append (splits_mark (by decide +kernel))

theorem splits_more {head gap tail : Text} {ps qs : List Piece} (first : Splits head ps)
    (blank : Blank gap) (others : Splits tail qs) :
    Splits (head ++ gap ++ ',' :: tail) (ps ++ outsides gap ++ outsides [','] ++ qs) := by
  rw [List.append_cons]
  exact ((first.append (splits_blank blank)).append (splits_mark (by decide +kernel))).append others

-- Each rule ends at a character that is in no word, so the pieces of its parts can be put together.
mutual

theorem Fragment.splits {consumed : Text} {policy : Policy}
    (derived : Fragment consumed policy) : Splits consumed (pieces consumed) := by
  match derived with
  | .leaf blankIndent blankGap plain _ => exact (splits_leaf blankIndent blankGap plain).self
  | .pair blankIndent blankGap inner _ => exact (splits_pair _ blankIndent blankGap inner.splits).self
  | .thresh blankIndent blankGap _ reads inner _ =>
    exact (splits_thresh blankIndent blankGap reads inner.splits).self

theorem Fragments.splits {consumed : Text} {items : List Policy}
    (derived : Fragments consumed items) : Splits consumed (pieces consumed) := by
  match derived with
  | .last first blank => exact (splits_last first.splits blank).self
  | .more first blank others => exact (splits_more first.splits blank others.splits).self

end

theorem keys_of_leaf {name : LeafName} {argument : Text} {policy : Policy}
    (builds : name.build argument = .ok policy) :
    policy.keys = if name = .key then [argument] else [] := by
  cases name with
  | key =>
    simp only [LeafName.build, built_eq_ok_iff, ofKey] at builds
    split at builds <;> cases builds
    simp [keys]
  | after | older =>
    simp only [LeafName.build] at builds
    split at builds
    · simp at builds
    · simp only [built_eq_ok_iff, ofAfter, ofOlder] at builds
      split at builds <;> cases builds
      simp [keys]
  | hash algorithm =>
    simp only [LeafName.build] at builds
    split at builds
    · simp at builds
    · simp only [built_eq_ok_iff, ofHash] at builds
      split at builds <;> cases builds
      simp [keys]

theorem keys_of_pair {name : PairName} {items : List Policy} {policy : Policy}
    (builds : name.build items = .ok policy) : policy.keys = items.flatMap keys := by
  unfold PairName.build at builds
  split at builds <;> cases builds <;> simp [keys]

theorem keys_of_thresh {required : Int} {items : List Policy} {policy : Policy}
    (builds : ofThresh required items = .ok policy) : policy.keys = items.flatMap keys := by
  unfold ofThresh at builds
  split at builds <;> cases builds
  simp [keys]

theorem written_leaf {indent gap argument : Text} {name : LeafName} (blankIndent : Blank indent)
    (blankGap : Blank gap) (plain : Plain argument) :
    written (pieces (indent ++ name.text ++ gap ++ '(' :: (argument ++ [')']))) =
      if name = .key ∧ gap = [] then [argument] else [] := by
  rw [(splits_leaf blankIndent blankGap plain).pieces_eq]
  split
  · rw [written_append, written_outsides]
    rfl
  · exact written_outsides _

theorem spacedKeys_leaf {indent gap argument : Text} {name : LeafName} (blankIndent : Blank indent)
    (blankGap : Blank gap) (plain : Plain argument) :
    spacedKeys (indent ++ name.text ++ gap ++ '(' :: (argument ++ [')'])) =
      if name = .key ∧ gap ≠ [] then 1 else 0 := by
  have flat : '(' ∉ argument ++ [')'] := by simp [plain.1]
  have opening := spacedKeys_opening blankIndent blankGap (.leaf name) (argument ++ [')'])
  rw [spacedKeys_eq_zero (.inr flat), Nat.add_zero] at opening
  simpa [Name.text] using opening

theorem spacedKeys_pair {indent gap : Text} (blankIndent : Blank indent) (blankGap : Blank gap)
    (name : PairName) (body : Text) :
    spacedKeys (indent ++ name.text ++ gap ++ '(' :: body) = spacedKeys body := by
  have opening := spacedKeys_opening blankIndent blankGap (.pair name) body
  simpa [Name.text] using opening

theorem spacedKeys_thresh {indent gap number : Text} {required : Int} (blankIndent : Blank indent)
    (blankGap : Blank gap) (reads : Numeral.read? number = some required) (body : Text) :
    spacedKeys (indent ++ Name.thresh.text ++ gap ++ '(' :: (number ++ ',' :: body)) =
      spacedKeys body := by
  have flat : '(' ∉ number ++ [','] := by
    simp [Numeral.notMem_of_read? reads (c := '(') (by decide) (by decide) (by decide)]
  rw [spacedKeys_opening blankIndent blankGap .thresh,
    spacedKeys_append (by decide) (by decide) (by decide), spacedKeys_eq_zero (.inr flat)]
  simp

mutual

theorem Fragment.closes {consumed : Text} {policy : Policy} (derived : Fragment consumed policy) :
    ∃ start, consumed = start ++ [')'] := by
  match derived with
  | .leaf .. => exact ⟨_, (List.append_assoc _ ('(' :: _) [')']).symm⟩
  | .pair _ _ inner _ =>
    obtain ⟨start, rfl⟩ := inner.closes
    exact ⟨_, (List.append_assoc _ ('(' :: start) [')']).symm⟩
  | @Fragment.thresh _ _ number _ _ _ _ _ _ _ _ inner _ =>
    obtain ⟨start, rfl⟩ := inner.closes
    rw [List.append_cons number, ← List.append_assoc]
    exact ⟨_, (List.append_assoc _ ('(' :: (number ++ [',']) ++ start) [')']).symm⟩

theorem Fragments.closes {consumed : Text} {items : List Policy}
    (derived : Fragments consumed items) : ∃ start, consumed = start ++ [')'] := by
  match derived with
  | .last .. => exact ⟨_, rfl⟩
  | .more _ _ others =>
    obtain ⟨start, rfl⟩ := others.closes
    exact ⟨_, (List.append_assoc _ (',' :: start) [')']).symm⟩

end

theorem Fragment.spacedKeys_before {head gap : Text} {policy : Policy} {mark : Char}
    (derived : Fragment head policy) (blank : Blank gap) (visible : isBlank mark = false)
    (notP : mark ≠ 'p') (notK : mark ≠ 'k') (rest : Text) :
    spacedKeys (head ++ gap ++ mark :: rest) = spacedKeys head + spacedKeys rest := by
  obtain ⟨start, rfl⟩ := derived.closes
  have noK : 'k' ∉ gap ++ [mark] := by
    simp [blank.notMem (show isBlank 'k' = false by decide), Ne.symm notK]
  rw [List.append_assoc, List.append_assoc, List.singleton_append,
    spacedKeys_append (by decide) (by decide) (by decide), spacedKeys_append visible notP notK,
    spacedKeys_eq_zero (.inl noK), Nat.zero_add]

end Policy

end SpendPolicy
