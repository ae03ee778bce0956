import SpendPolicy.Substitution.Extraction
import SpendPolicy.Proofs.Text.Trimming

set_option autoImplicit false

namespace SpendPolicy

theorem not_word_of_blank {c : Char} (blank : isBlank c = true) : isWordCharacter c = false :=
  Text.forall_blank (p := fun c => isWordCharacter c = false) (by decide +kernel) blank

namespace Piece

def map (f : Text → Text) : Piece → Piece
  | .outside c => .outside c
  | .key content => .key (f content)

end Piece

namespace Extraction

def textOf (ps : List Piece) : Text :=
  ps.flatMap Piece.text

def written (ps : List Piece) : List Text :=
  ps.filterMap Piece.key?

def outsides (s : Text) : List Piece :=
  s.map .outside

@[simp] theorem textOf_nil : textOf [] = [] :=
  rfl

@[simp] theorem textOf_cons (p : Piece) (ps : List Piece) : textOf (p :: ps) = p.text ++ textOf ps :=
  rfl

@[simp] theorem textOf_append (ps qs : List Piece) : textOf (ps ++ qs) = textOf ps ++ textOf qs := by
  simp [textOf]

theorem outsides_append (s t : Text) : outsides (s ++ t) = outsides s ++ outsides t := by
  simp [outsides]

@[simp] theorem written_append (ps qs : List Piece) :
    written (ps ++ qs) = written ps ++ written qs := by
  simp [written]

@[simp] theorem written_outsides (s : Text) : written (outsides s) = [] := by
  induction s with
  | nil => rfl
  | cons c s ih => exact ih

def Flat (s : Text) : Prop :=
  '(' ∉ s ∧ ')' ∉ s

instance (s : Text) : Decidable (Flat s) :=
  inferInstanceAs (Decidable ('(' ∉ s ∧ ')' ∉ s))

theorem key_text (content : Text) : Form.key content = 'p' :: 'k' :: '(' :: (content ++ [')']) := by
  simp [Form.key, Form.call, Text.commaSeparated]

theorem closing?_append {content : Text} (flat : Flat content) (rest : Text) :
    closing? (content ++ ')' :: rest) = some (content, rest) := by
  induction content with
  | nil => rfl
  | cons c content ih =>
    have opens : c ≠ '(' := fun same => flat.1 (by simp [same])
    have closes : c ≠ ')' := fun same => flat.2 (by simp [same])
    have tail : Flat content :=
      ⟨fun member => flat.1 (by simp [member]), fun member => flat.2 (by simp [member])⟩
    simp [closing?, opens, closes, ih tail]

theorem closing?_eq_some_iff {s content rest : Text} :
    closing? s = some (content, rest) ↔ s = content ++ ')' :: rest ∧ Flat content := by
  constructor
  · intro found
    induction s generalizing content with
    | nil => simp [closing?] at found
    | cons c s ih =>
      unfold closing? at found
      split at found
      · next closes =>
        cases found
        simp [closes, Flat]
      · next goesOn =>
        split at found
        · simp at found
        · next opens =>
          obtain ⟨⟨inner, tail⟩, more, same⟩ := Option.map_eq_some_iff.mp found
          cases same
          obtain ⟨split, flat⟩ := ih more
          refine ⟨by rw [split, List.cons_append], ?_, ?_⟩
          · simpa [Ne.symm opens] using flat.1
          · simpa [Ne.symm goesOn] using flat.2
  · rintro ⟨rfl, flat⟩
    exact closing?_append flat rest

theorem leadingKey?_eq_some_iff {s content rest : Text} :
    leadingKey? s = some (content, rest) ↔ s = Form.key content ++ rest ∧ Flat content := by
  rw [key_text]
  unfold leadingKey?
  split
  · simp [closing?_eq_some_iff]
  · next other =>
    simp only [reduceCtorEq, false_iff, not_and]
    intro key
    exact absurd key (by simpa using other _)

theorem piecesAfter_nil (inWord : Bool) : piecesAfter inWord [] = [] := by
  rw [piecesAfter]

theorem piecesAfter_outside {inWord : Bool} {c : Char} {s : Text}
    (none : inWord = true ∨ leadingKey? (c :: s) = none) :
    piecesAfter inWord (c :: s) = .outside c :: piecesAfter (isWordCharacter c) s := by
  rw [piecesAfter]
  split
  · next found =>
    rcases none with word | absent
    · simp [word] at found
    · split at found <;> simp_all
  · rfl

theorem piecesAfter_key {content : Text} (flat : Flat content) (s : Text) :
    piecesAfter false (Form.key content ++ s) = .key content :: piecesAfter false s := by
  have leads : leadingKey? (Form.key content ++ s) = some (content, s) :=
    leadingKey?_eq_some_iff.mpr ⟨rfl, flat⟩
  rw [key_text, List.cons_append] at leads ⊢
  rw [piecesAfter]
  split
  · next content' tail found =>
    simp only [Bool.false_eq_true, if_false, leads, Option.some.injEq, Prod.mk.injEq] at found
    rw [found.1, found.2]
  · next found =>
    simp only [Bool.false_eq_true, if_false, leads, reduceCtorEq] at found

theorem piecesAfter_mark {mark : Char} (ends : isWordCharacter mark = false) (inWord : Bool)
    (rest : Text) :
    piecesAfter inWord (mark :: rest) = .outside mark :: piecesAfter false rest := by
  have none : leadingKey? (mark :: rest) = none := by
    unfold leadingKey?
    split
    · next same =>
      obtain ⟨rfl, _⟩ := List.cons.inj same
      exact absurd ends (by decide +kernel)
    · rfl
  rw [piecesAfter_outside (.inr none), ends]

theorem piecesAfter_run {run : Text} {mark : Char} (ends : isWordCharacter mark = false)
    (keyless : ¬ ['p', 'k', '('] <:+: run ++ [mark]) (inWord : Bool) (rest : Text) :
    piecesAfter inWord (run ++ mark :: rest) =
      outsides (run ++ [mark]) ++ piecesAfter false rest := by
  have notK : mark ≠ 'k' := by
    rintro rfl
    exact absurd ends (by decide +kernel)
  induction run generalizing inWord with
  | nil => exact piecesAfter_mark ends inWord rest
  | cons c run ih =>
    have none : leadingKey? (c :: (run ++ mark :: rest)) = none := by
      unfold leadingKey?
      split
      · next tail same =>
        exfalso
        obtain ⟨rfl, second⟩ := List.cons.inj same
        cases run with
        | nil => exact notK (List.cons.inj second).1
        | cons d run =>
          obtain ⟨rfl, third⟩ := List.cons.inj second
          cases run with
          | nil =>
            obtain ⟨rfl, _⟩ := List.cons.inj third
            exact keyless ⟨[], [], by simp⟩
          | cons e run =>
            obtain ⟨rfl, _⟩ := List.cons.inj third
            exact keyless ⟨[], run ++ [mark], by simp⟩
      · rfl
    have inner : ¬ ['p', 'k', '('] <:+: run ++ [mark] :=
      fun found => keyless (found.trans (List.suffix_cons c _).isInfix)
    rw [List.cons_append, piecesAfter_outside (.inr none), ih inner]
    rfl

/-- The pieces of a text that begins no key in what follows it, and ends no word there. -/
def Splits (s : Text) (ps : List Piece) : Prop :=
  ∀ rest, piecesAfter false (s ++ rest) = ps ++ piecesAfter false rest

theorem Splits.pieces_eq {s : Text} {ps : List Piece} (splits : Splits s ps) : pieces s = ps := by
  have alone := splits []
  rwa [List.append_nil, piecesAfter_nil, List.append_nil] at alone

theorem Splits.self {s : Text} {ps : List Piece} (splits : Splits s ps) : Splits s (pieces s) :=
  splits.pieces_eq ▸ splits

theorem Splits.append {s t : Text} {ps qs : List Piece} (first : Splits s ps)
    (second : Splits t qs) : Splits (s ++ t) (ps ++ qs) := by
  intro rest
  rw [List.append_assoc, first, second, List.append_assoc]

theorem splits_key {content : Text} (flat : Flat content) :
    Splits (Form.key content) [.key content] :=
  fun rest => piecesAfter_key flat rest

theorem splits_mark {mark : Char} (ends : isWordCharacter mark = false) :
    Splits [mark] (outsides [mark]) :=
  fun rest => piecesAfter_mark ends false rest

theorem splits_run {run : Text} {mark : Char} (ends : isWordCharacter mark = false)
    (missing : 'k' ∉ run ++ [mark] ∨ '(' ∉ run ++ [mark]) :
    Splits (run ++ [mark]) (outsides (run ++ [mark])) := by
  intro rest
  have keyless : ¬ ['p', 'k', '('] <:+: run ++ [mark] := by
    intro found
    rcases missing with letter | parenthesis
    · exact letter (found.subset (by simp))
    · exact parenthesis (found.subset (by simp))
  rw [List.append_assoc]
  exact piecesAfter_run ends keyless false rest

theorem splits_blank {gap : Text} (blank : Text.Blank gap) : Splits gap (outsides gap) := by
  intro rest
  induction gap with
  | nil => rfl
  | cons c gap ih =>
    have head : isBlank c = true := blank c (by simp)
    have tail : Text.Blank gap := fun d member => blank d (by simp [member])
    rw [List.cons_append, piecesAfter_mark (not_word_of_blank head), ih tail]
    rfl

theorem textOf_piecesAfter (inWord : Bool) (s : Text) : textOf (piecesAfter inWord s) = s := by
  fun_induction piecesAfter inWord s with
  | case1 => rfl
  | case2 inWord c rest content tail found ih =>
    have leads : leadingKey? (c :: rest) = some (content, tail) := by
      cases inWord <;> simp_all
    rw [textOf_cons, ih, (leadingKey?_eq_some_iff.mp leads).1]
    rfl
  | case3 inWord c rest found ih =>
    rw [textOf_cons, ih]
    rfl

theorem textOf_pieces (s : Text) : textOf (pieces s) = s :=
  textOf_piecesAfter false s

def rewritten (f : Text → Text) (ps : List Piece) : Text :=
  textOf (ps.map (Piece.map f))

@[simp] theorem rewritten_key (f : Text → Text) (content : Text) (ps : List Piece) :
    rewritten f (.key content :: ps) = Form.key (f content) ++ rewritten f ps :=
  rfl

@[simp] theorem rewritten_outside (f : Text → Text) (c : Char) (ps : List Piece) :
    rewritten f (.outside c :: ps) = c :: rewritten f ps :=
  rfl

theorem rewritten_append (f : Text → Text) (ps qs : List Piece) :
    rewritten f (ps ++ qs) = rewritten f ps ++ rewritten f qs := by
  simp [rewritten]

theorem rewritten_outsides (f : Text → Text) (s : Text) : rewritten f (outsides s) = s := by
  induction s with
  | nil => rfl
  | cons c s ih =>
    change c :: rewritten f (outsides s) = c :: s
    rw [ih]

theorem closing?_rewritten (f : Text → Text) {inWord : Bool} {s : Text} (none : closing? s = none) :
    closing? (rewritten f (piecesAfter inWord s)) = Option.none := by
  fun_induction piecesAfter inWord s with
  | case1 => exact none
  | case2 inWord c rest content tail found ih => simp [key_text, closing?]
  | case3 inWord c rest found ih =>
    simp only [closing?] at none
    split at none
    · simp at none
    · next goesOn =>
      split at none
      · next opens => simp [closing?, opens]
      · next plain => simp [closing?, goesOn, plain, ih (Option.map_eq_none_iff.mp none)]

theorem rewritten_inWord (f : Text → Text) {s tail : Text} {c : Char}
    (same : rewritten f (piecesAfter true s) = c :: tail) :
    ∃ rest, s = c :: rest ∧ tail = rewritten f (piecesAfter (isWordCharacter c) rest) := by
  cases s with
  | nil => simp [piecesAfter_nil, rewritten] at same
  | cons d rest =>
    rw [piecesAfter_outside (.inl rfl), rewritten_outside, List.cons.injEq] at same
    obtain ⟨rfl, rfl⟩ := same
    exact ⟨rest, rfl, rfl⟩

theorem leadingKey?_rewritten (f : Text → Text) {c : Char} {rest : Text}
    (none : leadingKey? (c :: rest) = none) :
    leadingKey? (c :: rewritten f (piecesAfter (isWordCharacter c) rest)) = Option.none := by
  -- Inside the word `pk` no key begins, so its two letters and the parenthesis were there before.
  rcases found : leadingKey? (c :: rewritten f (piecesAfter (isWordCharacter c) rest)) with
    _ | ⟨content, tail⟩
  · rfl
  · exfalso
    obtain ⟨same, flat⟩ := leadingKey?_eq_some_iff.mp found
    rw [key_text, List.cons_append, List.cons.injEq] at same
    obtain ⟨rfl, same⟩ := same
    rw [show isWordCharacter 'p' = true by decide +kernel] at same
    obtain ⟨rest, rfl, second⟩ := rewritten_inWord f same
    rw [show isWordCharacter 'k' = true by decide +kernel] at second
    obtain ⟨rest, rfl, third⟩ := rewritten_inWord f second.symm
    have closes : closing? (content ++ ')' :: tail) = some (content, tail) :=
      closing?_append flat tail
    rw [show content ++ ')' :: tail = List.append (content ++ [')']) tail by simp, third,
      closing?_rewritten f (by simpa [leadingKey?] using none)] at closes
    simp at closes

theorem piecesAfter_rewritten {f : Text → Text} {inWord : Bool} {s : Text}
    (flat : ∀ content ∈ written (piecesAfter inWord s), Flat (f content)) :
    piecesAfter inWord (rewritten f (piecesAfter inWord s)) =
      (piecesAfter inWord s).map (Piece.map f) := by
  -- What was no key stays none: the replacement changes only what stands between parentheses.
  fun_induction piecesAfter inWord s with
  | case1 => simp [rewritten, piecesAfter_nil]
  | case2 inWord c rest content tail found ih =>
    have outer : inWord = false := by cases inWord <;> simp_all
    subst outer
    have later := ih fun other member => flat other (List.mem_cons_of_mem content member)
    rw [rewritten_key, piecesAfter_key (flat content (List.mem_cons_self ..)), later]
    rfl
  | case3 inWord c rest found ih =>
    have none : inWord = true ∨ leadingKey? (c :: rest) = none := by
      cases inWord <;> simp_all
    rw [rewritten_outside, piecesAfter_outside (none.imp id (leadingKey?_rewritten f)), ih flat]
    rfl

end Extraction

end SpendPolicy
