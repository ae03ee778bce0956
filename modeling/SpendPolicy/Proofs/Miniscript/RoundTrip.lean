import SpendPolicy.Miniscript.Reader
import SpendPolicy.Proofs.Miniscript.Meaning
import SpendPolicy.Proofs.Numeral.Hexadecimal
import SpendPolicy.Proofs.Policy.Legibility

set_option autoImplicit false

namespace SpendPolicy.Miniscript

open Policy (Rest LeafName Name)

def outcome? {s : Text} {α : Type} (result : Option (α × Rest s)) : Option (α × Text) :=
  result.map fun (value, rest) => (value, rest.1)

theorem isWrapped_call {name : Text} (plain : ':' ∉ name) (body : Text) :
    isWrapped (name ++ '(' :: body) = false := by
  have head : ((name ++ '(' :: body).dropWhile wrapperLetters.contains).head? ≠ some ':' := by
    -- The letters of wrappers are skipped until one stands that is none, and it is no colon.
    induction name with
    | nil => simp [wrapperLetters]
    | cons c name ih =>
      have tail := ih fun member => plain (by simp [member])
      have other : c ≠ ':' := fun same => plain (by simp [same])
      rw [List.cons_append, List.dropWhile_cons]
      split
      · exact tail
      · simpa using other
  simp [isWrapped, head]

theorem isWrapped_letter {c : Char} {s : Text} (letter : wrapperLetters.contains c = true)
    (wrapped : isWrapped s = true ∨ s.head? = some ':') : isWrapped (c :: s) = true := by
  have colon : (s.dropWhile wrapperLetters.contains).head? = some ':' := by
    rcases wrapped with wrapped | colon
    · simp only [isWrapped, Bool.and_eq_true, beq_iff_eq] at wrapped
      exact wrapped.2
    · match s with
      | d :: s =>
        cases colon
        rw [List.dropWhile_cons_of_neg (by decide)]
        rfl
  simp only [isWrapped, List.takeWhile_cons, List.dropWhile_cons, letter, if_true, colon]
  simp

theorem outcome_zero (rest : Text) : outcome? (readOne? ('0' :: rest)) = some (.zero, rest) := by
  rw [readOne?]
  rfl

theorem outcome_colon {c : Char} {s : Text} (wrapped : isWrapped (c :: ':' :: s) = true)
    (other : c ≠ '0') {wrapper : Wrapper} (letter : wrapperOfLetter? c = some wrapper) :
    outcome? (readOne? (c :: ':' :: s)) =
      (outcome? (readOne? s)).map fun (argument, rest) => (.wrap wrapper argument, rest) := by
  rw [readOne?]
  · simp only [wrapped, letter]
    cases readOne? s <;> rfl
  · exact other

theorem outcome_letter {c d : Char} {s : Text} (wrapped : isWrapped (c :: d :: s) = true)
    (other : c ≠ '0') (more : d ≠ ':') {wrapper : Wrapper}
    (letter : wrapperOfLetter? c = some wrapper) :
    outcome? (readOne? (c :: d :: s)) =
      (outcome? (readOne? (d :: s))).map fun (argument, rest) => (.wrap wrapper argument, rest) := by
  rw [readOne?]
  · simp [wrapped, letter, more]
    cases readOne? (d :: s) <;> rfl
  · exact other

def afterName? (name body : Text) : Option (Miniscript × Text) :=
  if name = Name.thresh.text then
    (body.cut? ',').bind fun (required, list) =>
      (Numeral.readUnsigned? required).bind fun k =>
        (outcome? (readMany? list)).map fun (items, rest) => (.thresh k items, rest)
  else if (Name.ofText? name).isSome then
    (body.cut? ')').bind fun (argument, rest) => (leafOf? name argument).map fun leaf => (leaf, rest)
  else
    (outcome? (readMany? body)).bind fun (items, rest) =>
      (pairOf? name items).map fun pair => (pair, rest)

theorem outcome_call {c : Char} {s name body : Text} (calls : isWrapped (c :: s) = false)
    (other : c ≠ '0') (cut : Text.cut? '(' (c :: s) = some (name, body)) :
    outcome? (readOne? (c :: s)) = afterName? name body := by
  rw [readOne?]
  · simp only [calls]
    split
    · next none => simp [cut] at none
    · next first rest found =>
      rw [cut, Option.some.injEq, Prod.mk.injEq] at found
      obtain ⟨rfl, rfl⟩ := found
      by_cases thresh : name = ['t', 'h', 'r', 'e', 's', 'h']
      · have spelled : name = Name.thresh.text := thresh
        simp only [afterName?, if_pos thresh, if_pos spelled]
        split
        · next none => simp [none, outcome?]
        · next required list comma =>
          simp only [comma, Option.bind_some]
          cases Numeral.readUnsigned? required with
          | none => rfl
          | some k => cases readMany? list <;> rfl
      · have misspelled : ¬ name = Name.thresh.text := thresh
        by_cases leaf : (Name.ofText? name).isSome
        · simp only [afterName?, if_neg thresh, if_neg misspelled, if_pos leaf]
          split
          · next none => simp [none, outcome?]
          · next argument last closes =>
            simp only [closes, Option.bind_some]
            cases leafOf? name argument <;> rfl
        · simp only [afterName?, if_neg thresh, if_neg misspelled, if_neg leaf]
          cases readMany? body with
          | none => rfl
          | some read => cases pair : pairOf? name read.1 <;> simp [pair, outcome?]
  · exact other

theorem outcome_named {name : Text} (plain : ':' ∉ name) (flat : '(' ∉ name)
    (start : name.head? ≠ some '0') (filled : name ≠ []) (body : Text) :
    outcome? (readOne? (name ++ '(' :: body)) = afterName? name body := by
  obtain ⟨c, tail, rfl⟩ := List.exists_cons_of_ne_nil filled
  exact outcome_call (isWrapped_call plain body) (by simpa using start) (Text.cut?_append flat body)

theorem outcome_readMany (s : Text) :
    outcome? (readMany? s) = (outcome? (readOne? s)).bind fun (item, left) =>
      match left with
      | ')' :: tail => some ([item], tail)
      | ',' :: tail => (outcome? (readMany? tail)).map fun (items, rest) => (item :: items, rest)
      | _ => none := by
  rw [readMany?]
  split
  · next none => simp [none, outcome?]
  · next item rest found =>
    simp only [found, outcome?, Option.map_some, Option.bind_some]
    split
    · next tail closes => simp [closes]
    · next tail comma =>
      simp only [comma]
      cases readMany? tail <;> rfl
    · next notClosed notComma =>
      split
      · next tail closes => exact absurd closes (notClosed tail)
      · next tail comma => exact absurd comma (notComma tail)
      · rfl

theorem isWrapped_append {s : Text} (wrapped : isWrapped s = true) (t : Text) :
    isWrapped (s ++ t) = true := by
  simp only [isWrapped, Bool.and_eq_true, Bool.not_eq_true', List.isEmpty_eq_false_iff,
    beq_iff_eq] at wrapped ⊢
  obtain ⟨letters, colon⟩ := wrapped
  match s with
  | c :: s =>
    have letter : wrapperLetters.contains c = true := by
      cases letter : wrapperLetters.contains c with
      | true => rfl
      | false => exact absurd (List.takeWhile_cons_of_neg (by rw [letter]; decide)) letters
    have rest : (c :: s).dropWhile wrapperLetters.contains ≠ [] := by
      intro empty
      simp [empty] at colon
    constructor
    · rw [List.cons_append, List.takeWhile_cons_of_pos letter]
      simp
    · rw [List.dropWhile_append, if_neg (by simpa using rest), List.head?_append, colon]
      rfl

theorem letter_spec (wrapper : Wrapper) : wrapperOfLetter? wrapper.letter = some wrapper ∧
    wrapperLetters.contains wrapper.letter = true ∧ wrapper.letter ≠ '0' ∧ wrapper.letter ≠ ':' := by
  cases wrapper <;> decide

theorem head_text (m : Miniscript) : ∃ c s, m.text = c :: s ∧ c ≠ ':' := by
  cases m with
  | hash algorithm digest => cases algorithm <;> exact ⟨_, _, rfl, by decide⟩
  | wrap wrapper argument =>
    unfold text attach
    split
    · exact ⟨_, _, rfl, (letter_spec wrapper).2.2.2⟩
    · exact ⟨_, _, rfl, (letter_spec wrapper).2.2.2⟩
  | _ => exact ⟨_, _, rfl, by decide⟩

theorem text_wrap (wrapper : Wrapper) (argument : Miniscript) :
    isWrapped argument.text = true ∧
        (wrap wrapper argument).text = wrapper.letter :: argument.text ∨
      (wrap wrapper argument).text = wrapper.letter :: ':' :: argument.text := by
  change isWrapped argument.text = true ∧ attach [wrapper.letter] argument.text = _ ∨
    attach [wrapper.letter] argument.text = _
  unfold attach
  split
  · next wrapped => exact .inl ⟨wrapped, rfl⟩
  · exact .inr rfl

theorem isWrapped_wrap (wrapper : Wrapper) (argument : Miniscript) :
    isWrapped (wrap wrapper argument).text = true := by
  have letter := (letter_spec wrapper).2.1
  rcases text_wrap wrapper argument with ⟨wrapped, attached⟩ | attached
  · rw [attached]
    exact isWrapped_letter letter (.inl wrapped)
  · rw [attached]
    exact isWrapped_letter letter (.inr rfl)

theorem isWrapped_form {name : Text} (plain : ':' ∉ name) (arguments : List Text) :
    isWrapped (Form.call name arguments) = false := by
  rw [Form.call_eq]
  exact isWrapped_call plain _

theorem outcome_wrap {argument : Miniscript} {rest : Text}
    (inner : outcome? (readOne? (argument.text ++ rest)) = some (argument, rest)) (wrapper : Wrapper) :
    outcome? (readOne? ((wrap wrapper argument).text ++ rest)) =
      some (.wrap wrapper argument, rest) := by
  obtain ⟨reads, letter, other, _⟩ := letter_spec wrapper
  rcases text_wrap wrapper argument with ⟨wrapped, attached⟩ | attached
  · have whole := isWrapped_append (isWrapped_letter letter (.inl wrapped)) rest
    obtain ⟨c, s, start, more⟩ := head_text argument
    rw [start] at inner whole attached
    rw [List.cons_append, List.cons_append] at whole
    rw [attached, List.cons_append, List.cons_append, outcome_letter whole other more reads]
    exact congrArg (Option.map _) inner
  · have whole := isWrapped_append (isWrapped_letter (s := ':' :: argument.text) letter (.inr rfl)) rest
    rw [List.cons_append, List.cons_append] at whole
    rw [attached, List.cons_append, List.cons_append, outcome_colon whole other reads]
    exact congrArg (Option.map _) inner

theorem outcome_leaf (name : LeafName) {argument : Text} {m : Miniscript} (closed : ')' ∉ argument)
    (reads : leafOf? name.text argument = some m) (rest : Text) :
    outcome? (readOne? (Form.call name.text [argument] ++ rest)) = some (m, rest) := by
  have shape : ':' ∉ name.text ∧ '(' ∉ name.text ∧ name.text.head? ≠ some '0' ∧
      name.text ≠ [] ∧ name.text ≠ Name.thresh.text := by
    rcases name with _ | _ | _ | algorithm <;> try cases algorithm
    all_goals decide
  obtain ⟨plain, flat, start, filled, other⟩ := shape
  rw [Form.call_append, outcome_named plain flat start filled]
  have known : Name.ofText? name.text = some (.leaf name) := Policy.ofText?_text (.leaf name)
  simp [afterName?, other, known, Text.commaSeparated, Text.cut?_append closed, reads]

theorem outcome_texts_cons {item : Miniscript} {items : List Miniscript} {rest : Text}
    (first : ∀ rest, outcome? (readOne? (item.text ++ rest)) = some (item, rest))
    (others : items ≠ [] → outcome? (readMany? (Text.commaSeparated (texts items) ++ ')' :: rest)) =
      some (items, rest)) :
    outcome? (readMany? (Text.commaSeparated (texts (item :: items)) ++ ')' :: rest)) =
      some (item :: items, rest) := by
  rw [outcome_readMany]
  match items with
  | [] =>
    rw [show Text.commaSeparated (texts [item]) = item.text by simp [Text.commaSeparated], first]
    rfl
  | other :: items =>
    have filled : texts (other :: items) ≠ [] := by simp
    rw [show texts (item :: other :: items) = item.text :: texts (other :: items) from rfl,
      Text.commaSeparated_cons filled, List.append_assoc, first, List.cons_append]
    simp only [Option.bind_some, others (by simp), Option.map_some]

theorem outcome_pair {name : Text} {left right m : Miniscript}
    (named : name ∈ [['a', 'n', 'd', '_', 'v'], ['o', 'r', '_', 'd'], ['o', 'r', '_', 'i']])
    (builds : pairOf? name [left, right] = some m)
    (first : ∀ rest, outcome? (readOne? (left.text ++ rest)) = some (left, rest))
    (second : ∀ rest, outcome? (readOne? (right.text ++ rest)) = some (right, rest)) (rest : Text) :
    outcome? (readOne? (Form.call name [left.text, right.text] ++ rest)) = some (m, rest) := by
  have shape : ∀ name ∈ [['a', 'n', 'd', '_', 'v'], ['o', 'r', '_', 'd'], ['o', 'r', '_', 'i']],
      ':' ∉ name ∧ '(' ∉ name ∧ name.head? ≠ some '0' ∧ name ≠ [] ∧
        name ≠ Name.thresh.text ∧ (Name.ofText? name).isSome = false := by
    decide
  obtain ⟨plain, flat, start, filled, other, unknown⟩ := shape name named
  have last := @outcome_texts_cons right [] rest second (absurd rfl)
  have items := outcome_texts_cons first fun _ => last
  rw [Form.call_append, outcome_named plain flat start filled]
  simp only [texts] at items
  simp [afterName?, other, unknown, items, builds]

theorem outcome_thresh {required : Nat} {items : List Miniscript} {rest : Text}
    (legible : Numeral.Legible required) (filled : items ≠ [])
    (each : outcome? (readMany? (Text.commaSeparated (texts items) ++ ')' :: rest)) =
      some (items, rest)) :
    outcome? (readOne? ((thresh required items).text ++ rest)) =
      some (.thresh required items, rest) := by
  have parts : texts items ≠ [] := by simpa using filled
  have single : ',' ∉ Numeral.ofNat required := fun member =>
    absurd (Numeral.isDigit_ofNat required _ member) (by decide)
  change outcome? (readOne?
    (Form.call Name.thresh.text (Numeral.ofNat required :: texts items) ++ rest)) = _
  rw [Form.call_append, outcome_named (by decide) (by decide) (by decide) (by decide),
    Text.commaSeparated_cons parts, List.append_assoc, List.cons_append]
  simp only [afterName?, if_true, Text.cut?_append single, Option.bind_some,
    Numeral.readUnsigned?_ofNat legible, each, Option.map_some]

structure Legible (m : Miniscript) : Prop where
  leaves : ∀ leaf ∈ m.leaves, leaf.Legible
  thresholds : ∀ threshold ∈ m.thresholds, Numeral.Legible threshold.1 ∧ 0 < threshold.2

theorem legible_halves {x y m : Miniscript} (legible : m.Legible)
    (leaves : m.leaves = x.leaves ++ y.leaves)
    (thresholds : m.thresholds = x.thresholds ++ y.thresholds) :
    x.Legible ∧ y.Legible := by
  refine ⟨⟨fun leaf member => ?_, fun t member => ?_⟩, ⟨fun leaf member => ?_, fun t member => ?_⟩⟩
  · exact legible.leaves leaf (by simp [leaves, member])
  · exact legible.thresholds t (by simp [thresholds, member])
  · exact legible.leaves leaf (by simp [leaves, member])
  · exact legible.thresholds t (by simp [thresholds, member])

theorem leafOf?_after {value : Nat} (legible : Numeral.Legible value) :
    leafOf? LeafName.after.text (Numeral.ofNat value) = some (.after value) := by
  have known : Name.ofText? LeafName.after.text = some (.leaf .after) := by decide
  simp only [leafOf?, known, Numeral.readUnsigned?_ofNat legible, Option.map_some]

theorem leafOf?_older {value : Nat} (legible : Numeral.Legible value) :
    leafOf? LeafName.older.text (Numeral.ofNat value) = some (.older value) := by
  have known : Name.ofText? LeafName.older.text = some (.leaf .older) := by decide
  simp only [leafOf?, known, Numeral.readUnsigned?_ofNat legible, Option.map_some]

theorem leafOf?_hash (algorithm : HashAlgorithm) (digest : Bytes) :
    leafOf? (LeafName.hash algorithm).text (Hex.encode digest) = some (.hash algorithm digest) := by
  have known : Name.ofText? (LeafName.hash algorithm).text = some (.leaf (.hash algorithm)) :=
    Policy.ofText?_text (.leaf (.hash algorithm))
  simp only [leafOf?, known, Hex.decode?_encode, Option.map_some]

theorem legible_item {required : Nat} {items : List Miniscript}
    (legible : (thresh required items).Legible) : ∀ item ∈ items, item.Legible := by
  intro item member
  constructor
  · intro leaf inside
    apply legible.leaves leaf
    simpa [leaves] using ⟨item, member, inside⟩
  · intro threshold inside
    apply legible.thresholds threshold
    simpa [thresholds] using .inr ⟨item, member, inside⟩

-- Mutual with the items, which are read up to the closing parenthesis that the caller writes.
mutual

theorem outcome_text {m : Miniscript} (legible : m.Legible) (rest : Text) :
    outcome? (readOne? (m.text ++ rest)) = some (m, rest) := by
  match m with
  | .zero => exact outcome_zero rest
  | .key name =>
    have plain : Policy.Plain name := legible.leaves (.key name) (by simp [leaves])
    exact outcome_leaf .key plain.2.1 rfl rest
  | .after value =>
    have reads := leafOf?_after (legible.leaves (.after value) (by simp [leaves]))
    exact outcome_leaf .after (Numeral.notMem_ofNat (by decide)) reads rest
  | .older value =>
    have reads := leafOf?_older (legible.leaves (.older value) (by simp [leaves]))
    exact outcome_leaf .older (Numeral.notMem_ofNat (by decide)) reads rest
  | .hash algorithm digest =>
    have closed : ')' ∉ Hex.encode digest := fun member =>
      absurd (Hex.mem_digits_of_encode member) (by decide)
    exact outcome_leaf (.hash algorithm) closed (leafOf?_hash algorithm digest) rest
  | .andV left right =>
    obtain ⟨first, second⟩ := legible_halves legible rfl rfl
    exact outcome_pair (by simp) rfl (outcome_text first) (outcome_text second) rest
  | .orD left right =>
    obtain ⟨first, second⟩ := legible_halves legible rfl rfl
    exact outcome_pair (by simp) rfl (outcome_text first) (outcome_text second) rest
  | .orI left right =>
    obtain ⟨first, second⟩ := legible_halves legible rfl rfl
    exact outcome_pair (by simp) rfl (outcome_text first) (outcome_text second) rest
  | .thresh required items =>
    obtain ⟨short, filled⟩ := legible.thresholds (required, items.length) (by simp [thresholds])
    exact outcome_thresh short (List.ne_nil_of_length_pos filled)
      (outcome_texts (legible_item legible) (List.ne_nil_of_length_pos filled) rest)
  | .wrap wrapper argument =>
    exact outcome_wrap (outcome_text (m := argument) ⟨legible.leaves, legible.thresholds⟩ rest) wrapper

theorem outcome_texts {items : List Miniscript} (legible : ∀ item ∈ items, item.Legible)
    (filled : items ≠ []) (rest : Text) :
    outcome? (readMany? (Text.commaSeparated (texts items) ++ ')' :: rest)) = some (items, rest) := by
  match items with
  | item :: items =>
    have others : ∀ item ∈ items, item.Legible :=
      fun other member => legible other (List.mem_cons_of_mem item member)
    exact outcome_texts_cons (outcome_text (legible item (List.mem_cons_self ..)))
      fun more => outcome_texts others more rest

end

theorem read?_text {m : Miniscript} (legible : m.Legible) : read? m.text = some m := by
  have whole := outcome_text legible []
  rw [List.append_nil] at whole
  unfold read?
  rcases read : readOne? m.text with _ | ⟨found, rest⟩
  · simp [read, outcome?] at whole
  · simp only [read, outcome?, Option.map_some, Option.some.injEq, Prod.mk.injEq] at whole
    simp [whole]

end SpendPolicy.Miniscript
