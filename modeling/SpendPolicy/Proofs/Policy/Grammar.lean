import Mathlib.Data.Bool.AllAny
import SpendPolicy.Policy.Reader
import SpendPolicy.Proofs.Text.Trimming

set_option autoImplicit false

namespace SpendPolicy

namespace Form

theorem call_append (name : Text) (arguments : List Text) (rest : Text) :
    call name arguments ++ rest = name ++ '(' :: (Text.commaSeparated arguments ++ ')' :: rest) := by
  simp [call]

theorem call_eq (name : Text) (arguments : List Text) :
    call name arguments = name ++ '(' :: (Text.commaSeparated arguments ++ [')']) := by
  simpa using call_append name arguments []

end Form

namespace Policy

open Text (Blank)

def Plain (s : Text) : Prop :=
  '(' ∉ s ∧ ')' ∉ s ∧ ',' ∉ s

instance (s : Text) : Decidable (Plain s) :=
  inferInstanceAs (Decidable ('(' ∉ s ∧ ')' ∉ s ∧ ',' ∉ s))

mutual

inductive Fragment : Text → Policy → Prop
  | leaf {indent gap argument : Text} {name : LeafName} {policy : Policy}
      (blankIndent : Blank indent) (blankGap : Blank gap) (plain : Plain argument)
      (builds : name.build argument.trim = .ok policy) :
      Fragment (indent ++ name.text ++ gap ++ '(' :: (argument ++ [')'])) policy
  | pair {indent gap body : Text} {name : PairName} {items : List Policy} {policy : Policy}
      (blankIndent : Blank indent) (blankGap : Blank gap) (derived : Fragments body items)
      (builds : name.build items = .ok policy) :
      Fragment (indent ++ name.text ++ gap ++ '(' :: body) policy
  | thresh {indent gap number body : Text} {required : Int} {items : List Policy}
      {policy : Policy} (blankIndent : Blank indent) (blankGap : Blank gap)
      (single : ',' ∉ number) (reads : Numeral.read? number = some required)
      (derived : Fragments body items) (builds : ofThresh required items = .ok policy) :
      Fragment (indent ++ Name.thresh.text ++ gap ++ '(' :: (number ++ ',' :: body)) policy

inductive Fragments : Text → List Policy → Prop
  | last {head gap : Text} {policy : Policy} (first : Fragment head policy) (blank : Blank gap) :
      Fragments (head ++ gap ++ [')']) [policy]
  | more {head gap tail : Text} {policy : Policy} {items : List Policy}
      (first : Fragment head policy) (blank : Blank gap) (others : Fragments tail items) :
      Fragments (head ++ gap ++ ',' :: tail) (policy :: items)

end

theorem ofText?_text (name : Name) : Name.ofText? name.text = some name := by
  rcases name with (_ | _ | _ | algorithm) | (_ | _) | _ <;> try cases algorithm
  all_goals decide

theorem ofText?_eq_some_iff {s : Text} {name : Name} : Name.ofText? s = some name ↔ s = name.text := by
  constructor
  · intro found
    have same := List.find?_some found
    exact (beq_iff_eq.mp same).symm
  · rintro rfl
    exact ofText?_text name

theorem name_visible (name : Name) : ∀ c ∈ name.text, isBlank c = false ∧ c ≠ '(' := by
  rcases name with (_ | _ | _ | algorithm) | (_ | _) | _ <;> try cases algorithm
  all_goals exact List.all_iff_forall_prop.mp (by decide)

theorem name_ne_nil (name : Name) : name.text ≠ [] := by
  rcases name with (_ | _ | _ | algorithm) | (_ | _) | _ <;> try cases algorithm
  all_goals decide

theorem trim_name (name : Name) : name.text.trim = name.text :=
  Text.trim_eq_of_visible fun c member => (name_visible name c member).1

def outcome {s : Text} {α : Type} (result : Except Malformed (α × Rest s)) :
    Except Malformed (α × Text) :=
  result.map fun (value, rest) => (value, rest.1)

def Yields {s : Text} {α : Type} (result : Except Malformed (α × Rest s)) (value : α)
    (rest : Text) : Prop :=
  outcome result = .ok (value, rest)

theorem yields_iff {s rest : Text} {α : Type} {value : α}
    {result : Except Malformed (α × Rest s)} :
    Yields result value rest ↔
      ∃ shorter : Rest s, result = .ok (value, shorter) ∧ shorter.1 = rest := by
  unfold Yields outcome
  rcases result with fault | ⟨read, left⟩
  · simp [Except.map]
  · simp only [Except.map, Except.ok.injEq, Prod.mk.injEq]
    constructor
    · rintro ⟨rfl, rfl⟩
      exact ⟨left, ⟨rfl, rfl⟩, rfl⟩
    · rintro ⟨shorter, ⟨rfl, rfl⟩, rfl⟩
      exact ⟨rfl, rfl⟩

theorem readArguments_yields_iff {s rest : Text} {arguments : List Text} :
    Yields (readArguments s) arguments rest ↔
      ∃ inner, s = inner ++ ')' :: rest ∧ ')' ∉ inner ∧ '(' ∉ inner ∧
        arguments = (Text.parts ',' inner).map Text.trim := by
  rw [yields_iff]
  unfold readArguments
  constructor
  · rintro ⟨shorter, read, rfl⟩
    split at read
    · simp at read
    · next inner tail cut =>
      obtain ⟨whole, absent⟩ := Text.cut?_eq_some_iff.mp cut
      split at read
      · simp at read
      · next flat =>
        simp only [Except.ok.injEq, Prod.mk.injEq] at read
        obtain ⟨rfl, rfl⟩ := read
        exact ⟨inner, whole, absent, by simpa using flat, rfl⟩
  · rintro ⟨inner, rfl, closed, flat, rfl⟩
    have cut := Text.cut?_append closed rest
    split
    · next none => simp [cut] at none
    · next part tail found =>
      rw [cut, Option.some.injEq, Prod.mk.injEq] at found
      obtain ⟨rfl, rfl⟩ := found
      simp [flat]

theorem readNumber_yields_iff {s rest : Text} {value : Int} :
    Yields (readNumber s) value rest ↔
      ∃ number, s = number ++ ',' :: rest ∧ ',' ∉ number ∧ Numeral.read? number = some value := by
  rw [yields_iff]
  unfold readNumber
  constructor
  · rintro ⟨shorter, read, rfl⟩
    split at read
    · simp at read
    · next number tail cut =>
      obtain ⟨whole, absent⟩ := Text.cut?_eq_some_iff.mp cut
      split at read
      · simp at read
      · next n found =>
        simp only [Except.ok.injEq, Prod.mk.injEq] at read
        obtain ⟨rfl, rfl⟩ := read
        exact ⟨number, whole, absent, found⟩
  · rintro ⟨number, rfl, single, reads⟩
    have cut := Text.cut?_append single rest
    split
    · next none => simp [cut] at none
    · next part tail found =>
      rw [cut, Option.some.injEq, Prod.mk.injEq] at found
      obtain ⟨rfl, rfl⟩ := found
      simp [reads]

theorem built_eq_ok_iff {result : Except Fault Policy} {policy : Policy} :
    built result = .ok policy ↔ result = .ok policy := by
  cases result with
  | ok other =>
    constructor
    · rintro ⟨⟩
      rfl
    · rintro ⟨⟩
      rfl
  | error fault =>
    constructor
    · rintro ⟨⟩
    · rintro ⟨⟩

theorem build_key {name : Text} (filled : name ≠ []) : LeafName.key.build name = .ok (.key name) := by
  simp [LeafName.build, built_eq_ok_iff, ofKey, filled]

theorem build_nil (name : LeafName) (policy : Policy) : name.build [] ≠ .ok policy := by
  cases name with
  | key => simp [LeafName.build, built_eq_ok_iff, ofKey]
  | after => simp [LeafName.build, show Numeral.read? [] = none from rfl]
  | older => simp [LeafName.build, show Numeral.read? [] = none from rfl]
  | hash algorithm =>
    cases algorithm <;>
      simp [LeafName.build, Hex.decode?, built_eq_ok_iff, ofHash, HashAlgorithm.digestSize]

theorem readLeaf_yields_iff {s rest : Text} {name : LeafName} {policy : Policy} :
    Yields (readLeaf name s) policy rest ↔
      ∃ argument, s = argument ++ ')' :: rest ∧ Plain argument ∧
        name.build argument.trim = .ok policy := by
  constructor
  · intro yields
    obtain ⟨shorter, read, rfl⟩ := yields_iff.mp yields
    unfold readLeaf at read
    split at read
    · simp at read
    · next arguments tail found =>
      obtain ⟨inner, whole, closed, flat, split⟩ :=
        readArguments_yields_iff.mp (yields_iff.mpr ⟨tail, found, rfl⟩)
      split at read
      · next c argument =>
        cases builds : name.build (c :: argument) with
        | error fault => simp [builds, Except.map] at read
        | ok built =>
          simp only [builds, Except.map, Except.ok.injEq, Prod.mk.injEq] at read
          obtain ⟨rfl, rfl⟩ := read
          obtain ⟨part, single, trimmed⟩ := List.map_eq_singleton_iff.mp split.symm
          obtain ⟨rfl, plain⟩ := Text.parts_eq_singleton_iff.mp single
          exact ⟨inner, whole, ⟨flat, closed, plain⟩, by rw [trimmed, builds]⟩
      · simp at read
  · rintro ⟨argument, whole, ⟨flat, closed, plain⟩, builds⟩
    have single : (Text.parts ',' argument).map Text.trim = [argument.trim] := by
      rw [Text.parts_eq_singleton_iff.mpr ⟨rfl, plain⟩, List.map_singleton]
    obtain ⟨shorter, read, left⟩ :=
      yields_iff.mp (readArguments_yields_iff.mpr ⟨argument, whole, closed, flat, rfl⟩)
    refine yields_iff.mpr ⟨shorter, ?_, left⟩
    match trimmed : argument.trim with
    | [] => exact absurd (trimmed ▸ builds) (build_nil name policy)
    | c :: tail => simp [readLeaf, read, single, trimmed, trimmed ▸ builds, Except.map]

def Opens (s : Text) (name : Name) (body : Text) : Prop :=
  ∃ written, s.trimLeft.cut? '(' = some (written, body) ∧ Name.ofText? written.trim = some name

theorem opens_iff {s body : Text} {name : Name} :
    Opens s name body ↔ ∃ indent gap, Blank indent ∧ Blank gap ∧
      s = indent ++ name.text ++ gap ++ '(' :: body := by
  constructor
  · rintro ⟨written, cut, found⟩
    obtain ⟨whole, _⟩ := Text.cut?_eq_some_iff.mp cut
    obtain ⟨edge, blank, start⟩ := Text.exists_gap_trimLeft s
    obtain ⟨indent, gap, blankIndent, blankGap, spelled⟩ := Text.exists_gaps_trim written
    rw [ofText?_eq_some_iff.mp found] at spelled
    refine ⟨edge ++ indent, gap, blank.append blankIndent, blankGap, ?_⟩
    rw [start, whole, spelled]
    simp only [List.append_assoc]
  · rintro ⟨indent, gap, blankIndent, blankGap, rfl⟩
    have trimmed : (name.text ++ gap).trim = name.text := by
      have inner := Text.trim_gaps Text.blank_nil blankGap name.text
      rwa [List.nil_append, trim_name] at inner
    have start : (indent ++ name.text ++ gap ++ '(' :: body).trimLeft =
        name.text ++ gap ++ '(' :: body := by
      rw [List.append_assoc, List.append_assoc, Text.trimLeft_blank_append blankIndent,
        ← List.append_assoc]
      match letters : name.text, name_ne_nil name with
      | c :: tail, _ =>
        exact Text.trimLeft_cons (name_visible name c (by simp [letters])).1 _
    refine ⟨name.text ++ gap, ?_, by rw [trimmed, ofText?_text]⟩
    rw [start]
    apply Text.cut?_append
    rw [List.mem_append, not_or]
    exact ⟨fun member => (name_visible name _ member).2 rfl, blankGap.notMem (by decide)⟩

theorem readOne_opens {s rest : Text} {policy : Policy} (yields : Yields (readOne s) policy rest) :
    ∃ name body, Opens s name body := by
  obtain ⟨shorter, read, _⟩ := yields_iff.mp yields
  rw [readOne] at read
  split at read
  · simp at read
  · simp at read
  · next c written body cut =>
    split at read
    · simp at read
    all_goals next found => exact ⟨_, body, _, cut, found⟩

def afterName (name : Name) (body : Text) : Except Malformed (Policy × Text) :=
  match name with
  | .leaf leaf => outcome (readLeaf leaf body)
  | .pair pair =>
    match outcome (readMany body) with
    | .error e => .error e
    | .ok (items, rest) => (pair.build items).map fun policy => (policy, rest)
  | .thresh =>
    match outcome (readNumber body) with
    | .error e => .error e
    | .ok (required, list) =>
      match outcome (readMany list) with
      | .error e => .error e
      | .ok (items, rest) => (built (ofThresh required items)).map fun policy => (policy, rest)

theorem outcome_readOne {s body : Text} {name : Name} (opens : Opens s name body) :
    outcome (readOne s) = afterName name body := by
  obtain ⟨written, cut, found⟩ := opens
  rw [readOne]
  split
  · next none => simp [cut] at none
  · next empty =>
    rw [cut, Option.some.injEq, Prod.mk.injEq] at empty
    simp [empty.1, show Name.ofText? (Text.trim []) = none from rfl] at found
  · next c letters tail again =>
    rw [cut, Option.some.injEq, Prod.mk.injEq] at again
    obtain ⟨rfl, rfl⟩ := again
    simp only [found]
    cases name with
    | leaf leaf =>
      rcases read : readLeaf leaf body with fault | ⟨policy, rest⟩ <;>
        simp [afterName, read, outcome, Except.map, Rest.within]
    | pair pair =>
      rcases read : readMany body with fault | ⟨items, rest⟩
      · simp [afterName, read, outcome, Except.map]
      · cases builds : pair.build items <;>
          simp [afterName, read, outcome, Except.map, builds, Rest.within]
    | thresh =>
      rcases number : readNumber body with fault | ⟨required, list⟩
      · simp [afterName, number, outcome, Except.map]
      · rcases read : readMany list.1 with fault | ⟨items, rest⟩
        · simp [afterName, number, read, outcome, Except.map]
        · cases builds : built (ofThresh required items) <;>
            simp [afterName, number, read, outcome, Except.map, builds, Rest.within]

theorem paired_eq_ok_iff {result : Except Malformed Policy} {policy : Policy} {left rest : Text} :
    (result.map fun policy => (policy, left)) = .ok (policy, rest) ↔
      result = .ok policy ∧ left = rest := by
  cases result <;> simp [Except.map]

theorem readOne_leaf_iff {s body rest : Text} {name : LeafName} {policy : Policy}
    (opens : Opens s (.leaf name) body) :
    Yields (readOne s) policy rest ↔ Yields (readLeaf name body) policy rest := by
  rw [Yields, outcome_readOne opens]
  rfl

theorem readOne_pair_iff {s body rest : Text} {name : PairName} {policy : Policy}
    (opens : Opens s (.pair name) body) :
    Yields (readOne s) policy rest ↔
      ∃ items, Yields (readMany body) items rest ∧ name.build items = .ok policy := by
  rw [Yields, outcome_readOne opens, afterName]
  unfold Yields
  rcases outcome (readMany body) with fault | ⟨items, left⟩
  · simp
  · simp only [paired_eq_ok_iff, Except.ok.injEq, Prod.mk.injEq]
    grind

theorem readOne_thresh_iff {s body rest : Text} {policy : Policy}
    (opens : Opens s .thresh body) :
    Yields (readOne s) policy rest ↔
      ∃ required list items, Yields (readNumber body) required list ∧
        Yields (readMany list) items rest ∧ ofThresh required items = .ok policy := by
  rw [Yields, outcome_readOne opens, afterName]
  unfold Yields
  rcases outcome (readNumber body) with fault | ⟨required, list⟩
  · simp
  · rcases read : outcome (readMany list) with fault | ⟨items, left⟩
    · simp only [Except.ok.injEq, Prod.mk.injEq]
      grind
    · simp only [read, paired_eq_ok_iff, built_eq_ok_iff, Except.ok.injEq, Prod.mk.injEq]
      grind

def afterItem (item : Policy) (left : Text) : Except Malformed (List Policy × Text) :=
  match left.trimLeft with
  | ')' :: tail => .ok ([item], tail)
  | ',' :: tail =>
    match outcome (readMany tail) with
    | .error e => .error e
    | .ok (items, last) => .ok (item :: items, last)
  | other => .error (.noSeparator other)

theorem outcome_readMany (s : Text) :
    outcome (readMany s) = match outcome (readOne s) with
      | .error e => .error e
      | .ok (item, left) => afterItem item left := by
  rw [readMany]
  rcases readOne s with fault | ⟨item, left⟩
  · rfl
  · change _ = afterItem item left.1
    dsimp only
    unfold afterItem
    split
    · next tail closes => simp [closes, outcome, Except.map]
    · next tail goesOn =>
      rcases read : readMany tail with fault | ⟨items, last⟩ <;>
        simp [goesOn, read, outcome, Except.map, Rest.within]
    · next notClosed notComma => simp [outcome, Except.map]

theorem afterItem_eq_ok_iff {item : Policy} {left rest : Text} {items : List Policy} :
    afterItem item left = .ok (items, rest) ↔
      left.trimLeft = ')' :: rest ∧ items = [item] ∨
        ∃ tail others, left.trimLeft = ',' :: tail ∧ Yields (readMany tail) others rest ∧
          items = item :: others := by
  unfold afterItem Yields
  split
  · next tail closes => simp [closes, and_comm, eq_comm]
  · next tail goesOn =>
    rcases read : outcome (readMany tail) with fault | ⟨others, last⟩
    · simp [goesOn, read]
    · simp only [goesOn, Except.ok.injEq, Prod.mk.injEq, List.cons.injEq]
      grind
  · next notClosed notComma => simp_all

theorem readMany_iff {s rest : Text} {items : List Policy} :
    Yields (readMany s) items rest ↔ ∃ item left, Yields (readOne s) item left ∧
      (left.trimLeft = ')' :: rest ∧ items = [item] ∨
        ∃ tail others, left.trimLeft = ',' :: tail ∧ Yields (readMany tail) others rest ∧
          items = item :: others) := by
  rw [Yields, outcome_readMany]
  simp only [← afterItem_eq_ok_iff]
  unfold Yields
  rcases outcome (readOne s) with fault | ⟨item, left⟩
  · simp
  · constructor
    · intro read
      exact ⟨item, left, rfl, read⟩
    · rintro ⟨_, _, same, read⟩
      cases same
      exact read

mutual

theorem fragment_of_yields {s rest : Text} {policy : Policy}
    (yields : Yields (readOne s) policy rest) :
    ∃ consumed, s = consumed ++ rest ∧ Fragment consumed policy := by
  obtain ⟨name, body, opens⟩ := readOne_opens yields
  obtain ⟨indent, gap, blankIndent, blankGap, whole⟩ := opens_iff.mp opens
  have shorter : body.length < s.length := by
    rw [whole]
    simp only [List.length_append, List.length_cons]
    omega
  match name with
  | .leaf leaf =>
    obtain ⟨argument, split, plain, builds⟩ :=
      readLeaf_yields_iff.mp ((readOne_leaf_iff opens).mp yields)
    exact ⟨_, by rw [whole, split]; simp [Name.text], .leaf blankIndent blankGap plain builds⟩
  | .pair pair =>
    obtain ⟨items, read, builds⟩ := (readOne_pair_iff opens).mp yields
    obtain ⟨consumed, split, derived⟩ := fragments_of_yields read
    exact ⟨_, by rw [whole, split]; simp [Name.text], .pair blankIndent blankGap derived builds⟩
  | .thresh =>
    obtain ⟨required, list, items, number, read, builds⟩ := (readOne_thresh_iff opens).mp yields
    obtain ⟨digits, start, single, reads⟩ := readNumber_yields_iff.mp number
    have within : list.length < body.length := by
      rw [start]
      simp only [List.length_append, List.length_cons]
      omega
    obtain ⟨consumed, split, derived⟩ := fragments_of_yields read
    exact ⟨_, by rw [whole, start, split]; simp,
      .thresh blankIndent blankGap single reads derived builds⟩
termination_by 2 * s.length

theorem fragments_of_yields {s rest : Text} {items : List Policy}
    (yields : Yields (readMany s) items rest) :
    ∃ consumed, s = consumed ++ rest ∧ Fragments consumed items := by
  obtain ⟨item, left, read, continued⟩ := readMany_iff.mp yields
  obtain ⟨head, split, first⟩ := fragment_of_yields read
  obtain ⟨gap, blank, start⟩ := Text.exists_gap_trimLeft left
  rcases continued with ⟨closes, rfl⟩ | ⟨tail, others, goesOn, readTail, rfl⟩
  · refine ⟨_, ?_, .last first blank⟩
    rw [split, start, closes]
    simp
  · have shorter : tail.length < s.length := by
      rw [split, start, goesOn]
      simp only [List.length_append, List.length_cons]
      omega
    obtain ⟨consumed, last, derived⟩ := fragments_of_yields readTail
    refine ⟨_, ?_, .more first blank derived⟩
    rw [split, start, goesOn, last]
    simp
termination_by 2 * s.length + 1

end

theorem opens_append {indent gap body : Text} {name : Name} (blankIndent : Blank indent)
    (blankGap : Blank gap) (rest : Text) :
    Opens (indent ++ name.text ++ gap ++ '(' :: body ++ rest) name (body ++ rest) :=
  opens_iff.mpr ⟨indent, gap, blankIndent, blankGap, by simp⟩

mutual

theorem Fragment.yields {consumed : Text} {policy : Policy} (derived : Fragment consumed policy)
    (rest : Text) : Yields (readOne (consumed ++ rest)) policy rest := by
  match derived with
  | @Fragment.leaf indent gap argument name _ blankIndent blankGap plain builds =>
    apply (readOne_leaf_iff (opens_append blankIndent blankGap rest)).mpr
    exact readLeaf_yields_iff.mpr ⟨argument, by simp, plain, builds⟩
  | @Fragment.pair indent gap body name items _ blankIndent blankGap inner builds =>
    apply (readOne_pair_iff (opens_append blankIndent blankGap rest)).mpr
    exact ⟨items, inner.yields rest, builds⟩
  | @Fragment.thresh indent gap number body required items _ blankIndent blankGap single reads inner
      builds =>
    apply (readOne_thresh_iff (opens_append blankIndent blankGap rest)).mpr
    have start : Yields (readNumber (number ++ ',' :: body ++ rest)) required (body ++ rest) :=
      readNumber_yields_iff.mpr ⟨number, by simp, single, reads⟩
    exact ⟨required, body ++ rest, items, start, inner.yields rest, builds⟩

theorem Fragments.yields {consumed : Text} {items : List Policy}
    (derived : Fragments consumed items) (rest : Text) :
    Yields (readMany (consumed ++ rest)) items rest := by
  apply readMany_iff.mpr
  match derived with
  | @Fragments.last head gap policy first blank =>
    refine ⟨policy, gap ++ ')' :: rest, ?_, .inl ⟨?_, rfl⟩⟩
    · rw [show head ++ gap ++ [')'] ++ rest = head ++ (gap ++ ')' :: rest) by simp]
      exact first.yields _
    · rw [Text.trimLeft_blank_append blank, Text.trimLeft_cons (by decide)]
  | @Fragments.more head gap tail policy items first blank others =>
    refine ⟨policy, gap ++ ',' :: (tail ++ rest), ?_,
      .inr ⟨tail ++ rest, items, ?_, others.yields rest, rfl⟩⟩
    · rw [show head ++ gap ++ ',' :: tail ++ rest = head ++ (gap ++ ',' :: (tail ++ rest)) by simp]
      exact first.yields _
    · rw [Text.trimLeft_blank_append blank, Text.trimLeft_cons (by decide)]

end

theorem readOne_yields_iff {s rest : Text} {policy : Policy} :
    Yields (readOne s) policy rest ↔ ∃ consumed, s = consumed ++ rest ∧ Fragment consumed policy := by
  constructor
  · exact fragment_of_yields
  · rintro ⟨consumed, rfl, derived⟩
    exact derived.yields rest

theorem Fragment.opens {written : Text} {policy : Policy} (derived : Fragment written policy) :
    '(' ∈ written := by
  cases derived <;> simp

theorem Fragment.not_blank {written : Text} {policy : Policy} (derived : Fragment written policy) :
    ¬ Blank written :=
  fun blank => blank.notMem (by decide) derived.opens

theorem read_eq_ok_iff {s : Text} {policy : Policy} :
    read s = .ok policy ↔
      ∃ written gap, s = written ++ gap ∧ Fragment written policy ∧ Blank gap := by
  constructor
  · intro reads
    unfold read at reads
    split at reads
    · simp at reads
    · split at reads
      · simp at reads
      · next found rest one =>
        split at reads
        · next blank =>
          cases reads
          obtain ⟨written, split, derived⟩ :=
            readOne_yields_iff.mp (yields_iff.mpr ⟨rest, one, rfl⟩)
          exact ⟨written, rest.1, split, derived, (Text.trim_eq_nil_iff _).mp blank⟩
        · simp at reads
  · rintro ⟨written, gap, rfl, derived, blank⟩
    obtain ⟨rest, one, left⟩ := yields_iff.mp (derived.yields gap)
    have filled : Text.trim (written ++ gap) ≠ [] := by
      intro empty
      have all := (Text.trim_eq_nil_iff _).mp empty
      exact derived.not_blank fun c member => all c (List.mem_append_left gap member)
    simp [read, filled, one, left, (Text.trim_eq_nil_iff gap).mpr blank]

end Policy

end SpendPolicy
