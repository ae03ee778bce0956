import Mathlib.Data.Bool.AllAny
import Mathlib.Data.List.Basic
import SpendPolicy.Key.Classification
import SpendPolicy.Proofs.Key.Wif
import SpendPolicy.Proofs.Text.Trimming

set_option autoImplicit false

namespace SpendPolicy

open Text (Blank)

def delimiters : List Char :=
  ['(', ')', ',']

def Solid (s : Text) : Prop :=
  ∀ c ∈ s, isBlank c = false ∧ c ∉ delimiters

instance (s : Text) : Decidable (Solid s) :=
  decidable_of_iff (s.all fun c => isBlank c = false ∧ c ∉ delimiters) List.all_iff_forall_prop

theorem Solid.append {s t : Text} (left : Solid s) (right : Solid t) : Solid (s ++ t) := by
  intro c member
  rcases List.mem_append.mp member with inside | inside
  · exact left c inside
  · exact right c inside

theorem Solid.trimRight {s : Text} (solid : Solid s) : s.trimRight = s := by
  obtain ⟨gap, blank, split⟩ := Text.exists_gap_trimRight s
  have empty : gap = [] := by
    apply List.eq_nil_iff_forall_not_mem.mpr
    intro c member
    have visible := (solid c (by rw [split]; exact List.mem_append_right _ member)).1
    simp [blank c member] at visible
  rw [empty, List.append_nil] at split
  exact split.symm

theorem solid_of_test (test : Char → Bool) (foreign : ∀ c ∈ delimiters, test c = false)
    (blanks : ∀ n ∈ Text.blankCodes, test (Char.ofNat n) = false) {c : Char}
    (passes : test c = true) : isBlank c = false ∧ c ∉ delimiters := by
  constructor
  · cases blank : isBlank c with
    | false => rfl
    | true =>
      have fails := Text.forall_blank (p := fun c => test c = false) blanks blank
      simp [passes] at fails
  · intro delimiter
    simp [foreign c delimiter] at passes

theorem solid_hexDigit {c : Char} (digit : Hex.isDigit c = true) : isBlank c = false ∧ c ∉ delimiters :=
  solid_of_test Hex.isDigit (List.all_iff_forall_prop.mp (by decide)) (by decide) digit

theorem Text.mem_of_parts (mark : Char) {c : Char} {s : Text} (member : c ∈ s) :
    c = mark ∨ ∃ part ∈ parts mark s, c ∈ part := by
  induction s with
  | nil => simp at member
  | cons d s ih =>
    unfold parts
    rcases List.mem_cons.mp member with rfl | later
    · split
      · next same => exact .inl same
      · split <;> simp
    · rcases ih later with same | ⟨part, inParts, inside⟩
      · exact .inl same
      · refine .inr ?_
        split
        · exact ⟨part, by simp [inParts], inside⟩
        · split
          · next none => simp [none] at inParts
          · next first rest found =>
            rw [found] at inParts
            rcases List.mem_cons.mp inParts with rfl | other
            · exact ⟨d :: part, by simp, by simp [inside]⟩
            · exact ⟨part, by simp [other], inside⟩

namespace Base58

theorem mem_of_decodeCheck {s : Text} {payload : Bytes} (reads : decodeCheck s = .ok payload) :
    ∀ c ∈ s, c ∈ alphabet := by
  unfold decodeCheck decode at reads
  rcases digits : digitValues s with fault | values
  · simp [digits, bind, Except.bind] at reads
  · exact mem_of_digitValues digits

theorem solid_of_alphabet {s : Text} (letters : ∀ c ∈ s, c ∈ alphabet) : Solid s :=
  fun c member =>
    solid_of_test alphabet.contains (List.all_iff_forall_prop.mp (by decide)) (by decide)
      (by simp [letters c member])

end Base58

namespace KeyExpression

def isInner (c : Char) : Bool :=
  isAsciiDigit c || Hex.isDigit c || hardenedMarks.contains c || ['<', ';', '>', '*', '/'].contains c

def Inner (s : Text) : Prop :=
  ∀ c ∈ s, isInner c = true

theorem Inner.solid {s : Text} (inner : Inner s) : Solid s :=
  fun c member =>
    solid_of_test isInner (List.all_iff_forall_prop.mp (by decide)) (by decide) (inner c member)

theorem inner_of_parts (mark : Char) {s : Text} (inner : isInner mark = true)
    (each : ∀ part ∈ Text.parts mark s, Inner part) : Inner s := by
  intro c member
  rcases Text.mem_of_parts mark member with rfl | ⟨part, inParts, inside⟩
  · exact inner
  · exact each part inParts c inside

theorem inner_of_dropLast {s : Text} {last : Char} (inner : isInner last = true)
    (ends : s.getLast? = some last) (others : Inner s.dropLast) : Inner s := by
  rw [← List.dropLast_append_getLast? last ends]
  exact List.forall_mem_append.mpr ⟨others, List.forall_mem_singleton.mpr inner⟩

theorem inner_number {s : Text} (number : isNumber s = true) : Inner s := by
  simp only [isNumber, Bool.and_eq_true, List.all_eq_true] at number
  intro c member
  simp [isInner, number.2 c member]

theorem inner_step {s : Text} (step : isStep s = true) : Inner s := by
  unfold isStep at step
  rcases Bool.or_eq_true_iff.mp step with number | marked
  · exact inner_number number
  · split at marked
    · next mark ends =>
      obtain ⟨hardened, number⟩ := Bool.and_eq_true_iff.mp marked
      exact inner_of_dropLast (by simp only [isInner, hardened, Bool.or_true, Bool.true_or]) ends
        (inner_number number)
    · simp at marked

theorem inner_choice {s : Text} (choice : isChoice s = true) : Inner s := by
  unfold isChoice at choice
  split at choice
  · next content =>
    obtain ⟨ends, numbers⟩ := Bool.and_eq_true_iff.mp choice
    have both : Inner content.dropLast := by
      split at numbers
      · next first second found =>
        obtain ⟨left, right⟩ := Bool.and_eq_true_iff.mp numbers
        apply inner_of_parts ';' (by decide)
        rw [found]
        simp [inner_number left, inner_number right]
      · simp at numbers
    exact List.forall_mem_cons.mpr
      ⟨by decide, inner_of_dropLast (by decide) (beq_iff_eq.mp ends) both⟩
  · simp at choice

theorem inner_wildcard {s : Text} (wildcard : isWildcard s = true) : Inner s := by
  have listed : s ∈ [['*'], ['*', '*'], ['*', '\''], ['*', 'h'], ['*', 'H']] := by
    simpa [isWildcard, hardenedMarks, or_assoc] using wildcard
  have all : [['*'], ['*', '*'], ['*', '\''], ['*', 'h'], ['*', 'H']].all (·.all isInner) = true := by
    decide
  exact List.all_eq_true.mp (List.all_eq_true.mp all s listed)

theorem inner_components {components : List Text} (fit : areComponents components = true) :
    ∀ component ∈ components, Inner component := by
  fun_induction areComponents components with
  | case1 => simp
  | case2 last =>
    simp only [Bool.or_eq_true, or_assoc] at fit
    intro component member
    rw [List.mem_singleton.mp member]
    rcases fit with step | choice | wildcard
    · exact inner_step step
    · exact inner_choice choice
    · exact inner_wildcard wildcard
  | case3 component rest more ih =>
    simp only [Bool.and_eq_true, Bool.or_eq_true] at fit
    intro other member
    rcases List.mem_cons.mp member with rfl | later
    · rcases fit.1 with step | choice
      · exact inner_step step
      · exact inner_choice choice
    · exact ih fit.2 other later

theorem inner_derivation {s : Text} (derivation : isDerivation s = true) : Inner (dropLineEnd s) := by
  unfold isDerivation at derivation
  split at derivation
  · next components found =>
    apply inner_of_parts '/' (by decide)
    rw [found]
    intro part member
    rcases List.mem_cons.mp member with rfl | later
    · simp [Inner]
    · exact inner_components derivation part later
  · simp at derivation

theorem exists_inner_of_origin {s : Text} (origin : isOrigin s = true) :
    ∃ content, Inner content ∧ s = '[' :: content ++ [']'] := by
  unfold isOrigin at origin
  split at origin
  · next content =>
    obtain ⟨ends, fits⟩ := Bool.and_eq_true_iff.mp origin
    refine ⟨content.dropLast, ?_, ?_⟩
    · split at fits
      · next fingerprint steps found =>
        simp only [Bool.and_eq_true, List.all_eq_true] at fits
        apply inner_of_parts '/' (by decide)
        rw [found]
        intro part member
        rcases List.mem_cons.mp member with rfl | later
        · intro c inside
          simp [isInner, fits.1.2 c inside]
        · exact inner_step (fits.2 part later)
      · simp at fits
    · rw [List.cons_append, List.dropLast_append_getLast? ']' (beq_iff_eq.mp ends)]
  · simp at origin

theorem solid_origin {s : Text} (origin : isOrigin s = true) : Solid s := by
  obtain ⟨content, inner, rfl⟩ := exists_inner_of_origin origin
  exact Solid.append (Solid.append (s := ['[']) (by decide) inner.solid) (by decide)

theorem solid_derivation {s : Text} (derivation : isDerivation s = true) : Solid (dropLineEnd s) :=
  (inner_derivation derivation).solid

theorem exists_lineEnd (s : Text) : ∃ gap, Blank gap ∧ s = dropLineEnd s ++ gap := by
  unfold dropLineEnd
  split
  · next ends =>
    exact ⟨['\n'], by decide, (List.dropLast_append_getLast? _ ends).symm⟩
  · exact ⟨[], Text.blank_nil, (List.append_nil s).symm⟩

theorem dropLineEnd_of_solid {s : Text} (solid : Solid s) : dropLineEnd s = s := by
  unfold dropLineEnd
  split
  · next ends =>
    have visible := (solid '\n' (List.mem_of_getLast? ends)).1
    exact absurd visible (by decide)
  · rfl

def text (e : KeyExpression) : Text :=
  e.origin.getD [] ++ (e.key ++ e.path.getD [])

structure IsCut (e : KeyExpression) : Prop where
  origin : ∀ o ∈ e.origin, ∃ inner, o = inner ++ [']'] ∧ ']' ∉ inner
  noOrigin : e.origin = none → ']' ∉ e.key ++ e.path.getD []
  key : '/' ∉ e.key
  path : ∀ p ∈ e.path, ∃ tail, p = '/' :: tail

theorem cut?_eq_none {mark : Char} {s : Text} (absent : mark ∉ s) : Text.cut? mark s = none := by
  rcases found : Text.cut? mark s with _ | ⟨before, after⟩
  · rfl
  · have whole := (Text.cut?_eq_some_iff.mp found).1
    exact absurd (show mark ∈ s by simp [whole]) absent

theorem split_text {e : KeyExpression} (cut : e.IsCut) : split e.text = e := by
  obtain ⟨origin, key, path⟩ := e
  -- The slash is sought in what stands after the origin, whether there is one or not.
  have slash : Text.cut? '/' (key ++ path.getD []) = path.map fun p => (key, p.tail) := by
    cases path with
    | none => simp [cut?_eq_none cut.key]
    | some path =>
      obtain ⟨tail, rfl⟩ := cut.path path rfl
      exact Text.cut?_append cut.key tail
  unfold split text
  cases origin with
  | none =>
    simp only [Option.getD_none, List.nil_append, cut?_eq_none (cut.noOrigin rfl), slash]
    cases path with
    | none => simp
    | some path =>
      obtain ⟨tail, rfl⟩ := cut.path path rfl
      rfl
  | some origin =>
    obtain ⟨inner, rfl, absent⟩ := cut.origin origin rfl
    have found := Text.cut?_append absent (key ++ path.getD [])
    simp only [Option.getD_some, List.append_assoc, List.singleton_append, found, slash]
    cases path with
    | none => simp
    | some path =>
      obtain ⟨tail, rfl⟩ := cut.path path rfl
      rfl

theorem exists_key (s : Text) :
    ∃ (key : Text) (path : Option Text), s = key ++ path.getD [] ∧ '/' ∉ key ∧
      ∀ p ∈ path, ∃ tail, p = '/' :: tail := by
  by_cases slash : '/' ∈ s
  · obtain ⟨key, tail, whole, absent⟩ := List.eq_append_cons_of_mem slash
    exact ⟨key, some ('/' :: tail), whole, absent, by simp⟩
  · exact ⟨s, none, by simp, slash, by simp⟩

theorem exists_cut (s : Text) : ∃ e : KeyExpression, e.IsCut ∧ e.text = s := by
  by_cases bracket : ']' ∈ s
  · obtain ⟨inner, rest, whole, absent⟩ := List.eq_append_cons_of_mem bracket
    obtain ⟨key, path, parted, noSlash, slashed⟩ := exists_key rest
    have origin : ∀ o ∈ some (inner ++ [']']), ∃ before, o = before ++ [']'] ∧ ']' ∉ before := by
      rintro _ ⟨⟩
      exact ⟨inner, rfl, absent⟩
    exact ⟨⟨some (inner ++ [']']), key, path⟩, ⟨origin, by simp, noSlash, slashed⟩,
      by simp [text, whole, parted]⟩
  · obtain ⟨key, path, parted, noSlash, slashed⟩ := exists_key s
    exact ⟨⟨none, key, path⟩, ⟨by simp, fun _ => parted ▸ bracket, noSlash, slashed⟩,
      by simp [text, parted]⟩

def trimmed (e : KeyExpression) : KeyExpression :=
  match e.path with
  | none => { e with key := e.key.trimRight }
  | some path => { e with path := some (dropLineEnd path) }

theorem text_trimmed (e : KeyExpression) :
    ∃ gap, Blank gap ∧ e.text = e.trimmed.text ++ gap := by
  obtain ⟨origin, key, path⟩ := e
  cases path with
  | none =>
    obtain ⟨gap, blank, split⟩ := Text.exists_gap_trimRight key
    exact ⟨gap, blank, by simp [trimmed, text, ← split]⟩
  | some path =>
    obtain ⟨gap, blank, split⟩ := exists_lineEnd path
    exact ⟨gap, blank, by simp [trimmed, text, ← split]⟩

theorem dropLineEnd_slash (s : Text) : ∃ tail, dropLineEnd ('/' :: s) = '/' :: tail := by
  unfold dropLineEnd
  split
  · next ends =>
    cases s with
    | nil => simp at ends
    | cons c s => exact ⟨_, List.dropLast_cons_cons⟩
  · exact ⟨s, rfl⟩

theorem IsCut.trimmed {e : KeyExpression} (cut : e.IsCut) : e.trimmed.IsCut := by
  obtain ⟨origin, key, path⟩ := e
  cases path with
  | none =>
    obtain ⟨gap, _, split⟩ := Text.exists_gap_trimRight key
    have inside : ∀ c ∈ key.trimRight, c ∈ key := by
      intro c member
      rw [split]
      exact List.mem_append_left gap member
    have noOrigin : origin = none → ']' ∉ key.trimRight ++ [] := by
      intro none member
      apply cut.noOrigin none
      change ']' ∈ key ++ []
      simpa using inside _ (by simpa using member)
    exact ⟨cut.origin, noOrigin, fun member => cut.key (inside _ member), cut.path⟩
  | some path =>
    obtain ⟨gap, _, split⟩ := exists_lineEnd path
    have noOrigin : origin = none → ']' ∉ key ++ dropLineEnd path := by
      intro none member
      apply cut.noOrigin none
      change ']' ∈ key ++ path
      rw [split, ← List.append_assoc]
      exact List.mem_append_left gap member
    refine ⟨cut.origin, noOrigin, cut.key, ?_⟩
    rintro _ ⟨⟩
    obtain ⟨tail, rfl⟩ := cut.path path rfl
    exact dropLineEnd_slash tail

end KeyExpression

namespace ExtendedKey

def marks : List (Text × KeyKind × Network) :=
  [(['x', 'p', 'r', 'v'], .priv, .main), (['t', 'p', 'r', 'v'], .priv, .test),
    (['x', 'p', 'u', 'b'], .pub, .main), (['t', 'p', 'u', 'b'], .pub, .test)]

theorem ofText?_eq_supported_iff {mark : Text} {kind : KeyKind} {network : Network} :
    Mark.ofText? mark = some (.supported kind network) ↔ (mark, kind, network) ∈ marks := by
  constructor
  · intro supported
    unfold Mark.ofText? at supported
    split at supported
    all_goals cases supported
    all_goals simp [marks]
  · intro listed
    simp only [marks, List.mem_cons, List.not_mem_nil, or_false, Prod.mk.injEq] at listed
    rcases listed with ⟨rfl, rfl, rfl⟩ | ⟨rfl, rfl, rfl⟩ | ⟨rfl, rfl, rfl⟩ | ⟨rfl, rfl, rfl⟩ <;> rfl

theorem foreign_of_supported {mark : Text} {kind : KeyKind} {network : Network}
    (supported : Mark.ofText? mark = some (.supported kind network)) :
    ∃ c ∈ mark, Hex.isDigit c = false := by
  have each : ∀ entry ∈ marks, entry.1.any fun c => Hex.isDigit c = false :=
    List.all_iff_forall_prop.mp (by decide)
  exact List.any_iff_exists_prop.mp (each _ (ofText?_eq_supported_iff.mp supported))

theorem solid_of_supported {mark : Text} {kind : KeyKind} {network : Network}
    (supported : Mark.ofText? mark = some (.supported kind network)) : Solid mark := by
  have each : ∀ entry ∈ marks, Solid entry.1 := List.all_iff_forall_prop.mp (by decide)
  exact each _ (ofText?_eq_supported_iff.mp supported)

theorem version_of_ofBytes? {bytes : Bytes} {key : ExtendedKey} (read : ofBytes? bytes = some key) :
    bytes.length = 78 ∧ key.version = bytes.take 4 := by
  unfold ofBytes? at read
  split at read
  · split at read
    · next size =>
      cases read
      exact ⟨size, rfl⟩
    · cases read
  · cases read

theorem known_of_fault? {kind : KeyKind} {key : ExtendedKey} (sound : fault? kind key = none) :
    isKnownVersion key.version = true := by
  cases known : isKnownVersion key.version with
  | true => rfl
  | false => simp [fault?, known] at sound

theorem version_of_ofPayload {kind : KeyKind} {payload : Bytes} {key : ExtendedKey}
    (decodes : ofPayload kind payload = .ok key) :
    payload.length = 78 ∧ isKnownVersion (payload.take 4) = true := by
  unfold ofPayload at decodes
  split at decodes
  · cases decodes
  · next read =>
    obtain ⟨size, version⟩ := version_of_ofBytes? read
    split at decodes
    · cases decodes
    · split at decodes
      · cases decodes
      · next sound =>
        cases decodes
        exact ⟨size, version ▸ known_of_fault? sound⟩

theorem exists_payload_of_decode {kind : KeyKind} {s : Text} {key : ExtendedKey}
    (decodes : decode kind s = .ok key) :
    ∃ payload, Base58.decodeCheck s.trimRight = .ok payload ∧ payload.length = 78 ∧
      isKnownVersion (payload.take 4) = true := by
  unfold decode at decodes
  split at decodes
  · cases decodes
  · split at decodes
    · next payload opened => exact ⟨payload, opened, version_of_ofPayload decodes⟩
    · cases decodes
    · cases decodes

structure Accepts (e : KeyExpression) (kind : KeyKind) (network : Network) : Prop where
  mark : Mark.ofText? (e.key.take 4) = some (.supported kind network)
  origin : ∀ o ∈ e.origin, KeyExpression.isOrigin o = true
  path : ∀ p ∈ e.path, KeyExpression.isDerivation p = true
  decodes : ∃ key, decode kind e.key = .ok key

theorem classifyMarked_eq_ok_iff {e : KeyExpression} (cut : e.IsCut) {kind : KeyKind}
    {network : Network} {form : KeyForm} (mark : Mark.ofText? (e.key.take 4) =
      some (.supported kind network)) :
    classifyMarked kind network e.text = .ok form ↔
      form = .extended kind network ∧ Accepts e kind network := by
  have origin : e.origin.filter (!KeyExpression.isOrigin ·) = none ↔
      ∀ o ∈ e.origin, KeyExpression.isOrigin o = true := by
    simp [Option.filter_eq_none_iff]
  have path : e.path.filter (!KeyExpression.isDerivation ·) = none ↔
      ∀ p ∈ e.path, KeyExpression.isDerivation p = true := by
    simp [Option.filter_eq_none_iff]
  unfold classifyMarked
  simp only [KeyExpression.split_text cut]
  constructor
  · intro accepted
    split at accepted
    · cases accepted
    · cases accepted
    · next noOrigin noPath =>
      split at accepted
      · next key decodes =>
        cases accepted
        exact ⟨rfl, mark, origin.mp noOrigin, path.mp noPath, key, decodes⟩
      · cases accepted
  · rintro ⟨rfl, accepts⟩
    obtain ⟨key, decodes⟩ := accepts.decodes
    simp [origin.mpr accepts.origin, path.mpr accepts.path, decodes]

theorem classify?_eq_ok_iff {e : KeyExpression} (cut : e.IsCut) {form : KeyForm} :
    classify? e.text = some (.ok form) ↔
      ∃ kind network, form = .extended kind network ∧ Accepts e kind network := by
  unfold classify?
  simp only [KeyExpression.split_text cut]
  split
  · next unknown =>
    constructor
    · intro accepted
      cases accepted
    · rintro ⟨kind, network, _, accepts⟩
      simp [accepts.mark] at unknown
  · next unsupported =>
    constructor
    · intro accepted
      cases accepted
    · rintro ⟨kind, network, _, accepts⟩
      simp [accepts.mark] at unsupported
  · next kind network supported =>
    rw [Option.some.injEq, classifyMarked_eq_ok_iff cut supported]
    constructor
    · rintro ⟨same, accepts⟩
      exact ⟨kind, network, same, accepts⟩
    · rintro ⟨other, net, same, accepts⟩
      have marks := accepts.mark
      rw [supported, Option.some.injEq, Mark.supported.injEq] at marks
      obtain ⟨rfl, rfl⟩ := marks
      exact ⟨same, accepts⟩

theorem exists_letter_of_mark {text : Text} {mark : Mark} (known : Mark.ofText? text = some mark) :
    ∃ c rest, text = c :: 'p' :: rest ∧ c ∈ ['x', 't', 'y', 'z', 'v'] := by
  unfold Mark.ofText? at known
  split at known
  all_goals first
    | exact ⟨_, _, rfl, by decide⟩
    | cases known

theorem exists_key_of_classify? {s : Text} {answer : KeyClassification} (answered : classify? s = some answer) :
    ∃ e : KeyExpression, e.IsCut ∧ e.text = s ∧
      ∃ c rest, e.key = c :: 'p' :: rest ∧ c ∈ ['x', 't', 'y', 'z', 'v'] := by
  obtain ⟨e, cut, rfl⟩ := KeyExpression.exists_cut s
  refine ⟨e, cut, rfl, ?_⟩
  simp only [classify?, KeyExpression.split_text cut] at answered
  cases known : Mark.ofText? (e.key.take 4) with
  | none =>
    rw [known] at answered
    cases answered
  | some mark =>
    obtain ⟨c, rest, begins, letter⟩ := exists_letter_of_mark known
    refine ⟨c, rest ++ e.key.drop 4, ?_, letter⟩
    conv_lhs => rw [← List.take_append_drop 4 e.key, begins]
    rfl

theorem exists_large_digit {c : Char} (letter : c ∈ ['x', 't', 'y', 'z', 'v']) :
    ∃ digit, Base58.digitValue c = .ok digit ∧ 43 ≤ digit := by
  simp only [List.mem_cons, List.not_mem_nil, or_false] at letter
  rcases letter with rfl | rfl | rfl | rfl | rfl
  · exact ⟨55, rfl, by decide⟩
  · exact ⟨51, rfl, by decide⟩
  · exact ⟨56, rfl, by decide⟩
  · exact ⟨57, rfl, by decide⟩
  · exact ⟨53, rfl, by decide⟩

theorem network?_apart_classify? (s : Text) : Wif.network? s = none ∨ classify? s = none := by
  cases wif : Wif.network? s with
  | none => exact .inl rfl
  | some network =>
    refine .inr (Option.eq_none_iff_forall_ne_some.mpr fun answer answered => ?_)
    obtain ⟨_, _, _, _, _, opened⟩ := (Wif.network?_eq_some_iff.mp wif).exists_payload
    have letters := Base58.mem_of_decodeCheck opened
    obtain ⟨e, cut, rfl, c, rest, begins, letter⟩ := exists_key_of_classify? answered
    have alone : e.origin = none := by
      match found : e.origin with
      | none => rfl
      | some o =>
        obtain ⟨inner, rfl, _⟩ := cut.origin o found
        exact absurd (letters ']' (by simp [KeyExpression.text, found])) (by decide)
    obtain ⟨digit, first, large⟩ := exists_large_digit letter
    have none := Wif.network?_of_digit first large ('p' :: rest ++ e.path.getD [])
    rw [KeyExpression.text, alone, begins] at wif
    cases none.symm.trans wif

theorem take_append_blank {s gap mark : Text} {n : Nat} (blank : Blank gap) (solid : Solid mark)
    (begins : (s ++ gap).take n = mark) : s.take n = mark := by
  rw [List.take_append] at begins
  have rest : gap.take (n - s.length) = [] := by
    apply List.eq_nil_iff_forall_not_mem.mpr
    intro c member
    have visible := (solid c (by rw [← begins]; exact List.mem_append_right _ member)).1
    simp [blank c (List.mem_of_mem_take member)] at visible
  rwa [rest, List.append_nil] at begins

theorem Accepts.take_trimRight {e : KeyExpression} {kind : KeyKind} {network : Network}
    (accepts : Accepts e kind network) : e.key.trimRight.take 4 = e.key.take 4 := by
  obtain ⟨gap, blank, split⟩ := Text.exists_gap_trimRight e.key
  apply take_append_blank blank (solid_of_supported accepts.mark)
  rw [← split]

theorem Accepts.trimmed {e : KeyExpression} {kind : KeyKind} {network : Network}
    (accepts : Accepts e kind network) : Accepts e.trimmed kind network := by
  obtain ⟨origin, key, path⟩ := e
  cases path with
  | none =>
    obtain ⟨decoded, decodes⟩ := accepts.decodes
    have again : decode kind key.trimRight = decode kind key := by
      simp only [decode, Text.trimRight_trimRight]
    exact ⟨(congrArg Mark.ofText? accepts.take_trimRight).trans accepts.mark, accepts.origin, accepts.path, decoded,
      again.trans decodes⟩
  | some path =>
    have derivation := accepts.path path rfl
    refine ⟨accepts.mark, accepts.origin, ?_, accepts.decodes⟩
    rintro _ ⟨⟩
    unfold KeyExpression.isDerivation
    rw [KeyExpression.dropLineEnd_of_solid (KeyExpression.solid_derivation derivation)]
    exact derivation

section Accepted

variable {e : KeyExpression} {kind : KeyKind} {network : Network}

theorem Accepts.solid_key (accepts : Accepts e kind network) : Solid e.key.trimRight := by
  obtain ⟨key, decodes⟩ := accepts.decodes
  obtain ⟨payload, opened, _⟩ := exists_payload_of_decode decodes
  exact Base58.solid_of_alphabet (Base58.mem_of_decodeCheck opened)

theorem Accepts.notMem (accepts : Accepts e kind network) {d : Char} (delimiter : d ∈ delimiters) :
    d ∉ e.text := by
  have each : ∀ c ∈ delimiters, isBlank c = false := List.all_iff_forall_prop.mp (by decide)
  have visible := each d delimiter
  have outside {s : Text} (solid : Solid s) : d ∉ s := fun member => (solid d member).2 delimiter
  have key : d ∉ e.key := by
    obtain ⟨gap, blank, split⟩ := Text.exists_gap_trimRight e.key
    rw [split, List.mem_append, not_or]
    exact ⟨outside accepts.solid_key, blank.notMem visible⟩
  have origin : d ∉ e.origin.getD [] := by
    match found : e.origin with
    | none => simp
    | some o => exact outside (KeyExpression.solid_origin (accepts.origin o found))
  have path : d ∉ e.path.getD [] := by
    match found : e.path with
    | none => simp
    | some p =>
      obtain ⟨gap, blank, split⟩ := KeyExpression.exists_lineEnd p
      rw [Option.getD_some, split, List.mem_append, not_or]
      exact ⟨outside (KeyExpression.solid_derivation (accepts.path p found)), blank.notMem visible⟩
  simp [KeyExpression.text, key, origin, path]

theorem Accepts.foreign (accepts : Accepts e kind network) :
    ∃ c ∈ e.text, Hex.isDigit c = false := by
  obtain ⟨c, member, foreign⟩ := foreign_of_supported accepts.mark
  have inKey := List.mem_of_mem_take member
  exact ⟨c, by simp [KeyExpression.text, inKey], foreign⟩

theorem Accepts.head_visible (accepts : Accepts e kind network) :
    ∀ c ∈ e.text.head?, isBlank c = false := by
  intro c first
  unfold KeyExpression.text at first
  match found : e.origin with
  | some (d :: o) =>
    have solid := KeyExpression.solid_origin (accepts.origin _ found)
    rw [found] at first
    cases first
    exact (solid c (by simp)).1
  | some [] => exact absurd (accepts.origin _ found) (by decide)
  | none =>
    have solid := solid_of_supported accepts.mark
    obtain ⟨mark, member, _⟩ := foreign_of_supported accepts.mark
    match key : e.key with
    | [] => simp [key] at member
    | d :: rest =>
      rw [found, key] at first
      cases first
      exact (solid c (by simp [key])).1

theorem getLast?_append_solid {s t : Text} (solid : Solid t) (filled : t ≠ []) :
    ∀ c ∈ (s ++ t).getLast?, isBlank c = false := by
  intro c last
  rw [List.getLast?_append_of_ne_nil s filled] at last
  exact (solid c (List.mem_of_getLast? last)).1

theorem Accepts.last_visible (accepts : Accepts e kind network) (cut : e.IsCut) :
    ∀ c ∈ e.trimmed.text.getLast?, isBlank c = false := by
  obtain ⟨origin, key, path⟩ := e
  cases path with
  | none =>
    have filled : key.trimRight ≠ [] := by
      intro empty
      obtain ⟨c, member, _⟩ := foreign_of_supported accepts.trimmed.mark
      change c ∈ key.trimRight.take 4 at member
      simp [empty] at member
    have ends := getLast?_append_solid (s := origin.getD []) accepts.solid_key filled
    simpa [KeyExpression.text, KeyExpression.trimmed] using ends
  | some path =>
    have solid := KeyExpression.solid_derivation (accepts.path path rfl)
    have filled : KeyExpression.dropLineEnd path ≠ [] := by
      obtain ⟨tail, rfl⟩ := cut.path path rfl
      obtain ⟨rest, kept⟩ := KeyExpression.dropLineEnd_slash tail
      simp [kept]
    rw [KeyExpression.text, ← List.append_assoc]
    exact getLast?_append_solid solid filled

theorem Accepts.trim_trimmed (accepts : Accepts e kind network) (cut : e.IsCut) :
    e.trimmed.text.trim = e.trimmed.text :=
  Text.trim_eq_of_ends accepts.trimmed.head_visible (accepts.last_visible cut)

theorem Accepts.not_wif (accepts : Accepts e kind network) (cut : e.IsCut) :
    Wif.network? e.text = none := by
  have answered := (classify?_eq_ok_iff cut).mpr ⟨kind, network, rfl, accepts⟩
  exact (network?_apart_classify? e.text).resolve_right (by rw [answered]; nofun)

end Accepted

end ExtendedKey

namespace Key

theorem not_compressed {s : Text} (foreign : ∃ c ∈ s, Hex.isDigit c = false) :
    isCompressed s = false ∧ isUncompressed s = false := by
  have notHex : Hex.isHex s = false := by
    obtain ⟨c, member, other⟩ := foreign
    have notAll : s.all Hex.isDigit = false := List.all_eq_false.mpr ⟨c, member, by simp [other]⟩
    simp [Hex.isHex, notAll]
  simp [isCompressed, isUncompressed, notHex]

theorem accepted_cases {s : Text} {form : KeyForm} (accepted : classify s = .ok form) :
    Solid s ∧ s ≠ [] ∨ ExtendedKey.classify? s = some (.ok form) := by
  unfold classify at accepted
  split at accepted
  · next compressed =>
    simp only [isCompressed, Hex.isHex, Bool.and_eq_true, List.all_eq_true, Bool.not_eq_true',
      List.isEmpty_eq_false_iff] at compressed
    exact .inl ⟨fun c member => solid_hexDigit (compressed.1.1.2 c member), compressed.1.1.1⟩
  · split at accepted
    · cases accepted
    · split at accepted
      · next network wif =>
        obtain ⟨version, secret, _, _, _, opened⟩ := (Wif.network?_eq_some_iff.mp wif).exists_payload
        refine .inl ⟨Base58.solid_of_alphabet (Base58.mem_of_decodeCheck opened), ?_⟩
        rintro rfl
        simp [Wif.network?] at wif
      · next notWif =>
        rcases found : ExtendedKey.classify? s with _ | answer
        · simp [found] at accepted
        · rw [found, Option.getD_some] at accepted
          exact .inr (by rw [accepted])

theorem isKey_iff {s : Text} : isKey s = true ↔ ∃ form, classify s = .ok form := by
  rw [isKey, KeyClassification.accepted]
  cases classify s <;> simp [Except.isOk, Except.toBool]

theorem classify_trim {s : Text} {form : KeyForm} (accepted : classify s = .ok form) :
    s.trim ≠ [] ∧ (∀ d ∈ delimiters, d ∉ s) ∧ classify s.trim = .ok form := by
  rcases accepted_cases accepted with ⟨solid, filled⟩ | extended
  · rw [Text.trim_eq_of_visible fun c member => (solid c member).1]
    exact ⟨filled, fun d delimiter member => (solid d member).2 delimiter, accepted⟩
  · obtain ⟨e, cut, rfl⟩ := KeyExpression.exists_cut s
    obtain ⟨kind, network, rfl, accepts⟩ := (ExtendedKey.classify?_eq_ok_iff cut).mp extended
    obtain ⟨gap, blank, split⟩ := e.text_trimmed
    have core : e.text.trim = e.trimmed.text := by
      have gaps := Text.trim_gaps Text.blank_nil blank e.trimmed.text
      rw [List.nil_append, ← split] at gaps
      rw [gaps, accepts.trim_trimmed cut]
    have again := (ExtendedKey.classify?_eq_ok_iff cut.trimmed).mpr
      ⟨kind, network, rfl, accepts.trimmed⟩
    rw [core]
    refine ⟨?_, fun _ => accepts.notMem, ?_⟩
    · obtain ⟨c, member, _⟩ := accepts.trimmed.foreign
      exact List.ne_nil_of_mem member
    · obtain ⟨notCompressed, notUncompressed⟩ := not_compressed accepts.trimmed.foreign
      simp [classify, notCompressed, notUncompressed, accepts.trimmed.not_wif cut.trimmed, again]

end Key

end SpendPolicy
