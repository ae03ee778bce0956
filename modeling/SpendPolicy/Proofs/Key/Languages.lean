import Mathlib.Data.List.Perm.Basic
import SpendPolicy.Proofs.Key.Acceptance

set_option autoImplicit false

namespace SpendPolicy

open Text (Blank)

namespace ExtendedKey

def Writes (kind : KeyKind) (network : Network) (s : Text) : Prop :=
  ∃ (origin : Option Text) (key : Text) (path : Option Text),
    s = origin.getD [] ++ key ++ path.getD [] ∧
      (∀ o ∈ origin, KeyExpression.isOrigin o = true) ∧
      (∃ mark, (mark, kind, network) ∈ marks ∧ mark <+: key) ∧
      (∃ decoded, decode kind key = .ok decoded) ∧
      ∀ p ∈ path, KeyExpression.isDerivation p = true

theorem length_of_mem_marks {mark : Text} {kind : KeyKind} {network : Network}
    (listed : (mark, kind, network) ∈ marks) : mark.length = 4 := by
  have each : ∀ entry ∈ marks, entry.1.length = 4 := List.all_iff_forall_prop.mp (by decide)
  exact each _ listed

theorem notMem_of_decode {kind : KeyKind} {key : Text} {decoded : ExtendedKey}
    (decodes : decode kind key = .ok decoded) {c : Char} (visible : isBlank c = false)
    (foreign : c ∉ Base58.alphabet) : c ∉ key := by
  obtain ⟨payload, opened, _⟩ := exists_payload_of_decode decodes
  obtain ⟨gap, blank, split⟩ := Text.exists_gap_trimRight key
  rw [split, List.mem_append, not_or]
  exact ⟨fun member => foreign (Base58.mem_of_decodeCheck opened c member), blank.notMem visible⟩

end ExtendedKey

namespace KeyExpression

theorem slash_of_parts {mark : Char} {s : Text} {rest : List Text} (first : Text.parts mark s = [] :: rest) :
    s = [] ∨ ∃ tail, s = mark :: tail := by
  cases s with
  | nil => exact .inl rfl
  | cons c s =>
    unfold Text.parts at first
    split at first
    · next same => exact .inr ⟨s, by rw [same]⟩
    · split at first <;> cases first

theorem notMem_of_derivation {p : Text} (derivation : isDerivation p = true) : ']' ∉ p := by
  obtain ⟨gap, blank, split⟩ := exists_lineEnd p
  have inner := inner_derivation derivation
  rw [split, List.mem_append, not_or]
  exact ⟨fun member => absurd (inner _ member) (by decide), blank.notMem (by decide)⟩

theorem exists_content_of_origin {o : Text} (origin : isOrigin o = true) :
    ∃ content, o = content ++ [']'] ∧ ']' ∉ content := by
  obtain ⟨content, inner, rfl⟩ := exists_inner_of_origin origin
  refine ⟨'[' :: content, rfl, ?_⟩
  rw [List.mem_cons, not_or]
  exact ⟨by decide, fun member => absurd (inner _ member) (by decide)⟩

theorem exists_slashed {path : Option Text} (derivation : ∀ p ∈ path, isDerivation p = true) :
    ∃ (gap : Text) (slashed : Option Text), Blank gap ∧ path.getD [] = gap ++ slashed.getD [] ∧
      ∀ p ∈ slashed, isDerivation p = true ∧ ∃ tail, p = '/' :: tail := by
  match path with
  | none => exact ⟨[], none, Text.blank_nil, rfl, nofun⟩
  | some p =>
    have fits := derivation p rfl
    obtain ⟨gap, blank, split⟩ := exists_lineEnd p
    have begins : dropLineEnd p = [] ∨ ∃ tail, dropLineEnd p = '/' :: tail := by
      unfold isDerivation at fits
      split at fits
      · next first => exact slash_of_parts first
      · cases fits
    rcases begins with empty | ⟨tail, slash⟩
    · rw [empty, List.nil_append] at split
      exact ⟨gap, none, blank, by rw [Option.getD_some, split, Option.getD_none, List.append_nil], nofun⟩
    · refine ⟨[], some p, Text.blank_nil, rfl, ?_⟩
      rintro _ ⟨⟩
      exact ⟨fits, tail ++ gap, by rw [slash] at split; exact split⟩

end KeyExpression

namespace ExtendedKey

section Writes

variable {kind : KeyKind} {network : Network} {s : Text}

theorem Writes.exists_accepts (writes : Writes kind network s) :
    ∃ e : KeyExpression, e.IsCut ∧ e.text = s ∧ Accepts e kind network := by
  obtain ⟨origin, key, path, rfl, isOrigin, ⟨mark, listed, marked⟩, ⟨decoded, decodes⟩, isDerivation⟩ :=
    writes
  obtain ⟨gap, slashed, blank, whole, slash⟩ := KeyExpression.exists_slashed isDerivation
  have absent {c : Char} (visible : isBlank c = false) (foreign : c ∉ Base58.alphabet) : c ∉ key ++ gap := by
    rw [List.mem_append, not_or]
    exact ⟨notMem_of_decode decodes visible foreign, blank.notMem visible⟩
  refine ⟨⟨origin, key ++ gap, slashed⟩, ⟨?_, ?_, ?_, ?_⟩, ?_, ⟨?_, isOrigin, ?_, decoded, ?_⟩⟩
  · intro o member
    exact KeyExpression.exists_content_of_origin (isOrigin o member)
  · intro _
    rw [List.mem_append, not_or]
    refine ⟨absent (by decide) (by decide), ?_⟩
    match slashed with
    | none => simp
    | some p => exact KeyExpression.notMem_of_derivation (slash p rfl).1
  · exact absent (by decide) (by decide)
  · intro p member
    exact (slash p member).2
  · simp [KeyExpression.text, whole]
  · have begins : mark <+: key ++ gap := marked.trans (List.prefix_append key gap)
    rw [List.prefix_iff_eq_take, length_of_mem_marks listed] at begins
    rw [← begins]
    exact ofText?_eq_supported_iff.mpr listed
  · intro p member
    exact (slash p member).1
  · rw [decode, Text.trimRight_append_blank blank]
    exact decodes

theorem Accepts.writes {e : KeyExpression} (accepts : Accepts e kind network) :
    Writes kind network e.text :=
  ⟨e.origin, e.key, e.path, (List.append_assoc _ _ _).symm, accepts.origin,
    ⟨e.key.take 4, ofText?_eq_supported_iff.mp accepts.mark, List.take_prefix 4 e.key⟩,
    accepts.decodes, accepts.path⟩

theorem classify?_eq_ok_iff_writes {form : KeyForm} :
    classify? s = some (.ok form) ↔ ∃ kind network, form = .extended kind network ∧ Writes kind network s := by
  constructor
  · intro accepted
    obtain ⟨e, cut, rfl⟩ := KeyExpression.exists_cut s
    obtain ⟨kind, network, same, accepts⟩ := (classify?_eq_ok_iff cut).mp accepted
    exact ⟨kind, network, same, accepts.writes⟩
  · rintro ⟨kind, network, same, writes⟩
    obtain ⟨e, cut, rfl, accepts⟩ := writes.exists_accepts
    exact (classify?_eq_ok_iff cut).mpr ⟨kind, network, same, accepts⟩

end Writes

end ExtendedKey

namespace Key

def WritesCompressed (s : Text) : Prop :=
  s.length = 66 ∧ (∀ c ∈ s, Hex.isDigit c = true) ∧ (['0', '2'] <+: s ∨ ['0', '3'] <+: s)

def hexadecimal? (s : Text) : Option KeyClassification :=
  if isCompressed s then some (.ok .compressed)
  else if isUncompressed s then some (.error (.uncompressed s))
  else none

def wif? (s : Text) : Option KeyClassification :=
  (Wif.network? s).map fun network => .ok (.wif network)

def checks : List (Text → Option KeyClassification) :=
  [hexadecimal?, wif?, ExtendedKey.classify?]

def classifyBy (checks : List (Text → Option KeyClassification)) (s : Text) : KeyClassification :=
  (checks.findSome? fun check => check s).getD (.error (.invalid s))

theorem classify_eq_classifyBy (s : Text) : classify s = classifyBy checks s := by
  unfold classify classifyBy checks hexadecimal? wif?
  simp only [List.findSome?_cons, List.findSome?_nil]
  split
  · rfl
  · split
    · rfl
    · cases Wif.network? s with
      | some network => rfl
      | none => cases ExtendedKey.classify? s <;> rfl

section Answers

variable {s : Text} {form : KeyForm} {answer : KeyClassification}

theorem isCompressed_iff : isCompressed s = true ↔ WritesCompressed s := by
  simp only [isCompressed, Hex.isHex, WritesCompressed, List.prefix_iff_eq_take, Bool.and_eq_true,
    Bool.or_eq_true, beq_iff_eq, List.all_eq_true, Bool.not_eq_true', List.isEmpty_eq_false_iff]
  constructor
  · rintro ⟨⟨⟨_, digits⟩, size⟩, begins⟩
    exact ⟨size, digits, begins.imp Eq.symm Eq.symm⟩
  · rintro ⟨size, digits, begins⟩
    have filled : s ≠ [] := List.ne_nil_of_length_pos (by omega)
    exact ⟨⟨⟨filled, digits⟩, size⟩, begins.imp Eq.symm Eq.symm⟩

theorem hexadecimal?_eq_ok_iff :
    hexadecimal? s = some (.ok form) ↔ form = .compressed ∧ WritesCompressed s := by
  rw [← isCompressed_iff]
  unfold hexadecimal?
  constructor
  · intro answered
    split at answered
    · next compressed =>
      cases answered
      exact ⟨rfl, compressed⟩
    · split at answered <;> cases answered
  · rintro ⟨rfl, compressed⟩
    rw [if_pos compressed]

theorem wif?_eq_ok_iff : wif? s = some (.ok form) ↔ ∃ network, form = .wif network ∧ Wif.Writes network s := by
  simp only [wif?, Option.map_eq_some_iff, Except.ok.injEq, ← Wif.network?_eq_some_iff]
  exact ⟨fun ⟨network, found, same⟩ => ⟨network, same.symm, found⟩,
    fun ⟨network, same, found⟩ => ⟨network, found, same.symm⟩⟩

theorem digits_of_hexadecimal? (answered : hexadecimal? s = some answer) :
    (∀ c ∈ s, Hex.isDigit c = true) ∧ (s.length = 66 ∨ s.length = 130) := by
  unfold hexadecimal? at answered
  split at answered
  · next compressed =>
    obtain ⟨size, digits, _⟩ := isCompressed_iff.mp compressed
    exact ⟨digits, .inl size⟩
  · split at answered
    · next uncompressed =>
      simp only [isUncompressed, Hex.isHex, Bool.and_eq_true, beq_iff_eq, List.all_eq_true] at uncompressed
      exact ⟨uncompressed.1.1.2, .inr uncompressed.1.2⟩
    · cases answered

theorem writes_of_wif? (answered : wif? s = some answer) : ∃ network, Wif.Writes network s := by
  obtain ⟨network, found, _⟩ := Option.map_eq_some_iff.mp answered
  exact ⟨network, Wif.network?_eq_some_iff.mp found⟩

theorem hexadecimal?_apart_wif? (s : Text) : hexadecimal? s = none ∨ wif? s = none := by
  cases hex : hexadecimal? s with
  | none => exact .inl rfl
  | some answer =>
    refine .inr (Option.eq_none_iff_forall_ne_some.mpr fun other answered => ?_)
    obtain ⟨network, writes⟩ := writes_of_wif? answered
    have length := writes.length
    have digits := (digits_of_hexadecimal? hex).2
    omega

theorem hexadecimal?_apart_extended (s : Text) : hexadecimal? s = none ∨ ExtendedKey.classify? s = none := by
  cases hex : hexadecimal? s with
  | none => exact .inl rfl
  | some answer =>
    refine .inr (Option.eq_none_iff_forall_ne_some.mpr fun other answered => ?_)
    obtain ⟨e, _, rfl, c, rest, begins, _⟩ := ExtendedKey.exists_key_of_classify? answered
    have digit := (digits_of_hexadecimal? hex).1 'p' (by simp [KeyExpression.text, begins])
    exact absurd digit (by decide)

theorem wif?_apart_extended (s : Text) : wif? s = none ∨ ExtendedKey.classify? s = none := by
  rw [wif?, Option.map_eq_none_iff]
  exact ExtendedKey.network?_apart_classify? s

theorem checks_apart (s : Text) : checks.Pairwise fun check other => check s = none ∨ other s = none := by
  simp only [checks, List.pairwise_cons, List.mem_cons, List.not_mem_nil, or_false, forall_eq_or_imp,
    forall_eq, IsEmpty.forall_iff, implies_true, List.Pairwise.nil, and_true]
  exact ⟨⟨hexadecimal?_apart_wif? s, hexadecimal?_apart_extended s⟩, wif?_apart_extended s⟩

theorem findSome?_perm {α β : Type} {f : α → Option β} {xs ys : List α} (perm : xs.Perm ys)
    (apart : xs.Pairwise fun x y => f x = none ∨ f y = none) : xs.findSome? f = ys.findSome? f := by
  induction perm with
  | nil => rfl
  | cons x _ ih => rw [List.findSome?_cons, List.findSome?_cons, ih (List.pairwise_cons.mp apart).2]
  | swap x y xs =>
    have either := (List.pairwise_cons.mp apart).1 x List.mem_cons_self
    simp only [List.findSome?_cons]
    rcases either with first | second
    · rw [first]
    · rw [second]
  | trans perm _ ihFirst ihSecond =>
    exact (ihFirst apart).trans (ihSecond ((perm.pairwise_iff fun either => either.symm).mp apart))

theorem classifyBy_perm {order : List (Text → Option KeyClassification)} (perm : order.Perm checks) (s : Text) :
    classifyBy order s = classify s := by
  rw [classify_eq_classifyBy, classifyBy, classifyBy, findSome?_perm perm.symm (checks_apart s)]

theorem classify_of_check {check : Text → Option KeyClassification} (listed : check ∈ checks)
    (answered : check s = some answer) : classify s = answer := by
  obtain ⟨before, after, split⟩ := List.append_of_mem listed
  have perm : (check :: (before ++ after)).Perm checks := by
    rw [split]
    exact List.perm_middle.symm
  rw [← classifyBy_perm perm, classifyBy, List.findSome?_cons, answered]
  rfl

end Answers

end Key

def KeyForm.Writes : KeyForm → Text → Prop
  | .compressed, s => Key.WritesCompressed s
  | .wif network, s => Wif.Writes network s
  | .extended kind network, s => ExtendedKey.Writes kind network s

namespace Key

variable {s : Text} {form : KeyForm}

theorem exists_check_iff : (∃ check ∈ checks, check s = some (.ok form)) ↔ form.Writes s := by
  simp only [checks, List.mem_cons, List.not_mem_nil, or_false, exists_eq_or_imp, exists_eq_left,
    hexadecimal?_eq_ok_iff, wif?_eq_ok_iff, ExtendedKey.classify?_eq_ok_iff_writes]
  cases form <;> simp [KeyForm.Writes]

theorem classify_eq_ok_iff : classify s = .ok form ↔ form.Writes s := by
  rw [← exists_check_iff]
  constructor
  · intro accepted
    rw [classify_eq_classifyBy, classifyBy] at accepted
    cases found : checks.findSome? fun check => check s with
    | none =>
      rw [found] at accepted
      cases accepted
    | some answer =>
      rw [found] at accepted
      cases accepted
      exact List.exists_of_findSome?_eq_some found
  · rintro ⟨check, listed, answered⟩
    exact classify_of_check listed answered

end Key

/-- A text is accepted in a form exactly if it is written for a key of that form, and it is a key exactly if there
is one such form. The order of the checks makes no difference, and the length that is asked of a private key turns
none away. -/
theorem accepted_keys (s : Text) :
    (∀ form, Key.classify s = .ok form ↔ form.Writes s) ∧
      (Key.isKey s = true ↔ ∃! form : KeyForm, form.Writes s) ∧
      (∀ order, order.Perm Key.checks → Key.classifyBy order s = Key.classify s) ∧
      ∀ network, Wif.Writes network s → s.length = 51 ∨ s.length = 52 := by
  refine ⟨fun form => Key.classify_eq_ok_iff, ?_, fun order perm => Key.classifyBy_perm perm s,
    fun network => Wif.Writes.length⟩
  rw [Key.isKey_iff]
  constructor
  · rintro ⟨form, accepted⟩
    refine ⟨form, Key.classify_eq_ok_iff.mp accepted, fun other writes => ?_⟩
    have again := Key.classify_eq_ok_iff.mpr writes
    rw [accepted] at again
    cases again
    rfl
  · rintro ⟨form, writes, _⟩
    exact ⟨form, Key.classify_eq_ok_iff.mpr writes⟩

theorem accepted_keys_private :
    let s := Base58.encodeCheck (0x80 :: List.replicate 32 0x01)
    Key.classifyBy Key.checks.reverse s = .ok (.wif .main) ∧ (∃! form : KeyForm, form.Writes s) ∧
      (s.length = 51 ∨ s.length = 52) := by
  intro s
  have writes : Wif.Writes .main s := ⟨0x80, List.replicate 32 0x01, List.mem_cons_self, rfl, .inl rfl⟩
  obtain ⟨forms, unique, anyOrder, length⟩ := accepted_keys s
  have accepted : Key.classify s = .ok (.wif .main) := (forms (.wif .main)).mpr writes
  refine ⟨(anyOrder _ (List.reverse_perm _)).trans accepted, ?_, length .main writes⟩
  exact unique.mp (Key.isKey_iff.mpr ⟨_, accepted⟩)

end SpendPolicy
