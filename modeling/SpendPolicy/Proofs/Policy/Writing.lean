import SpendPolicy.Proofs.Numeral.Hexadecimal
import SpendPolicy.Proofs.Policy.KeySites
import SpendPolicy.Proofs.Policy.Legibility
import SpendPolicy.Proofs.Policy.Renaming
import SpendPolicy.Proofs.Substitution.Template

set_option autoImplicit false

namespace SpendPolicy.Policy

open Extraction

def bodyText (items : List Policy) : Text :=
  Text.commaSeparated (texts items) ++ [')']

theorem bodyText_single (item : Policy) : bodyText [item] = item.text ++ [')'] := by
  simp [bodyText, Text.commaSeparated]

theorem bodyText_cons (item other : Policy) (items : List Policy) :
    bodyText (item :: other :: items) = item.text ++ ',' :: bodyText (other :: items) := by
  simp [bodyText, Text.commaSeparated, List.intercalate]

theorem text_and (left right : Policy) :
    (and left right).text = PairName.and.text ++ '(' :: bodyText [left, right] := by
  rw [text, Form.and, Form.call_eq]
  simp [bodyText, PairName.text]

theorem text_or (left right : Policy) :
    (or left right).text = PairName.or.text ++ '(' :: bodyText [left, right] := by
  rw [text, Form.or, Form.call_eq]
  simp [bodyText, PairName.text]

theorem text_thresh (required : Nat) {items : List Policy} (filled : items ≠ []) :
    (thresh required items).text =
      Name.thresh.text ++ '(' :: (Numeral.ofNat required ++ ',' :: bodyText items) := by
  obtain ⟨item, items, rfl⟩ := List.exists_cons_of_ne_nil filled
  rw [text, Form.thresh, Form.call_eq]
  simp [bodyText, Name.text, Text.commaSeparated, List.intercalate, Numeral.ofInt]

theorem text_leaf (name : LeafName) (argument : Text) :
    Form.call name.text [argument] = name.text ++ '(' :: (argument ++ [')']) := by
  rw [Form.call_eq]
  simp [Text.commaSeparated]

section Derivation

open Text (blank_nil)

theorem plain_ofNat (n : Nat) : Plain (Numeral.ofNat n) :=
  ⟨Numeral.notMem_ofNat (by decide), Numeral.notMem_ofNat (by decide),
    Numeral.notMem_ofNat (by decide)⟩

theorem plain_encode (digest : Bytes) : Plain (Hex.encode digest) :=
  ⟨fun member => absurd (Hex.mem_digits_of_encode member) (by decide),
    fun member => absurd (Hex.mem_digits_of_encode member) (by decide),
    fun member => absurd (Hex.mem_digits_of_encode member) (by decide)⟩

theorem trim_encode (digest : Bytes) : (Hex.encode digest).trim = Hex.encode digest := by
  apply Text.trim_eq_of_visible
  intro c member
  have visible : ∀ c ∈ Hex.digits, isBlank c = false := List.all_iff_forall_prop.mp (by decide)
  exact visible c (Hex.mem_digits_of_encode member)

theorem fragment_leaf {name : LeafName} {argument : Text} {policy : Policy} (plain : Plain argument)
    (trimmed : argument.trim = argument) (builds : name.build argument = .ok policy) :
    Fragment (Form.call name.text [argument]) policy := by
  rw [text_leaf]
  have leaf := Fragment.leaf blank_nil blank_nil plain (by rw [trimmed, builds])
  simpa using leaf

theorem build_after {value : Nat} (range : Locktime.isInRange value = true) :
    LeafName.after.build (Numeral.ofNat value) = .ok (.after value) := by
  simp [LeafName.build, Numeral.read?_ofNat (legible_of_isInRange range), built_eq_ok_iff, ofAfter,
    range]

theorem build_older {value : Nat} (range : Locktime.isInRange value = true) :
    LeafName.older.build (Numeral.ofNat value) = .ok (.older value) := by
  simp [LeafName.build, Numeral.read?_ofNat (legible_of_isInRange range), built_eq_ok_iff, ofOlder,
    range]

theorem build_hash {algorithm : HashAlgorithm} {s : Text} {digest : Bytes}
    (decodes : Hex.decode? s = some digest) (size : digest.length = algorithm.digestSize) :
    (LeafName.hash algorithm).build s = .ok (.hash algorithm digest) := by
  simp [LeafName.build, decodes, built_eq_ok_iff, ofHash, size]

theorem ofThresh_of_bounds {required : Nat} {items : List Policy} (positive : 1 ≤ required)
    (bounded : required ≤ items.length) : ofThresh required items = .ok (.thresh required items) := by
  have bounds : (1 : Int) ≤ required ∧ (required : Int) ≤ items.length := by omega
  rw [ofThresh, if_pos bounds, Int.toNat_natCast]

theorem fragments_single {item : Policy} (first : Fragment item.text item) :
    Fragments (bodyText [item]) [item] := by
  have last := Fragments.last first blank_nil
  rw [bodyText_single]
  simpa using last

theorem fragments_cons {item other : Policy} {items : List Policy} (first : Fragment item.text item)
    (others : Fragments (bodyText (other :: items)) (other :: items)) :
    Fragments (bodyText (item :: other :: items)) (item :: other :: items) := by
  have more := Fragments.more first blank_nil others
  rw [bodyText_cons]
  simpa using more

theorem fragment_pair {policy left right : Policy} {name : PairName}
    (builds : name.build [left, right] = .ok policy)
    (written : policy.text = name.text ++ '(' :: bodyText [left, right])
    (first : Fragment left.text left) (second : Fragment right.text right) :
    Fragment policy.text policy := by
  have pair := Fragment.pair blank_nil blank_nil (fragments_cons first (fragments_single second)) builds
  rw [written]
  simpa using pair

mutual

theorem WellFormed.fragment {policy : Policy} (wellFormed : policy.WellFormed) :
    Fragment policy.text policy := by
  match policy with
  | .key name =>
    have isName : IsName name := wellFormed
    exact fragment_leaf isName.plain isName.trimmed (build_key isName.filled)
  | .after value =>
    exact fragment_leaf (plain_ofNat value) (Numeral.trim_ofNat value) (build_after wellFormed)
  | .older value =>
    exact fragment_leaf (plain_ofNat value) (Numeral.trim_ofNat value) (build_older wellFormed)
  | .hash algorithm digest =>
    exact fragment_leaf (plain_encode digest) (trim_encode digest)
      (build_hash (Hex.decode?_encode digest) wellFormed)
  | .and left right =>
    exact @fragment_pair _ left right .and rfl (text_and left right) wellFormed.1.fragment
      wellFormed.2.fragment
  | .or left right =>
    exact @fragment_pair _ left right .or rfl (text_or left right) wellFormed.1.fragment
      wellFormed.2.fragment
  | .thresh required items =>
    obtain ⟨positive, bounded, number, each⟩ := wellFormed
    have filled : items ≠ [] := List.ne_nil_of_length_pos (by omega)
    have thresh := Fragment.thresh blank_nil blank_nil (plain_ofNat required).2.2
      (Numeral.read?_ofNat number) (each.fragments filled) (ofThresh_of_bounds positive bounded)
    rw [text_thresh required filled]
    simpa using thresh
  | .unknown => exact wellFormed.elim

theorem AllWellFormed.fragments {items : List Policy} (each : AllWellFormed items)
    (filled : items ≠ []) : Fragments (bodyText items) items := by
  match items with
  | [item] => exact fragments_single each.1.fragment
  | item :: other :: items =>
    exact fragments_cons each.1.fragment (AllWellFormed.fragments each.2 (by simp))

end

end Derivation

theorem read_text {policy : Policy} (wellFormed : policy.WellFormed) :
    read policy.text = .ok policy :=
  read_eq_ok_iff.mpr
    ⟨policy.text, [], (List.append_nil _).symm, wellFormed.fragment, Text.blank_nil⟩

section Pieces

structure Displays (policy : Policy) (ps : List Piece) : Prop where
  splits : Splits policy.text ps
  written : written ps = policy.keys
  rewritten : ∀ f, rewritten f ps = (policy.rename f).text

structure DisplaysAll (items : List Policy) (ps : List Piece) : Prop where
  splits : Splits (bodyText items) ps
  written : Extraction.written ps = keysOfAll items
  rewritten : ∀ f, Extraction.rewritten f ps = bodyText (renameAll f items)

theorem splits_call {name : LeafName} {argument : Text} (plain : Plain argument) :
    Splits (Form.call name.text [argument])
      (if name = .key then [.key argument] else outsides (Form.call name.text [argument])) := by
  have leaf := @splits_leaf [] [] argument name Text.blank_nil Text.blank_nil plain
  rw [text_leaf]
  simpa [outsides] using leaf

theorem displays_plain {policy : Policy} {name : LeafName} {argument : Text} (plain : Plain argument)
    (other : name ≠ .key) (text : policy.text = Form.call name.text [argument])
    (keys : policy.keys = []) (same : ∀ f, policy.rename f = policy) :
    policy.Displays (outsides policy.text) where
  splits := by
    have splits := @splits_call name argument plain
    rw [if_neg other] at splits
    rwa [text]
  written := by rw [written_outsides, keys]
  rewritten f := by rw [rewritten_outsides, same f]

theorem displays_pair {policy : Policy} {name : PairName} {left right : Policy} {qs : List Piece}
    (inner : DisplaysAll [left, right] qs)
    (text : policy.text = name.text ++ '(' :: bodyText [left, right])
    (keys : policy.keys = left.keys ++ right.keys)
    (renamed : ∀ f, (policy.rename f).text =
      name.text ++ '(' :: bodyText [left.rename f, right.rename f]) :
    policy.Displays (outsides (name.text ++ ['(']) ++ qs) where
  splits := by
    have splits := splits_pair name Text.blank_nil Text.blank_nil inner.splits
    rw [text]
    simpa using splits
  written := by
    rw [written_append, written_outsides, inner.written, keys]
    simp
  rewritten f := by
    rw [rewritten_append, rewritten_outsides, inner.rewritten, renamed]
    simp

theorem displays_thresh {required : Nat} {items : List Policy} {qs : List Piece} (filled : items ≠ [])
    (number : Numeral.Legible required) (inner : DisplaysAll items qs) :
    (thresh required items).Displays
      (outsides (Name.thresh.text ++ ['(']) ++ (outsides (Numeral.ofNat required ++ [',']) ++ qs)) where
  splits := by
    have splits := splits_thresh Text.blank_nil Text.blank_nil (Numeral.read?_ofNat number) inner.splits
    rw [text_thresh required filled]
    simpa using splits
  written := by
    simp only [written_append, written_outsides, List.nil_append, inner.written]
    rfl
  rewritten f := by
    have renamed : renameAll f items ≠ [] := by simpa using filled
    rw [rewritten_append, rewritten_append, rewritten_outsides, rewritten_outsides, inner.rewritten,
      rename, text_thresh required renamed]
    simp

theorem displays_single {item : Policy} {ps : List Piece} (first : item.Displays ps) :
    DisplaysAll [item] (ps ++ outsides [')']) where
  splits := by
    have splits := splits_last first.splits Text.blank_nil
    rw [bodyText_single]
    simpa [outsides] using splits
  written := by
    rw [written_append, written_outsides, first.written]
    simp
  rewritten f := by
    rw [rewritten_append, rewritten_outsides, first.rewritten, renameAll_eq_map, List.map_singleton,
      bodyText_single]

theorem displays_cons {item other : Policy} {items : List Policy} {ps qs : List Piece}
    (first : item.Displays ps) (others : DisplaysAll (other :: items) qs) :
    DisplaysAll (item :: other :: items) (ps ++ outsides [','] ++ qs) where
  splits := by
    have splits := splits_more first.splits Text.blank_nil others.splits
    rw [bodyText_cons]
    simpa [outsides] using splits
  written := by
    rw [written_append, written_append, written_outsides, first.written, others.written,
      List.append_nil]
    rfl
  rewritten f := by
    rw [rewritten_append, rewritten_append, rewritten_outsides, first.rewritten, others.rewritten]
    simp [renameAll, bodyText_cons]

mutual

theorem WellFormed.exists_displays {policy : Policy} (wellFormed : policy.WellFormed) :
    ∃ ps, policy.Displays ps := by
  match policy with
  | .key name =>
    have isName : IsName name := wellFormed
    refine ⟨[.key name], @splits_call .key name isName.plain, rfl, fun f => ?_⟩
    rw [rewritten_key]
    exact List.append_nil _
  | .after value =>
    exact ⟨_, @displays_plain _ .after _ (plain_ofNat value) (by simp) rfl rfl fun _ => rfl⟩
  | .older value =>
    exact ⟨_, @displays_plain _ .older _ (plain_ofNat value) (by simp) rfl rfl fun _ => rfl⟩
  | .hash algorithm digest =>
    exact ⟨_, @displays_plain _ (.hash algorithm) _ (plain_encode digest) (by simp) rfl rfl
      fun _ => rfl⟩
  | .and left right =>
    obtain ⟨ps, first⟩ := wellFormed.1.exists_displays
    obtain ⟨qs, second⟩ := wellFormed.2.exists_displays
    exact ⟨_, @displays_pair _ .and _ _ _ (displays_cons first (displays_single second))
      (text_and left right) rfl fun f => text_and (left.rename f) (right.rename f)⟩
  | .or left right =>
    obtain ⟨ps, first⟩ := wellFormed.1.exists_displays
    obtain ⟨qs, second⟩ := wellFormed.2.exists_displays
    exact ⟨_, @displays_pair _ .or _ _ _ (displays_cons first (displays_single second))
      (text_or left right) rfl fun f => text_or (left.rename f) (right.rename f)⟩
  | .thresh required items =>
    obtain ⟨positive, bounded, number, each⟩ := wellFormed
    have filled : items ≠ [] := List.ne_nil_of_length_pos (by omega)
    obtain ⟨qs, inner⟩ := each.exists_displays filled
    exact ⟨_, displays_thresh filled number inner⟩
  | .unknown => exact wellFormed.elim

theorem AllWellFormed.exists_displays {items : List Policy} (each : AllWellFormed items)
    (filled : items ≠ []) : ∃ ps, DisplaysAll items ps := by
  match items with
  | [item] =>
    obtain ⟨ps, first⟩ := each.1.exists_displays
    exact ⟨_, displays_single first⟩
  | item :: other :: items =>
    obtain ⟨ps, first⟩ := each.1.exists_displays
    obtain ⟨qs, others⟩ := AllWellFormed.exists_displays each.2 (by simp)
    exact ⟨_, displays_cons first others⟩

end

theorem written_text {policy : Policy} (wellFormed : policy.WellFormed) :
    written (pieces policy.text) = policy.keys := by
  obtain ⟨ps, displays⟩ := wellFormed.exists_displays
  rw [displays.splits.pieces_eq, displays.written]

theorem template_text {policy : Policy} (wellFormed : policy.WellFormed) :
    (ofText policy.text).template =
      (policy.rename (placeholderOf (contents policy.text))).text := by
  obtain ⟨ps, displays⟩ := wellFormed.exists_displays
  rw [template_eq, ← displays.rewritten, displays.splits.pieces_eq]

end Pieces

end SpendPolicy.Policy
