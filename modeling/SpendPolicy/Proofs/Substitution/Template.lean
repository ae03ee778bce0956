import Mathlib.Data.Bool.AllAny
import Mathlib.Data.List.Basic
import SpendPolicy.Proofs.Numeral.Decimal
import SpendPolicy.Proofs.Substitution.Pieces
import SpendPolicy.Substitution.Reinsertion

set_option autoImplicit false

namespace SpendPolicy.Extraction

theorem mem_contents_iff {s content : Text} : content ∈ contents s ↔ content ∈ written (pieces s) :=
  List.mem_eraseDups

theorem eraseDups_of_nodup {names : List Text} (distinct : names.Nodup) : names.eraseDups = names := by
  induction names with
  | nil => rfl
  | cons name names ih =>
    obtain ⟨fresh, rest⟩ := List.nodup_cons.mp distinct
    have others : names.filter (fun other => !other == name) = names :=
      List.filter_eq_self.mpr fun other member => by
        have different : other ≠ name := fun same => fresh (same ▸ member)
        simpa using different
    rw [List.eraseDups_cons, others, ih rest]

theorem nodup_eraseDups (names : List Text) : names.eraseDups.Nodup := by
  induction count : names.length using Nat.strongRecOn generalizing names with
  | _ n ih =>
    cases names with
    | nil => simp
    | cons name names =>
      have shorter : (names.filter fun other => !other == name).length < n := by
        have := List.length_filter_le (fun other => !other == name) names
        simp only [List.length_cons] at count
        omega
      rw [List.eraseDups_cons, List.nodup_cons]
      exact ⟨by simp, ih _ shorter _ rfl⟩

theorem eraseDups_map {f : Text → Text} {names : List Text}
    (injective : ∀ a ∈ names, ∀ b ∈ names, f a = f b → a = b) :
    (names.map f).eraseDups = names.eraseDups.map f := by
  induction count : names.length using Nat.strongRecOn generalizing names with
  | _ n ih =>
    cases names with
    | nil => rfl
    | cons name names =>
      have others : (names.map f).filter (fun other => !other == f name) =
          (names.filter fun other => !other == name).map f := by
        rw [List.filter_map]
        congr 1
        refine List.filter_congr fun other member => ?_
        have same : f other = f name ↔ other = name :=
          ⟨injective other (List.mem_cons_of_mem name member) name (List.mem_cons_self ..), congrArg f⟩
        simp [same]
      have shorter : (names.filter fun other => !other == name).length < n := by
        have := List.length_filter_le (fun other => !other == name) names
        simp only [List.length_cons] at count
        omega
      have within : ∀ other ∈ names.filter (fun other => !other == name), other ∈ name :: names :=
        fun other member => List.mem_cons_of_mem name (List.mem_filter.mp member).1
      rw [List.map_cons, List.eraseDups_cons, List.eraseDups_cons, List.map_cons, others,
        ih _ shorter (fun a first b second => injective a (within a first) b (within b second)) rfl]

theorem idxOf_map {f : Text → Text} {names : List Text}
    (injective : ∀ a ∈ names, ∀ b ∈ names, f a = f b → a = b) {name : Text} (member : name ∈ names) :
    (names.map f).idxOf (f name) = names.idxOf name := by
  induction names with
  | nil => cases member
  | cons first names ih =>
    by_cases here : first = name
    · simp [here]
    · have later : name ∈ names := (List.mem_cons.mp member).resolve_left (Ne.symm here)
      have apart : f first ≠ f name := fun same =>
        here (injective first (List.mem_cons_self ..) name member same)
      have rest := ih (fun a inside b insideToo =>
        injective a (List.mem_cons_of_mem first inside) b (List.mem_cons_of_mem first insideToo)) later
      rw [List.map_cons, List.idxOf_cons_ne _ apart, List.idxOf_cons_ne _ here, rest]

theorem contents_of_nodup {s : Text} (distinct : (written (pieces s)).Nodup) :
    contents s = written (pieces s) :=
  eraseDups_of_nodup distinct

theorem placeholder_visible (n : Nat) : ∀ c ∈ placeholder n, isBlank c = false ∧ c ≠ '(' ∧ c ≠ ')' := by
  intro c member
  rcases List.mem_append.mp member with letter | digit
  · have all : ∀ c ∈ ['k', 'e', 'y'], isBlank c = false ∧ c ≠ '(' ∧ c ≠ ')' :=
      List.all_iff_forall_prop.mp (by decide)
    exact all c letter
  · have isDigit := Numeral.isDigit_ofNat n c digit
    refine ⟨?_, ?_, ?_⟩
    · cases blank : isBlank c with
      | false => rfl
      | true =>
        have none : c.isDigit = false :=
          Text.forall_blank (p := fun c => c.isDigit = false) (by decide) blank
        simp [isDigit] at none
    · rintro rfl
      exact absurd isDigit (by decide)
    · rintro rfl
      exact absurd isDigit (by decide)

theorem flat_placeholder (n : Nat) : Flat (placeholder n) :=
  ⟨fun member => (placeholder_visible n _ member).2.1 rfl,
    fun member => (placeholder_visible n _ member).2.2 rfl⟩

theorem trim_placeholder (n : Nat) : (placeholder n).trim = placeholder n :=
  Text.trim_eq_of_visible fun c member => (placeholder_visible n c member).1

theorem placeholder_injective {m n : Nat} (same : placeholder m = placeholder n) : m = n :=
  Numeral.ofNat_injective (List.append_cancel_left same)

theorem placeholderOf_injective {contents : List Text} {first second : Text}
    (member : first ∈ contents) (same : placeholderOf contents first = placeholderOf contents second) :
    first = second :=
  (List.idxOf_inj member).mp (Nat.succ.inj (placeholder_injective same))

theorem nodup_map_placeholderOf {contents names : List Text} (within : ∀ name ∈ names, name ∈ contents)
    (distinct : names.Nodup) : (names.map (placeholderOf contents)).Nodup :=
  distinct.map_on fun name member _ _ same => placeholderOf_injective (within name member) same

theorem map_placeholderOf {names : List Text} (distinct : names.Nodup) :
    names.map (placeholderOf names) =
      (List.range names.length).map fun i => placeholder (i + 1) := by
  apply List.ext_getElem
  · simp
  · intro i _ _
    simp [placeholderOf, distinct.idxOf_getElem]

theorem lookup_map {α β : Type} [BEq α] [LawfulBEq α] {f : β → α} {bs : List β} {b : β}
    (member : b ∈ bs) (injective : ∀ c ∈ bs, f b = f c → b = c) :
    (bs.map fun b => (f b, b)).lookup (f b) = some b := by
  induction bs with
  | nil => simp at member
  | cons c bs ih =>
    -- The first pair with the name is the one, since no two of them share it.
    by_cases same : f b = f c
    · simp [injective c (by simp) same]
    · have other : b ∈ bs := by
        rcases List.mem_cons.mp member with rfl | later
        · exact absurd rfl same
        · exact later
      have notSame : (f b == f c) = false := by simpa using same
      rw [List.map_cons, List.lookup_cons, notSame]
      exact ih other fun c inside => injective c (List.mem_cons_of_mem _ inside)

section OfText

variable (s : Text)

theorem template_eq :
    (ofText s).template = rewritten (placeholderOf (contents s)) (pieces s) := by
  have each (ps : List Piece) : ps.flatMap (withPlaceholder (contents s)) =
      rewritten (placeholderOf (contents s)) ps := by
    induction ps with
    | nil => rfl
    | cons p ps ih =>
      rw [List.flatMap_cons, ih]
      cases p <;> rfl
  exact each (pieces s)

theorem pieces_template :
    pieces (ofText s).template = (pieces s).map (Piece.map (placeholderOf (contents s))) := by
  rw [template_eq]
  exact piecesAfter_rewritten fun _ _ => flat_placeholder _

theorem written_map (f : Text → Text) (ps : List Piece) :
    written (ps.map (Piece.map f)) = (written ps).map f := by
  induction ps with
  | nil => rfl
  | cons p ps ih =>
    cases p with
    | outside c => exact ih
    | key content => exact congrArg (f content :: ·) ih

theorem written_template :
    written (pieces (ofText s).template) =
      (written (pieces s)).map (placeholderOf (contents s)) := by
  rw [pieces_template, written_map]

theorem placeholders_eq :
    (ofText s).keyMap.placeholders = (contents s).map (placeholderOf (contents s)) := by
  simp [ofText, KeyMap.placeholders]

theorem keys_eq : (ofText s).keyMap.keys = contents s := by
  simp [ofText, KeyMap.keys, Function.comp_def]

variable {s}

theorem replacement_placeholderOf {content : Text} (member : content ∈ contents s) :
    (ofText s).keyMap.replacement (placeholderOf (contents s) content) = content := by
  have found : (ofText s).keyMap.get? (placeholderOf (contents s) content) = some content :=
    lookup_map member fun _ _ same => placeholderOf_injective member same
  rw [KeyMap.replacement, found, Option.getD_some]

variable (s)

theorem rewritten_map (f g : Text → Text) (ps : List Piece) :
    rewritten f (ps.map (Piece.map g)) = rewritten (f ∘ g) ps := by
  induction ps with
  | nil => rfl
  | cons p ps ih =>
    cases p with
    | outside c => exact congrArg (c :: ·) ih
    | key content => exact congrArg (Form.key (f (g content)) ++ ·) ih

theorem rewritten_congr {f g : Text → Text} {ps : List Piece}
    (same : ∀ content ∈ written ps, f content = g content) : rewritten f ps = rewritten g ps := by
  induction ps with
  | nil => rfl
  | cons p ps ih =>
    cases p with
    | outside c => exact congrArg (c :: ·) (ih same)
    | key content =>
      obtain ⟨here, rest⟩ := List.forall_mem_cons.mp same
      rw [rewritten_key, rewritten_key, here, ih rest]

theorem rewritten_id {f : Text → Text} {ps : List Piece}
    (stays : ∀ content ∈ written ps, f content = content) :
    rewritten f ps = textOf ps := by
  have same : Piece.map id = id := by
    funext p
    cases p <;> rfl
  rw [rewritten_congr (g := id) stays, rewritten, same, List.map_id]

theorem rewritten_template :
    rewritten (ofText s).keyMap.replacement (pieces (ofText s).template) = s := by
  rw [pieces_template, rewritten_map, rewritten_id, textOf_pieces]
  intro content member
  exact replacement_placeholderOf (mem_contents_iff.mpr member)

variable {s}

theorem ofText_key {name : Text} (flat : Flat name) :
    ofText (Form.key name) = ⟨Form.key (placeholder 1), ⟨[(placeholder 1, name)]⟩⟩ := by
  have one : pieces (Form.key name) = [.key name] := (splits_key flat).pieces_eq
  simp [ofText, contents, one, Piece.key?, placeholderOf, withPlaceholder, List.eraseDups_cons]

section Renamed

variable {f : Text → Text} (flat : ∀ content ∈ written (pieces s), Flat (f content))
  (injective : ∀ a ∈ written (pieces s), ∀ b ∈ written (pieces s), f a = f b → a = b)

include flat

theorem pieces_rewritten : pieces (rewritten f (pieces s)) = (pieces s).map (Piece.map f) :=
  piecesAfter_rewritten flat

include injective

theorem contents_rewritten : contents (rewritten f (pieces s)) = (contents s).map f := by
  change (written (pieces _)).eraseDups = (written (pieces s)).eraseDups.map f
  rw [pieces_rewritten flat, written_map, eraseDups_map injective]

theorem placeholderOf_rewritten {content : Text} (member : content ∈ contents s) :
    placeholderOf (contents (rewritten f (pieces s))) (f content) = placeholderOf (contents s) content := by
  have separate : ∀ a ∈ contents s, ∀ b ∈ contents s, f a = f b → a = b := fun a inside b insideToo =>
    injective a (mem_contents_iff.mp inside) b (mem_contents_iff.mp insideToo)
  rw [contents_rewritten flat injective, placeholderOf, placeholderOf, idxOf_map separate member]

theorem template_rewritten : (ofText (rewritten f (pieces s))).template = (ofText s).template := by
  rw [template_eq, template_eq, pieces_rewritten flat, rewritten_map]
  exact rewritten_congr fun content member =>
    placeholderOf_rewritten flat injective (mem_contents_iff.mpr member)

theorem pairs_rewritten : (ofText (rewritten f (pieces s))).keyMap.pairs =
    (ofText s).keyMap.pairs.map fun (placeholder, content) => (placeholder, f content) := by
  simp only [ofText]
  rw [contents_rewritten flat injective, List.map_map, List.map_map]
  refine List.map_congr_left fun content member => ?_
  have same := placeholderOf_rewritten flat injective member
  rw [contents_rewritten flat injective] at same
  exact Prod.ext same rfl

end Renamed

end OfText

end SpendPolicy.Extraction
