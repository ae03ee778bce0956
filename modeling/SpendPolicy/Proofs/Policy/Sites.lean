import SpendPolicy.Proofs.Key.Acceptance
import SpendPolicy.Proofs.Policy.KeySites
import SpendPolicy.Proofs.Policy.Renaming

set_option autoImplicit false

namespace SpendPolicy.Policy

open Text (Blank)
open Extraction

/-- The place of a key of a policy: one that the extraction finds, with its content, or one that is
hidden by white space, with its name. -/
inductive KeySite where
  | visible (content : Text)
  | hidden (name : Text)

namespace KeySite

def content? : KeySite → Option Text
  | visible content => some content
  | hidden _ => none

def isHidden : KeySite → Bool
  | visible _ => false
  | hidden _ => true

def nameBy (f : Text → Text) : KeySite → Text
  | visible content => (f content).trim
  | hidden name => name

end KeySite

structure HasSites (s : Text) (names : List Text) (sites : List KeySite) : Prop where
  written : written (pieces s) = sites.filterMap KeySite.content?
  spaced : spacedKeys s = sites.countP KeySite.isHidden
  names : names = sites.map (KeySite.nameBy id)

def IsArgument (content : Text) : Prop :=
  Plain content ∧ content.trim ≠ []

instance (content : Text) : Decidable (IsArgument content) :=
  inferInstanceAs (Decidable (Plain content ∧ content.trim ≠ []))

theorem isArgument_of_classify {key : Text} {form : KeyForm} (accepted : Key.classify key = .ok form) :
    IsArgument key := by
  obtain ⟨filled, absent, _⟩ := Key.classify_trim accepted
  exact ⟨⟨absent _ (by decide), absent _ (by decide), absent _ (by decide)⟩, filled⟩

theorem isArgument_of_isKey {key : Text} (accepted : Key.isKey key = true) : IsArgument key := by
  obtain ⟨form, classified⟩ := Key.isKey_iff.mp accepted
  exact isArgument_of_classify classified

/-- With other contents in its visible sites the text is read as a policy of the same shape. -/
structure Sited (consumed : Text) (policy : Policy) (sites : List KeySite) : Prop
    extends HasSites consumed policy.keys sites where
  rewritten : ∀ f, (∀ content ∈ Extraction.written (pieces consumed), IsArgument (f content)) →
    ∃ other, Fragment (Extraction.rewritten f (pieces consumed)) other ∧
      other.shape = policy.shape ∧ other.keys = sites.map (KeySite.nameBy f)

structure SitedAll (consumed : Text) (items : List Policy) (sites : List KeySite) : Prop
    extends HasSites consumed (keysOfAll items) sites where
  rewritten : ∀ f, (∀ content ∈ Extraction.written (pieces consumed), IsArgument (f content)) →
    ∃ others, Fragments (Extraction.rewritten f (pieces consumed)) others ∧
      others.map shape = items.map shape ∧ keysOfAll others = sites.map (KeySite.nameBy f)

theorem sited_key {indent content : Text} {policy : Policy} (blankIndent : Blank indent)
    (plain : Plain content) (builds : LeafName.key.build content.trim = .ok policy) :
    Sited (indent ++ LeafName.key.text ++ [] ++ '(' :: (content ++ [')'])) policy
      [.visible content] where
  written := by
    rw [written_leaf blankIndent Text.blank_nil plain, if_pos ⟨rfl, rfl⟩]
    rfl
  spaced := spacedKeys_leaf blankIndent Text.blank_nil plain
  names := keys_of_leaf builds
  rewritten f argument := by
    rw [written_leaf blankIndent Text.blank_nil plain, if_pos ⟨rfl, rfl⟩] at argument
    obtain ⟨fresh, filled⟩ := argument content List.mem_cons_self
    have leaf := Fragment.leaf blankIndent Text.blank_nil fresh (build_key filled)
    refine ⟨.key (f content).trim, ?_, ?_, rfl⟩
    · rw [(splits_leaf blankIndent Text.blank_nil plain).pieces_eq, if_pos ⟨rfl, rfl⟩,
        rewritten_append, rewritten_outsides, rewritten_key, key_text]
      simpa [LeafName.text, Extraction.rewritten] using leaf
    · have filled : content.trim ≠ [] := by
        intro empty
        exact build_nil _ _ (empty ▸ builds)
      rw [build_key filled] at builds
      cases builds
      rfl

theorem sited_leaf {indent gap argument : Text} {name : LeafName} {policy : Policy}
    (blankIndent : Blank indent) (blankGap : Blank gap) (plain : Plain argument)
    (builds : name.build argument.trim = .ok policy) (unseen : ¬ (name = .key ∧ gap = [])) :
    Sited (indent ++ name.text ++ gap ++ '(' :: (argument ++ [')'])) policy
      (policy.keys.map .hidden) where
  written := by
    rw [written_leaf blankIndent blankGap plain, if_neg unseen, List.filterMap_map]
    exact (List.filterMap_eq_nil_iff.mpr fun _ _ => rfl).symm
  spaced := by
    rw [spacedKeys_leaf blankIndent blankGap plain, keys_of_leaf builds]
    by_cases key : name = .key
    · have parted : gap ≠ [] := fun tight => unseen ⟨key, tight⟩
      simp [key, parted, KeySite.isHidden]
    · simp [key]
  names := by simp [Function.comp_def, KeySite.nameBy]
  rewritten f _ := by
    rw [(splits_leaf blankIndent blankGap plain).pieces_eq, if_neg unseen, rewritten_outsides]
    exact ⟨policy, .leaf blankIndent blankGap plain builds, rfl,
      by simp [Function.comp_def, KeySite.nameBy]⟩

theorem build_pair_of_shapes {name : PairName} {items others : List Policy} {policy : Policy}
    (builds : name.build items = .ok policy) (same : others.map shape = items.map shape) :
    ∃ other, name.build others = .ok other ∧ other.shape = policy.shape := by
  have count : others.length = items.length := by simpa using congrArg List.length same
  unfold PairName.build at builds
  split at builds
  · match others, count with
    | [_, _], _ =>
      cases builds
      simp only [List.map_cons, List.cons.injEq] at same
      exact ⟨_, rfl, congrArg₂ Policy.and same.1 same.2.1⟩
  · match others, count with
    | [_, _], _ =>
      cases builds
      simp only [List.map_cons, List.cons.injEq] at same
      exact ⟨_, rfl, congrArg₂ Policy.or same.1 same.2.1⟩
  · cases builds

theorem build_thresh_of_shapes {required : Int} {items others : List Policy} {policy : Policy}
    (builds : ofThresh required items = .ok policy) (same : others.map shape = items.map shape) :
    ∃ other, ofThresh required others = .ok other ∧ other.shape = policy.shape := by
  have count : others.length = items.length := by simpa using congrArg List.length same
  unfold ofThresh at builds ⊢
  rw [count]
  split at builds
  · next bounds =>
    cases builds
    refine ⟨_, if_pos bounds, congrArg (thresh _) ?_⟩
    rwa [renameAll_eq_map, renameAll_eq_map]
  · cases builds

theorem sited_pair {indent gap body : Text} {name : PairName} {items : List Policy} {policy : Policy}
    {sites : List KeySite} (blankIndent : Blank indent) (blankGap : Blank gap)
    (splits : Splits body (pieces body)) (builds : name.build items = .ok policy)
    (inner : SitedAll body items sites) :
    Sited (indent ++ name.text ++ gap ++ '(' :: body) policy sites where
  written := by
    rw [(splits_pair name blankIndent blankGap splits).pieces_eq, written_append, written_outsides,
      List.nil_append, inner.written]
  spaced := (spacedKeys_pair blankIndent blankGap name body).trans inner.spaced
  names := by rw [keys_of_pair builds, ← keysOfAll_eq_flatMap, inner.names]
  rewritten f argument := by
    have split := (splits_pair name blankIndent blankGap splits).pieces_eq
    rw [split, written_append, written_outsides, List.nil_append] at argument
    obtain ⟨others, rest, shapes, names⟩ := inner.rewritten f argument
    obtain ⟨other, build, shape⟩ := build_pair_of_shapes builds shapes
    rw [split, rewritten_append, rewritten_outsides, List.append_assoc]
    exact ⟨other, .pair blankIndent blankGap rest build, shape,
      by rw [keys_of_pair build, ← keysOfAll_eq_flatMap, names]⟩

theorem sited_thresh {indent gap number body : Text} {required : Int} {items : List Policy}
    {policy : Policy} {sites : List KeySite} (blankIndent : Blank indent) (blankGap : Blank gap)
    (single : ',' ∉ number) (reads : Numeral.read? number = some required)
    (splits : Splits body (pieces body)) (builds : ofThresh required items = .ok policy)
    (inner : SitedAll body items sites) :
    Sited (indent ++ Name.thresh.text ++ gap ++ '(' :: (number ++ ',' :: body)) policy sites where
  written := by
    rw [(splits_thresh blankIndent blankGap reads splits).pieces_eq, written_append, written_append,
      written_outsides, written_outsides, List.nil_append, List.nil_append, inner.written]
  spaced := (spacedKeys_thresh blankIndent blankGap reads body).trans inner.spaced
  names := by rw [keys_of_thresh builds, ← keysOfAll_eq_flatMap, inner.names]
  rewritten f argument := by
    have split := (splits_thresh blankIndent blankGap reads splits).pieces_eq
    rw [split, written_append, written_append, written_outsides, written_outsides, List.nil_append,
      List.nil_append] at argument
    obtain ⟨others, rest, shapes, names⟩ := inner.rewritten f argument
    obtain ⟨other, build, shape⟩ := build_thresh_of_shapes builds shapes
    rw [split, rewritten_append, rewritten_append, rewritten_outsides, rewritten_outsides,
      List.append_assoc, List.singleton_append, List.append_assoc number, List.singleton_append]
    exact ⟨other, .thresh blankIndent blankGap single reads rest build, shape,
      by rw [keys_of_thresh build, ← keysOfAll_eq_flatMap, names]⟩

theorem sited_last {head gap : Text} {policy : Policy} {sites : List KeySite}
    (derived : Fragment head policy) (blank : Blank gap) (first : Sited head policy sites) :
    SitedAll (head ++ gap ++ [')']) [policy] sites where
  written := by
    rw [(splits_last derived.splits blank).pieces_eq]
    simp [first.written]
  spaced := by
    rw [derived.spacedKeys_before blank (by decide) (by decide) (by decide), first.spaced]
    rfl
  names := by simpa using first.names
  rewritten f argument := by
    have split := (splits_last derived.splits blank).pieces_eq
    simp only [split, written_append, written_outsides, List.append_nil] at argument
    obtain ⟨other, rest, shape, names⟩ := first.rewritten f argument
    rw [split, rewritten_append, rewritten_append, rewritten_outsides, rewritten_outsides]
    exact ⟨[other], .last rest blank, by simp [shape], by simpa using names⟩

theorem sited_more {head gap tail : Text} {policy : Policy} {items : List Policy}
    {sites more : List KeySite} (derived : Fragment head policy) (blank : Blank gap)
    (splits : Splits tail (pieces tail)) (first : Sited head policy sites)
    (later : SitedAll tail items more) :
    SitedAll (head ++ gap ++ ',' :: tail) (policy :: items) (sites ++ more) where
  written := by
    rw [(splits_more derived.splits blank splits).pieces_eq]
    simp [first.written, later.written]
  spaced := by
    rw [derived.spacedKeys_before blank (by decide) (by decide) (by decide), first.spaced,
      later.spaced, List.countP_append]
  names := by rw [keysOfAll, first.names, later.names, List.map_append]
  rewritten f argument := by
    have split := (splits_more derived.splits blank splits).pieces_eq
    simp only [split, written_append, written_outsides, List.append_nil] at argument
    obtain ⟨here, there⟩ := List.forall_mem_append.mp argument
    obtain ⟨other, rest, shape, names⟩ := first.rewritten f here
    obtain ⟨others, last, shapes, moreNames⟩ := later.rewritten f there
    rw [split, rewritten_append, rewritten_append, rewritten_append, rewritten_outsides,
      rewritten_outsides, List.append_assoc, List.singleton_append]
    exact ⟨other :: others, .more rest blank last, by simp [shape, shapes],
      by rw [keysOfAll, names, moreNames, List.map_append]⟩

-- Every rule of the grammar joins the pieces of its parts, so the sites add up over a derivation.
mutual

theorem Fragment.exists_sites {consumed : Text} {policy : Policy}
    (derived : Fragment consumed policy) : ∃ sites, Sited consumed policy sites := by
  match derived with
  | @Fragment.leaf _ gap _ name _ blankIndent blankGap plain builds =>
    by_cases visible : name = .key ∧ gap = []
    · obtain ⟨rfl, rfl⟩ := visible
      exact ⟨_, sited_key blankIndent plain builds⟩
    · exact ⟨_, sited_leaf blankIndent blankGap plain builds visible⟩
  | .pair blankIndent blankGap inner builds =>
    obtain ⟨sites, sited⟩ := inner.exists_sites
    exact ⟨sites, sited_pair blankIndent blankGap inner.splits builds sited⟩
  | .thresh blankIndent blankGap single reads inner builds =>
    obtain ⟨sites, sited⟩ := inner.exists_sites
    exact ⟨sites, sited_thresh blankIndent blankGap single reads inner.splits builds sited⟩

theorem Fragments.exists_sites {consumed : Text} {items : List Policy}
    (derived : Fragments consumed items) : ∃ sites, SitedAll consumed items sites := by
  match derived with
  | .last first blank =>
    obtain ⟨sites, sited⟩ := first.exists_sites
    exact ⟨sites, sited_last first blank sited⟩
  | .more first blank others =>
    obtain ⟨sites, sited⟩ := first.exists_sites
    obtain ⟨more, later⟩ := others.exists_sites
    exact ⟨sites ++ more, sited_more first blank others.splits sited later⟩

end

theorem pieces_before {consumed gap : Text} {policy : Policy} (derived : Fragment consumed policy)
    (blank : Blank gap) : pieces (consumed ++ gap) = pieces consumed ++ outsides gap :=
  (derived.splits.append (splits_blank blank)).pieces_eq

def Presents (s : Text) (policy : Policy) (sites : List KeySite) : Prop :=
  ∃ consumed gap, s = consumed ++ gap ∧ Blank gap ∧ Fragment consumed policy ∧
    Sited consumed policy sites

theorem exists_presents_of_read {s : Text} {policy : Policy} (reads : read s = .ok policy) :
    ∃ sites, Presents s policy sites := by
  obtain ⟨consumed, gap, split, derived, blank⟩ := read_eq_ok_iff.mp reads
  obtain ⟨sites, sited⟩ := derived.exists_sites
  exact ⟨sites, consumed, gap, split, blank, derived, sited⟩

namespace Presents

variable {s : Text} {policy : Policy} {sites : List KeySite}

theorem read_eq (presents : Presents s policy sites) : read s = .ok policy := by
  obtain ⟨consumed, gap, split, blank, derived, _⟩ := presents
  exact read_eq_ok_iff.mpr ⟨consumed, gap, split, derived, blank⟩

theorem hasSites (presents : Presents s policy sites) : HasSites s policy.keys sites := by
  obtain ⟨consumed, gap, rfl, blank, derived, sited⟩ := presents
  refine ⟨?_, ?_, sited.names⟩
  · rw [pieces_before derived blank, written_append, written_outsides, List.append_nil, sited.written]
  · obtain ⟨start, rfl⟩ := derived.closes
    rw [← sited.spaced, List.append_assoc, List.singleton_append,
      spacedKeys_append (by decide) (by decide) (by decide),
      spacedKeys_eq_zero (.inl (blank.notMem (show isBlank 'k' = false by decide))), Nat.add_zero]

theorem exists_read_rewritten (presents : Presents s policy sites) {f : Text → Text}
    (argument : ∀ content ∈ written (pieces s), IsArgument (f content)) :
    ∃ other, read (Extraction.rewritten f (pieces s)) = .ok other ∧ other.shape = policy.shape ∧
      other.keys = sites.map (KeySite.nameBy f) := by
  obtain ⟨consumed, gap, rfl, blank, derived, sited⟩ := presents
  rw [pieces_before derived blank, written_append, written_outsides, List.append_nil] at argument
  obtain ⟨other, rest, shape, names⟩ := sited.rewritten f argument
  refine ⟨other, read_eq_ok_iff.mpr ⟨_, gap, ?_, rest, blank⟩, shape, names⟩
  rw [pieces_before derived blank, rewritten_append, rewritten_outsides]

end Presents

def Found (consumed : Text) (names : List Text) : Prop :=
  ((written (pieces consumed)).map Text.trim).Sublist names ∧
    names.length = (written (pieces consumed)).length + spacedKeys consumed

theorem HasSites.found {s : Text} {names : List Text} {sites : List KeySite}
    (hasSites : HasSites s names sites) : Found s names := by
  rw [Found, hasSites.written, hasSites.spaced, hasSites.names]
  clear hasSites
  induction sites with
  | nil => simp
  | cons site sites ih =>
    obtain ⟨sublist, count⟩ := ih
    cases site with
    | visible content =>
      refine ⟨sublist.cons_cons _, ?_⟩
      simp only [List.map_cons, List.length_cons, List.filterMap_cons, KeySite.content?,
        List.countP_cons, KeySite.isHidden, count]
      simp
      omega
    | hidden name =>
      refine ⟨sublist.cons _, ?_⟩
      simp only [List.map_cons, List.length_cons, List.filterMap_cons, KeySite.content?,
        List.countP_cons, KeySite.isHidden, count]
      simp
      omega

theorem found_of_read {s : Text} {policy : Policy} (reads : read s = .ok policy) :
    Found s policy.keys := by
  obtain ⟨sites, presents⟩ := exists_presents_of_read reads
  exact presents.hasSites.found

theorem exists_read_rewritten {f : Text → Text} {s : Text} {policy : Policy}
    (reads : read s = .ok policy)
    (argument : ∀ content ∈ written (pieces s), IsArgument (f content)) :
    ∃ other, read (Extraction.rewritten f (pieces s)) = .ok other ∧
      other.keys.length = policy.keys.length := by
  obtain ⟨sites, presents⟩ := exists_presents_of_read reads
  obtain ⟨other, rest, shape, _⟩ := presents.exists_read_rewritten argument
  exact ⟨other, rest, length_keys_of_shape shape⟩

end SpendPolicy.Policy
