import SpendPolicy.Proofs.Policy.Language
import SpendPolicy.Proofs.Policy.Writing

set_option autoImplicit false

namespace SpendPolicy

namespace Policy

open Text (Blank)

def nest? (depth : Nat) : Char → Option Nat
  | '(' => some (depth + 1)
  | ')' => if 0 < depth then some (depth - 1) else none
  | ',' => if 0 < depth then some depth else none
  | _ => some depth

def depthAfter? (depth : Nat) (s : Text) : Option Nat :=
  s.foldlM nest? depth

def IsClosed (s : Text) : Prop :=
  depthAfter? 0 s = some 0

instance (s : Text) : Decidable (IsClosed s) :=
  inferInstanceAs (Decidable (depthAfter? 0 s = some 0))

section Depth

variable {c d : Char} {s t x y : Text} {depth after : Nat}

theorem depthAfter?_nil (depth : Nat) : depthAfter? depth [] = some depth :=
  rfl

theorem depthAfter?_cons (depth : Nat) (c : Char) (s : Text) :
    depthAfter? depth (c :: s) = (nest? depth c).bind fun next => depthAfter? next s :=
  List.foldlM_cons

theorem depthAfter?_append (depth : Nat) (s t : Text) :
    depthAfter? depth (s ++ t) = (depthAfter? depth s).bind fun next => depthAfter? next t :=
  List.foldlM_append

theorem nest?_raised (nests : nest? depth c = some after) : nest? (depth + 1) c = some (after + 1) := by
  unfold nest? at nests ⊢
  split at nests <;> grind

theorem depthAfter?_raised (reaches : depthAfter? depth s = some after) :
    depthAfter? (depth + 1) s = some (after + 1) := by
  induction s generalizing depth with
  | nil => simpa [depthAfter?_nil] using reaches
  | cons c s ih =>
    rw [depthAfter?_cons] at reaches ⊢
    obtain ⟨next, nests, reaches⟩ := Option.bind_eq_some_iff.mp reaches
    rw [nest?_raised nests]
    exact ih reaches

theorem depthAfter?_plain (plain : Plain s) (depth : Nat) : depthAfter? depth s = some depth := by
  induction s with
  | nil => rfl
  | cons c s ih =>
    simp only [Plain, List.mem_cons, not_or] at plain
    have stays : nest? depth c = some depth := by
      unfold nest?
      split <;> simp_all
    rw [depthAfter?_cons, stays]
    exact ih ⟨plain.1.2, plain.2.1.2, plain.2.2.2⟩

theorem depthAfter?_plain_append (plain : Plain s) (depth : Nat) (t : Text) :
    depthAfter? depth (s ++ t) = depthAfter? depth t := by
  rw [depthAfter?_append, depthAfter?_plain plain, Option.bind_some]

theorem IsClosed.append_plain (closed : IsClosed s) (plain : Plain t) : IsClosed (s ++ t) := by
  rw [IsClosed, depthAfter?_append, closed]
  exact depthAfter?_plain plain 0

theorem depthAfter?_closed_append (closed : IsClosed s) (t : Text) :
    depthAfter? 1 (s ++ t) = depthAfter? 1 t := by
  rw [depthAfter?_append, depthAfter?_raised closed, Option.bind_some]

theorem IsClosed.ne_append (closed : IsClosed x) (closed' : IsClosed y) (stops : nest? 0 c = none) :
    y ≠ x ++ c :: s := by
  rintro rfl
  rw [IsClosed, depthAfter?_append, closed, Option.bind_some, depthAfter?_cons, stops] at closed'
  cases closed'

theorem closed_unique (closed : IsClosed x) (closed' : IsClosed y) (stops : nest? 0 c = none)
    (stops' : nest? 0 d = none) (same : x ++ c :: s = y ++ d :: t) : x = y ∧ c = d ∧ s = t := by
  rcases List.append_eq_append_iff.mp same with ⟨more, whole, rest⟩ | ⟨more, whole, rest⟩
  · cases more with
    | nil =>
      cases rest
      exact ⟨by simpa using whole.symm, rfl, rfl⟩
    | cons e more =>
      cases rest
      exact absurd whole (closed.ne_append closed' stops)
  · cases more with
    | nil =>
      cases rest
      exact ⟨by simpa using whole, rfl, rfl⟩
    | cons e more =>
      cases rest
      exact absurd whole (closed'.ne_append closed stops')

end Depth

theorem Plain.between {before s after : Text} (plain : Plain s) (blankBefore : Blank before)
    (blankAfter : Blank after) : Plain (before ++ s ++ after) :=
  ((plain_of_blank blankBefore).append plain).append (plain_of_blank blankAfter)

theorem plain_of_trim {s : Text} (plain : Plain s.trim) : Plain s := by
  obtain ⟨before, after, blankBefore, blankAfter, split⟩ := Text.exists_gaps_trim s
  rw [split]
  exact plain.between blankBefore blankAfter

theorem plain_name (name : Name) : Plain name.text := by
  rcases name with (_ | _ | _ | algorithm) | (_ | _) | _ <;> try cases algorithm
  all_goals decide

theorem depthAfter?_opening {indent gap : Text} (name : Name) (blankIndent : Blank indent)
    (blankGap : Blank gap) (depth : Nat) (body : Text) :
    depthAfter? depth (indent ++ name.text ++ gap ++ '(' :: body) = depthAfter? (depth + 1) body := by
  rw [depthAfter?_plain_append ((plain_name name).between blankIndent blankGap)]
  rfl

theorem plain_number {s : Text} {value : Int} (single : ',' ∉ s) (reads : Numeral.read? s = some value) :
    Plain s := by
  obtain ⟨before, number, after, blankBefore, blankAfter, rfl, literal⟩ := number_iff.mp ⟨single, reads⟩
  have free : ∀ c ∈ ['(', ')', ','], c ∉ number := fun _ => literal.not_mem_of_delimiter
  have plain : Plain number := ⟨free _ (by decide), free _ (by decide), free _ (by decide)⟩
  exact plain.between blankBefore blankAfter

mutual

theorem Fragment.isClosed {s : Text} {policy : Policy} (derived : Fragment s policy) : IsClosed s := by
  match derived with
  | @Fragment.leaf _ _ argument name _ blankIndent blankGap plain builds =>
    have opened := depthAfter?_opening (.leaf name) blankIndent blankGap 0 (argument ++ [')'])
    exact opened.trans (depthAfter?_plain_append plain 1 [')'])
  | @Fragment.pair _ _ body name _ _ blankIndent blankGap inner builds =>
    have opened := depthAfter?_opening (.pair name) blankIndent blankGap 0 body
    exact opened.trans inner.closed
  | @Fragment.thresh _ _ number body _ _ _ blankIndent blankGap single reads inner builds =>
    have opened := depthAfter?_opening .thresh blankIndent blankGap 0 (number ++ ',' :: body)
    have counted := depthAfter?_plain_append (plain_number single reads) 1 (',' :: body)
    exact (opened.trans counted).trans inner.closed

theorem Fragments.closed {s : Text} {items : List Policy} (derived : Fragments s items) :
    depthAfter? 1 s = some 0 := by
  match derived with
  | .last first blank =>
    exact depthAfter?_closed_append (first.isClosed.append_plain (plain_of_blank blank)) [')']
  | @Fragments.more _ _ tail _ _ first blank others =>
    have here := first.isClosed.append_plain (plain_of_blank blank)
    exact (depthAfter?_closed_append here (',' :: tail)).trans others.closed

end

theorem closed_of_read {s : Text} {policy : Policy} (reads : read s = .ok policy) : IsClosed s := by
  obtain ⟨written, gap, rfl, derived, blank⟩ := read_eq_ok_iff.mp reads
  exact derived.isClosed.append_plain (plain_of_blank blank)

example : IsClosed "and(pk(a),pk(b))".toList ∧ ¬ IsClosed "pk(a),pk(b)".toList ∧
    ¬ IsClosed "or(pk(a)".toList := by
  decide

section Joined

variable {texts : List Text} {items : List Policy}

def FoundIn (texts : List Text) (items : List Policy) : Prop :=
  ∃ body rest, body ++ rest = Text.commaSeparated texts ++ [')'] ∧ Fragments body items

theorem FoundIn.reads (found : FoundIn texts items) (filled : texts ≠ [])
    (closed : ∀ s ∈ texts, IsClosed s) :
    List.Forall₂ (fun s item => read s = .ok item) texts items := by
  obtain ⟨body, rest, joined, derived⟩ := found
  induction texts generalizing body items with
  | nil => exact absurd rfl filled
  | cons s texts ih =>
    obtain ⟨here, later⟩ := List.forall_mem_cons.mp closed
    have first {head gap : Text} {policy : Policy} (derived : Fragment head policy) (blank : Blank gap) :
        read (head ++ gap) = .ok policy :=
      read_eq_ok_iff.mpr ⟨head, gap, rfl, derived, blank⟩
    match texts, derived with
    | [], .last derived blank =>
      have same := (closed_unique (closed_of_read (first derived blank)) here rfl rfl
        (by simpa [Text.commaSeparated] using joined)).1
      exact .cons (same ▸ first derived blank) .nil
    | [], .more derived blank others =>
      have mark := (closed_unique (closed_of_read (first derived blank)) here rfl rfl
        (by simpa [Text.commaSeparated] using joined)).2.1
      exact absurd mark (by decide)
    | t :: texts, .last derived blank =>
      rw [Text.commaSeparated_cons (by simp)] at joined
      have mark := (closed_unique (closed_of_read (first derived blank)) here rfl rfl
        (by simpa using joined)).2.1
      exact absurd mark (by decide)
    | t :: texts, .more derived blank others =>
      rw [Text.commaSeparated_cons (by simp)] at joined
      obtain ⟨same, _, joined⟩ := closed_unique (closed_of_read (first derived blank)) here rfl rfl
        (by simpa using joined)
      exact .cons (same ▸ first derived blank) (ih (by simp) later _ joined others)

theorem exists_yields_of_read {s : Text} {policy : Policy} (reads : read s = .ok policy) :
    ∃ rest, Yields (readOne s) policy rest := by
  obtain ⟨written, gap, rfl, derived, _⟩ := read_eq_ok_iff.mp reads
  exact ⟨gap, derived.yields gap⟩

theorem opens_call (name : Name) (texts : List Text) :
    Opens (Form.call name.text texts) name (Text.commaSeparated texts ++ [')']) :=
  opens_iff.mpr ⟨[], [], Text.blank_nil, Text.blank_nil, by simp [Form.call_eq]⟩

theorem found_of_yields {rest : Text}
    (yields : Yields (readMany (Text.commaSeparated texts ++ [')'])) items rest) :
    FoundIn texts items := by
  obtain ⟨body, split, derived⟩ := fragments_of_yields yields
  exact ⟨body, rest, split.symm, derived⟩

theorem exists_found_of_pair {name : PairName} {policy : Policy}
    (reads : read (Form.call name.text texts) = .ok policy) :
    ∃ items, FoundIn texts items ∧ name.build items = .ok policy := by
  obtain ⟨rest, yields⟩ := exists_yields_of_read reads
  obtain ⟨items, many, builds⟩ := (readOne_pair_iff (opens_call (.pair name) texts)).mp yields
  exact ⟨items, found_of_yields many, builds⟩

theorem exists_found_of_thresh {required : Nat} {policy : Policy} (filled : texts ≠ [])
    (reads : read (Form.thresh required texts) = .ok policy) :
    ∃ items, FoundIn texts items ∧ ofThresh required items = .ok policy := by
  obtain ⟨rest, yields⟩ := exists_yields_of_read reads
  obtain ⟨value, list, items, number, many, builds⟩ :=
    (readOne_thresh_iff (opens_call .thresh (Numeral.ofInt required :: texts))).mp yields
  obtain ⟨digits, start, single, found⟩ := readNumber_yields_iff.mp number
  rw [Text.commaSeparated_cons filled, List.append_assoc, List.cons_append] at start
  have cut := Text.cut?_append (plain_ofNat required).2.2 (Text.commaSeparated texts ++ [')'])
  have same := cut.symm.trans ((congrArg (Text.cut? ',') start).trans (Text.cut?_append single list))
  cases same
  rw [Numeral.eq_of_read?_ofNat found] at builds
  exact ⟨items, found_of_yields many, builds⟩

end Joined

section Meaning

variable {s t name : Text} {policy left right : Policy} {texts : List Text} {items : List Policy}

theorem depthAfter?_commaSeparated (closed : ∀ s ∈ texts, IsClosed s) (rest : Text) :
    depthAfter? 1 (Text.commaSeparated texts ++ rest) = depthAfter? 1 rest := by
  induction texts with
  | nil => rfl
  | cons s texts ih =>
    obtain ⟨here, later⟩ := List.forall_mem_cons.mp closed
    match texts, ih with
    | [], _ => simpa [Text.commaSeparated] using depthAfter?_closed_append here rest
    | t :: texts, ih =>
      rw [Text.commaSeparated_cons (by simp), List.append_assoc, depthAfter?_closed_append here]
      exact ih later

theorem isClosed_call (name : Name) (closed : ∀ s ∈ texts, IsClosed s) :
    IsClosed (Form.call name.text texts) := by
  have opened := depthAfter?_opening name Text.blank_nil Text.blank_nil 0
    (Text.commaSeparated texts ++ [')'])
  rw [List.nil_append, List.append_nil, ← Form.call_eq, depthAfter?_commaSeparated closed] at opened
  exact opened

structure MeansOnly (s : Text) (policy : Policy) : Prop where
  closed : IsClosed s
  only : ∀ other, read s = .ok other → other = policy

theorem meansOnly_of_read (reads : read s = .ok policy) : MeansOnly s policy where
  closed := closed_of_read reads
  only _ found := Except.ok.inj (found.symm.trans reads)

theorem meansOnly_key (plain : Plain name) : MeansOnly (Form.key name) (.key name.trim) where
  closed := isClosed_call (.leaf .key) (List.forall_mem_singleton.mpr (depthAfter?_plain plain 0))
  only _ reads := by
    obtain ⟨rest, yields⟩ := exists_yields_of_read reads
    obtain ⟨argument, split, inner, builds⟩ :=
      readLeaf_yields_iff.mp ((readOne_leaf_iff (opens_call (.leaf .key) [name])).mp yields)
    have cut := Text.cut?_append plain.2.1 []
    rw [show name ++ [')'] = argument ++ ')' :: rest by simpa [Text.commaSeparated] using split,
      Text.cut?_append inner.2.1] at cut
    cases cut
    simp only [LeafName.build, built_eq_ok_iff, ofKey] at builds
    split at builds
    · cases builds
    · cases builds
      rfl

theorem meansOnly_pair (name : PairName) (first : MeansOnly s left) (second : MeansOnly t right) :
    MeansOnly (Form.call name.text [s, t]) (name.join left right) := by
  have closed : ∀ text ∈ [s, t], IsClosed text := by
    simpa using ⟨first.closed, second.closed⟩
  refine ⟨isClosed_call (.pair name) closed, fun other reads => ?_⟩
  obtain ⟨items, found, builds⟩ := exists_found_of_pair reads
  obtain ⟨here, there, rfl, rfl⟩ := pairBuild_eq_ok_iff.mp builds
  cases found.reads (by simp) closed with
  | cons readsHere rest =>
    cases rest with
    | cons readsThere _ => rw [first.only here readsHere, second.only there readsThere]

theorem items_eq_of_meansOnly {others : List Policy} (each : List.Forall₂ MeansOnly texts items)
    (reads : List.Forall₂ (fun s item => read s = .ok item) texts others) : others = items := by
  induction each generalizing others with
  | nil =>
    cases reads
    rfl
  | cons means _ ih =>
    cases reads with
    | cons here later => rw [means.only _ here, ih later]

theorem meansOnly_thresh {required : Nat} (filled : texts ≠ [])
    (each : List.Forall₂ MeansOnly texts items) :
    MeansOnly (Form.thresh required texts) (.thresh required items) := by
  have closed : ∀ s ∈ texts, IsClosed s :=
    ((List.forall₂_and_left _ _).mp (each.imp fun _ _ means => ⟨means.closed, means⟩)).1
  have number : IsClosed (Numeral.ofInt required) := depthAfter?_plain (plain_ofNat required) 0
  refine ⟨isClosed_call .thresh (List.forall_mem_cons.mpr ⟨number, closed⟩), fun other reads => ?_⟩
  obtain ⟨others, found, builds⟩ := exists_found_of_thresh filled reads
  obtain ⟨count, same, _, _, rfl⟩ := ofThresh_eq_ok_iff.mp builds
  cases Int.ofNat_inj.mp same
  rw [items_eq_of_meansOnly each (found.reads filled closed)]

end Meaning

end Policy

end SpendPolicy
