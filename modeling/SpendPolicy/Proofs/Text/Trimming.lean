import SpendPolicy.Text.Basic

set_option autoImplicit false

namespace SpendPolicy.Text

def Blank (s : Text) : Prop :=
  ∀ c ∈ s, isBlank c = true

instance (s : Text) : Decidable (Blank s) :=
  decidable_of_iff (s.all isBlank) List.all_eq_true

def blankCodes : List Nat :=
  [9, 10, 11, 12, 13, 28, 29, 30, 31, 32, 133, 160, 5760, 8192, 8193, 8194, 8195, 8196, 8197, 8198,
    8199, 8200, 8201, 8202, 8232, 8233, 8239, 8287, 12288]

theorem forall_blank {p : Char → Prop} (each : ∀ n ∈ blankCodes, p (Char.ofNat n)) {c : Char}
    (blank : isBlank c = true) : p c := by
  have member : c.toNat ∈ blankCodes := by
    simp [isBlank, blanks, CharClass.contains, CharClass.containsCode] at blank
    simp only [blankCodes, List.mem_cons, List.not_mem_nil, or_false]
    omega
  simpa using each c.toNat member

theorem blank_nil : Blank [] := by
  simp [Blank]

theorem Blank.append {s t : Text} (left : Blank s) (right : Blank t) : Blank (s ++ t) := by
  intro c member
  rcases List.mem_append.mp member with inside | inside
  · exact left c inside
  · exact right c inside

theorem Blank.notMem {s : Text} (blank : Blank s) {c : Char} (visible : isBlank c = false) :
    c ∉ s := by
  intro member
  simp [blank c member] at visible

theorem trimLeft_blank_append {gap : Text} (blank : Blank gap) (s : Text) :
    trimLeft (gap ++ s) = trimLeft s := by
  induction gap with
  | nil => rfl
  | cons c gap ih =>
    have head : isBlank c = true := blank c (by simp)
    have tail : Blank gap := fun d member => blank d (by simp [member])
    simp only [trimLeft] at ih
    simp [trimLeft, head, ih tail]

theorem trimLeft_cons {c : Char} (visible : isBlank c = false) (s : Text) :
    trimLeft (c :: s) = c :: s := by
  simp [trimLeft, visible]

theorem exists_gap_trimLeft (s : Text) : ∃ gap, Blank gap ∧ s = gap ++ trimLeft s :=
  ⟨s.takeWhile isBlank, List.all_eq_true.mp List.all_takeWhile,
    List.takeWhile_append_dropWhile.symm⟩

theorem blank_reverse {s : Text} (blank : Blank s) : Blank s.reverse := by
  intro c member
  exact blank c (List.mem_reverse.mp member)

theorem trimRight_eq (s : Text) : trimRight s = (trimLeft s.reverse).reverse :=
  rfl

theorem trimRight_append_blank {gap : Text} (blank : Blank gap) (s : Text) :
    trimRight (s ++ gap) = trimRight s := by
  rw [trimRight_eq, List.reverse_append, trimLeft_blank_append (blank_reverse blank), trimRight_eq]

theorem exists_gap_trimRight (s : Text) : ∃ gap, Blank gap ∧ s = trimRight s ++ gap := by
  obtain ⟨gap, blank, split⟩ := exists_gap_trimLeft s.reverse
  refine ⟨gap.reverse, blank_reverse blank, ?_⟩
  rw [trimRight_eq, ← List.reverse_append, ← split, List.reverse_reverse]

theorem exists_gaps_trim (s : Text) :
    ∃ before after, Blank before ∧ Blank after ∧ s = before ++ trim s ++ after := by
  obtain ⟨before, blankBefore, left⟩ := exists_gap_trimLeft s
  obtain ⟨after, blankAfter, right⟩ := exists_gap_trimRight (trimLeft s)
  exact ⟨before, after, blankBefore, blankAfter, by rw [List.append_assoc, trim, ← right, ← left]⟩

theorem trim_eq_nil_iff (s : Text) : trim s = [] ↔ Blank s := by
  constructor
  · intro empty
    obtain ⟨before, after, blankBefore, blankAfter, split⟩ := exists_gaps_trim s
    rw [split, empty, List.append_nil]
    exact blankBefore.append blankAfter
  · intro blank
    have left : trimLeft s = [] := by
      simpa [trimLeft] using trimLeft_blank_append blank []
    simp [trim, left, trimRight]

theorem trimLeft_append {s : Text} (visible : trimLeft s ≠ []) (t : Text) :
    trimLeft (s ++ t) = trimLeft s ++ t := by
  obtain ⟨gap, blank, split⟩ := exists_gap_trimLeft s
  match rest : trimLeft s, visible with
  | c :: tail, _ =>
    have head : isBlank c = false := by
      have := List.head?_dropWhile_not isBlank s
      simpa [← trimLeft.eq_1, rest] using this
    have again : trimLeft ((c :: tail) ++ t) = (c :: tail) ++ t := trimLeft_cons head _
    rw [rest] at split
    rw [split, List.append_assoc, trimLeft_blank_append blank, again]

theorem trim_gaps {before after : Text} (blankBefore : Blank before) (blankAfter : Blank after)
    (s : Text) : trim (before ++ s ++ after) = trim s := by
  rw [trim, List.append_assoc, trimLeft_blank_append blankBefore]
  by_cases empty : trimLeft s = []
  · have blank : Blank s := by
      obtain ⟨gap, blank, split⟩ := exists_gap_trimLeft s
      rw [split, empty, List.append_nil]
      exact blank
    rw [trimLeft_blank_append blank, trim, empty]
    exact (trim_eq_nil_iff after).mpr blankAfter
  · rw [trimLeft_append empty, trimRight_append_blank blankAfter, trim]

theorem trim_trim (s : Text) : trim (trim s) = trim s := by
  obtain ⟨before, after, blankBefore, blankAfter, split⟩ := exists_gaps_trim s
  have inner := trim_gaps blankBefore blankAfter (trim s)
  rw [← split] at inner
  exact inner.symm

theorem trimRight_trimRight (s : Text) : trimRight (trimRight s) = trimRight s := by
  obtain ⟨gap, blank, split⟩ := exists_gap_trimRight s
  have again := trimRight_append_blank blank (trimRight s)
  rwa [← split, eq_comm] at again

theorem trim_subset (s : Text) : ∀ c ∈ trim s, c ∈ s := by
  intro c member
  obtain ⟨before, after, _, _, split⟩ := exists_gaps_trim s
  rw [split]
  simp [member]

theorem trim_eq_of_visible {s : Text} (visible : ∀ c ∈ s, isBlank c = false) : trim s = s := by
  obtain ⟨before, after, blankBefore, blankAfter, split⟩ := exists_gaps_trim s
  have outer {gap : Text} (blank : Blank gap) (inside : ∀ c ∈ gap, c ∈ s) : gap = [] := by
    apply List.eq_nil_iff_forall_not_mem.mpr
    intro c member
    have := blank c member
    simp [visible c (inside c member)] at this
  have first : before = [] := outer blankBefore fun c member => by rw [split]; simp [member]
  have last : after = [] := outer blankAfter fun c member => by rw [split]; simp [member]
  rw [first, last, List.nil_append, List.append_nil] at split
  exact split.symm

theorem trim_eq_of_ends {s : Text} (first : ∀ c ∈ s.head?, isBlank c = false)
    (last : ∀ c ∈ s.getLast?, isBlank c = false) : trim s = s := by
  have stays {t : Text} (visible : ∀ c ∈ t.head?, isBlank c = false) : trimLeft t = t := by
    cases t with
    | nil => rfl
    | cons c t => exact trimLeft_cons (visible c rfl) t
  rw [trim, stays first, trimRight_eq, stays (by simpa using last), List.reverse_reverse]

theorem cut?_eq_some_iff {mark : Char} {s before after : Text} :
    cut? mark s = some (before, after) ↔ s = before ++ mark :: after ∧ mark ∉ before := by
  induction s generalizing before with
  | nil => simp [cut?]
  | cons c s ih =>
    by_cases same : c = mark
    · cases before with
      | nil => simp [cut?, same]
      | cons d before =>
        have other (first : mark = d) : d = mark := first.symm
        simp only [cut?, same, if_true, List.cons_append, List.cons.injEq, List.mem_cons]
        grind
    · cases before with
      | nil => simp [cut?, same]
      | cons d before =>
        simp only [cut?, same, if_false, Option.map_eq_some_iff, Prod.mk.injEq, Prod.exists,
          List.cons.injEq, List.cons_append, List.mem_cons]
        constructor
        · rintro ⟨part, rest, found, ⟨rfl, rfl⟩, rfl⟩
          obtain ⟨split, absent⟩ := ih.mp found
          exact ⟨⟨rfl, split⟩, by grind⟩
        · rintro ⟨⟨rfl, split⟩, absent⟩
          exact ⟨before, after, ih.mpr ⟨split, by grind⟩, ⟨rfl, rfl⟩, rfl⟩

theorem cut?_append {mark : Char} {before : Text} (absent : mark ∉ before) (after : Text) :
    cut? mark (before ++ mark :: after) = some (before, after) :=
  cut?_eq_some_iff.mpr ⟨rfl, absent⟩

theorem parts_ne_nil (mark : Char) (s : Text) : parts mark s ≠ [] := by
  cases s with
  | nil => simp [parts]
  | cons c s =>
    unfold parts
    split
    · simp
    · split <;> simp

theorem parts_eq_singleton_iff {mark : Char} {s part : Text} :
    parts mark s = [part] ↔ s = part ∧ mark ∉ s := by
  induction s generalizing part with
  | nil => simp [parts, eq_comm]
  | cons c s ih =>
    by_cases same : c = mark
    · simp [parts, same, parts_ne_nil]
    · unfold parts
      simp only [same, if_false]
      split
      · next none => exact absurd none (parts_ne_nil mark s)
      · next first rest found =>
        constructor
        · intro single
          simp only [List.cons.injEq] at single
          obtain ⟨split, absent⟩ := ih.mp (found.trans (by rw [single.2]))
          exact ⟨by rw [← single.1, split], by simp [absent, Ne.symm same]⟩
        · rintro ⟨rfl, absent⟩
          have alone : parts mark s = [s] := ih.mpr ⟨rfl, fun member => absent (by simp [member])⟩
          rw [alone] at found
          simp only [List.cons.injEq] at found
          rw [← found.1, ← found.2]

theorem commaSeparated_cons {part : Text} {parts : List Text} (filled : parts ≠ []) :
    commaSeparated (part :: parts) = part ++ ',' :: commaSeparated parts := by
  match parts with
  | other :: parts => simp [commaSeparated, List.intercalate]

end SpendPolicy.Text
