import SpendPolicy.Proofs.Key.Acceptance

set_option autoImplicit false

namespace SpendPolicy

namespace Hex

theorem isDigit_toLower {c : Char} (digit : isDigit c = true) : isDigit c.toLower = true := by
  have lowered : ∀ d ∈ digits, d.toLower = d := List.all_iff_forall_prop.mp (by decide)
  have listed : c.toLower ∈ digits := List.isSome_idxOf?.mp digit
  rwa [isDigit, digitValue?, lowered _ listed]

theorem isHex_lower {s : Text} (hex : isHex s = true) : isHex s.lower = true := by
  simp only [isHex, Bool.and_eq_true, List.all_eq_true, Bool.not_eq_true', List.isEmpty_eq_false_iff]
    at hex ⊢
  refine ⟨by simpa [Text.lower] using hex.1, fun c member => ?_⟩
  obtain ⟨d, inside, rfl⟩ := List.mem_map.mp member
  exact isDigit_toLower (hex.2 d inside)

end Hex

namespace Key

variable {s a b : Text} {form form' : KeyForm}

def normal (s : Text) : Text :=
  if isCompressed s then s.lower else s.trimRight

def IsExtended (s : Text) : Prop :=
  ∃ kind network, classify s = .ok (.extended kind network)

def Same (a b : Text) : Prop :=
  a = b ∨ (isCompressed a = true ∧ isCompressed b = true ∧ a.lower = b.lower) ∨
    (IsExtended a ∧ IsExtended b ∧ a.trimRight = b.trimRight)

def Apart (keys : List Text) : Prop :=
  keys.Pairwise fun a b => ¬ Same a b

theorem isCompressed_lower (compressed : isCompressed s = true) : isCompressed s.lower = true := by
  simp only [isCompressed, Bool.and_eq_true, Bool.or_eq_true, beq_iff_eq] at compressed ⊢
  obtain ⟨⟨hex, length⟩, mark⟩ := compressed
  refine ⟨⟨Hex.isHex_lower hex, by simpa [Text.lower] using length⟩, ?_⟩
  rw [Text.lower, ← List.map_take]
  exact mark.imp (fun even => by rw [even]; rfl) fun odd => by rw [odd]; rfl

theorem classify_compressed (compressed : isCompressed s = true) : classify s = .ok .compressed := by
  rw [classify, if_pos compressed]

theorem extended_of_classify? (accepted : ExtendedKey.classify? s = some (.ok form)) :
    ∃ kind network, form = .extended kind network := by
  obtain ⟨e, cut, rfl⟩ := KeyExpression.exists_cut s
  obtain ⟨kind, network, same, _⟩ := (ExtendedKey.classify?_eq_ok_iff cut).mp accepted
  exact ⟨kind, network, same⟩

theorem isCompressed_of_classify (accepted : classify s = .ok .compressed) : isCompressed s = true := by
  unfold classify at accepted
  split at accepted
  · next compressed => exact compressed
  · split at accepted
    · cases accepted
    · split at accepted
      · cases accepted
      · rcases found : ExtendedKey.classify? s with _ | answer
        · simp [found] at accepted
        · rw [found, Option.getD_some] at accepted
          obtain ⟨kind, network, other⟩ := extended_of_classify? (found.trans (congrArg some accepted))
          cases other

theorem IsExtended.not_compressed (extended : IsExtended s) : isCompressed s = false := by
  obtain ⟨kind, network, classified⟩ := extended
  rw [Bool.eq_false_iff]
  intro compressed
  cases (classify_compressed compressed).symm.trans classified

theorem trim_eq_trimRight (accepted : classify s = .ok form) : s.trim = s.trimRight := by
  rcases accepted_cases accepted with ⟨solid, _⟩ | extended
  · rw [Text.trim_eq_of_visible fun c member => (solid c member).1, solid.trimRight]
  · obtain ⟨e, cut, rfl⟩ := KeyExpression.exists_cut s
    obtain ⟨kind, network, _, accepts⟩ := (ExtendedKey.classify?_eq_ok_iff cut).mp extended
    have stays : e.text.trimLeft = e.text := by
      match found : e.text with
      | [] => rfl
      | c :: rest => exact Text.trimLeft_cons (accepts.head_visible c (by simp [found])) rest
    rw [Text.trim, stays]

theorem classify_normal (accepted : classify s = .ok form) : classify (normal s) = .ok form := by
  unfold normal
  split
  · next compressed =>
    rw [classify_compressed (isCompressed_lower compressed), ← accepted, classify_compressed compressed]
  · rw [← trim_eq_trimRight accepted]
    exact (classify_trim accepted).2.2

theorem normal_wif {network : Network} (accepted : classify s = .ok (.wif network)) : normal s = s := by
  have notCompressed : isCompressed s = false := by
    rw [Bool.eq_false_iff]
    intro compressed
    cases (classify_compressed compressed).symm.trans accepted
  rw [normal, notCompressed, if_neg Bool.false_ne_true]
  rcases accepted_cases accepted with ⟨solid, _⟩ | extended
  · exact solid.trimRight
  · obtain ⟨_, _, other⟩ := extended_of_classify? extended
    cases other

theorem normal_extended (extended : IsExtended s) : normal s = s.trimRight := by
  rw [normal, extended.not_compressed, if_neg Bool.false_ne_true]

theorem normal_trim (accepted : classify s = .ok form) : normal s.trim = normal s := by
  rcases accepted_cases accepted with ⟨solid, _⟩ | extended
  · rw [Text.trim_eq_of_visible fun c member => (solid c member).1]
  · obtain ⟨kind, network, rfl⟩ := extended_of_classify? extended
    have trimmed : IsExtended s.trim := ⟨kind, network, (classify_trim accepted).2.2⟩
    have whole : IsExtended s := ⟨kind, network, accepted⟩
    rw [normal_extended trimmed, normal_extended whole, trim_eq_trimRight accepted,
      Text.trimRight_trimRight]

theorem normal_eq_iff (accepted : classify a = .ok form) (accepted' : classify b = .ok form') :
    normal a = normal b ↔ Same a b := by
  constructor
  · intro same
    have forms := classify_normal accepted
    rw [same, classify_normal accepted', Except.ok.injEq] at forms
    subst forms
    cases form' with
    | compressed =>
      have first := isCompressed_of_classify accepted
      have second := isCompressed_of_classify accepted'
      rw [normal, normal, if_pos first, if_pos second] at same
      exact .inr (.inl ⟨first, second, same⟩)
    | wif network =>
      rw [normal_wif accepted, normal_wif accepted'] at same
      exact .inl same
    | extended kind network =>
      have first : IsExtended a := ⟨kind, network, accepted⟩
      have second : IsExtended b := ⟨kind, network, accepted'⟩
      rw [normal_extended first, normal_extended second] at same
      exact .inr (.inr ⟨first, second, same⟩)
  · rintro (rfl | ⟨first, second, same⟩ | ⟨first, second, same⟩)
    · rfl
    · rw [normal, normal, if_pos first, if_pos second, same]
    · rw [normal_extended first, normal_extended second, same]

theorem apart_iff_nodup {keys : List Text} (accepted : ∀ key ∈ keys, ∃ form, classify key = .ok form) :
    Apart keys ↔ (keys.map normal).Nodup := by
  rw [List.Nodup, List.pairwise_map]
  apply List.Pairwise.iff_of_mem
  intro a b first second
  obtain ⟨form, classified⟩ := accepted a first
  obtain ⟨form', classified'⟩ := accepted b second
  exact (not_congr (normal_eq_iff classified classified')).symm

end Key

end SpendPolicy
