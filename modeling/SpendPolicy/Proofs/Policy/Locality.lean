import Mathlib.Order.WellFounded
import SpendPolicy.Proofs.Policy.KeySites

set_option autoImplicit false

namespace SpendPolicy.Policy

inductive Reading where
  | one (s : Text)
  | many (s : Text)

namespace Reading

def size : Reading → Nat
  | one s => 2 * s.length
  | many s => 2 * s.length + 1

inductive Calls : Reading → Reading → Prop
  | pair {s body : Text} {name : PairName} (opens : Opens s (.pair name) body) :
      Calls (many body) (one s)
  | thresh {s body list : Text} {required : Int} (opens : Opens s .thresh body)
      (number : Yields (readNumber body) required list) : Calls (many list) (one s)
  | first {s : Text} : Calls (one s) (many s)
  | next {s left tail : Text} {item : Policy} (read : Yields (readOne s) item left)
      (comma : left.trimLeft = ',' :: tail) : Calls (many tail) (many s)

end Reading

theorem Opens.length_lt {s body : Text} {name : Name} (opens : Opens s name body) :
    body.length < s.length := by
  obtain ⟨_, cut, _⟩ := opens
  exact length_body_lt cut

theorem Yields.length_lt {s rest : Text} {α : Type} {value : α} {result : Except Malformed (α × Rest s)}
    (yields : Yields result value rest) : rest.length < s.length := by
  obtain ⟨shorter, _, rfl⟩ := yields_iff.mp yields
  exact shorter.2

namespace Reading

theorem size_lt_of_calls {callee caller : Reading} (calls : Calls callee caller) :
    callee.size < caller.size := by
  cases calls with
  | pair opens =>
    have shorter := opens.length_lt
    simp only [size]
    omega
  | thresh opens number =>
    have shorter := opens.length_lt
    have within := number.length_lt
    simp only [size]
    omega
  | first => exact Nat.lt_succ_self _
  | @next s left tail item read comma =>
    have shorter := read.length_lt
    have trimmed := Text.length_trimLeft_le left
    rw [comma, List.length_cons] at trimmed
    simp only [size]
    omega

theorem calls_wellFounded : WellFounded Calls :=
  (InvImage.wf size wellFounded_lt).mono fun _ _ => size_lt_of_calls

end Reading

theorem readMany_yields_iff {s rest : Text} {items : List Policy} :
    Yields (readMany s) items rest ↔ ∃ consumed, s = consumed ++ rest ∧ Fragments consumed items := by
  constructor
  · exact fragments_of_yields
  · rintro ⟨consumed, rfl, derived⟩
    exact derived.yields rest

/-- A fragment is read from a text exactly if a front of the text is read as it, whatever stands after the
front; a list of fragments besides ends with its parenthesis. There is no text on which the calls of the
readers go on forever. -/
theorem reading_local (s : Text) :
    (∀ policy rest, Yields (readOne s) policy rest ↔
      ∃ consumed, consumed ≠ [] ∧ s = consumed ++ rest ∧
        ∀ t, Yields (readOne (consumed ++ t)) policy t) ∧
    (∀ items rest, Yields (readMany s) items rest ↔
      ∃ consumed inner, consumed = inner ++ [')'] ∧ s = consumed ++ rest ∧
        ∀ t, Yields (readMany (consumed ++ t)) items t) ∧
    Acc Reading.Calls (.one s) ∧ Acc Reading.Calls (.many s) := by
  refine ⟨fun policy rest => ?_, fun items rest => ?_, Reading.calls_wellFounded.apply _,
    Reading.calls_wellFounded.apply _⟩
  · constructor
    · intro yields
      obtain ⟨consumed, split, derived⟩ := readOne_yields_iff.mp yields
      exact ⟨consumed, List.ne_nil_of_mem derived.opens, split, derived.yields⟩
    · rintro ⟨consumed, _, rfl, yields⟩
      exact yields rest
  · constructor
    · intro yields
      obtain ⟨consumed, split, derived⟩ := readMany_yields_iff.mp yields
      obtain ⟨inner, closes⟩ := derived.closes
      exact ⟨consumed, inner, closes, split, derived.yields⟩
    · rintro ⟨consumed, _, _, rfl, yields⟩
      exact yields rest

end SpendPolicy.Policy
