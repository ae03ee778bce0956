import Mathlib.Data.Bool.AllAny
import SpendPolicy.Proofs.Descriptor.Symbols

set_option autoImplicit false

namespace SpendPolicy.DescriptorChecksum

theorem eq_of_window {α : Type} {xs ys : List α} {start width : Nat} (before : xs.take start = ys.take start)
    (within : (xs.drop start).take width = (ys.drop start).take width)
    (after : xs.drop (start + width) = ys.drop (start + width)) : xs = ys := by
  rw [← List.take_append_drop start xs, ← List.take_append_drop width (xs.drop start), List.drop_drop, before,
    within, after, ← List.drop_drop, List.take_append_drop, List.take_append_drop]

theorem stream_split {start : Nat} (whole : 3 ∣ start) (ps : List Nat) :
    stream ps = symbols (ps.take start) ++ symbols ((ps.drop start).take 6) ++ stream (ps.drop (start + 6)) := by
  have two : 3 ∣ 6 := by decide
  rw [stream, symbols_split whole, symbols_split two (ps.drop start), List.drop_drop, stream]
  simp only [List.append_assoc]

theorem eq_of_remainder {ps qs : List Nat} {start : Nat} (whole : 3 ∣ start) (length : ps.length = qs.length)
    (small : ∀ p ∈ ps, p < 96) (small' : ∀ q ∈ qs, q < 96) (before : ps.take start = qs.take start)
    (after : ps.drop (start + 6) = qs.drop (start + 6))
    (same : remainder 1 (stream ps) = remainder 1 (stream qs)) : ps = qs := by
  have within (rs : List Nat) (p : Nat) (member : p ∈ (rs.drop start).take 6) : p ∈ rs :=
    List.mem_of_mem_drop (List.mem_of_mem_take member)
  have width : ((ps.drop start).take 6).length = ((qs.drop start).take 6).length := by simp [length]
  have few : (symbols ((ps.drop start).take 6)).length ≤ 8 := by
    rw [length_symbols, List.length_take]
    omega
  have symbolsLt := stream_lt small
  have symbolsLt' := stream_lt small'
  rw [stream_split whole] at symbolsLt symbolsLt'
  rw [stream_split whole ps, stream_split whole qs, ← before, ← after] at same
  rw [← before, ← after] at symbolsLt'
  have burst := remainder_burst (by decide) (by rw [length_symbols, length_symbols, width]) few symbolsLt
    symbolsLt' same
  have middle : (ps.drop start).take 6 = (qs.drop start).take 6 :=
    symbols_injective width (fun p member => small p (within ps p member))
      (fun q member => small' q (within qs q member)) burst
  exact eq_of_window before middle after

theorem local_error_detected {s t : Text} {start : Nat} (known : ∀ c ∈ s, c ∈ inputCharset)
    (known' : ∀ c ∈ t, c ∈ inputCharset) (length : s.length = t.length) (differ : s ≠ t)
    (before : s.take start = t.take start) (after : s.drop (start + 4) = t.drop (start + 4)) :
    ∃ checksum other, compute s = .ok checksum ∧ compute t = .ok other ∧ checksum ≠ other := by
  refine ⟨_, _, compute_eq known, compute_eq known', fun rendered => differ ?_⟩
  have states := render_injective (Nat.xor_lt_two_pow (residue_lt known) (by decide))
    (Nat.xor_lt_two_pow (residue_lt known') (by decide)) rendered
  -- The window lies in the group that holds its start and in the next one.
  have here : start / 3 * 3 ≤ start := Nat.div_mul_le_self start 3
  have there : start + 4 + (start / 3 * 3 + 6 - (start + 4)) = start / 3 * 3 + 6 := by omega
  have before' : s.take (start / 3 * 3) = t.take (start / 3 * 3) := by
    rw [← Nat.min_eq_left here, ← List.take_take, before, List.take_take]
  have after' : s.drop (start / 3 * 3 + 6) = t.drop (start / 3 * 3 + 6) := by
    rw [← there, ← List.drop_drop, after, List.drop_drop]
  apply map_position_injective known
  apply eq_of_remainder (Nat.dvd_mul_left 3 (start / 3)) (by simpa using length) (forall_position_lt known)
    (forall_position_lt known')
  · rw [← List.map_take, ← List.map_take, before']
  · rw [← List.map_drop, ← List.map_drop, after']
  · exact Nat.xor_left_inj.mp states

theorem local_error_detected_transposed :
    let s := "wsh(pk(key1))".toList
    let t := "wsh(kp(key1))".toList
    (s.length = t.length ∧ s ≠ t ∧ s.take 4 = t.take 4 ∧ s.drop 8 = t.drop 8) ∧
      ∃ checksum other, compute s = .ok checksum ∧ compute t = .ok other ∧ checksum ≠ other := by
  intro s t
  have window : s.length = t.length ∧ s ≠ t ∧ s.take 4 = t.take 4 ∧ s.drop 8 = t.drop 8 := by
    decide +kernel
  obtain ⟨length, differ, before, after⟩ := window
  have known : ∀ c ∈ s, c ∈ inputCharset := List.all_iff_forall_prop.mp (by decide +kernel)
  have known' : ∀ c ∈ t, c ∈ inputCharset := List.all_iff_forall_prop.mp (by decide +kernel)
  exact ⟨⟨length, differ, before, after⟩, local_error_detected known known' length differ before after⟩

end SpendPolicy.DescriptorChecksum
