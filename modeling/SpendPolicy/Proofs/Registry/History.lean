import Mathlib.Data.List.DropRight
import SpendPolicy.Proofs.Registry.Freshness

set_option autoImplicit false

namespace SpendPolicy.Registry

abbrev Exchange := Call × Except RegistryError Reply

namespace Exchange

def created? : Exchange → Option Entry
  | (.addConfigured _ _ _, .ok (.entry e)) | (.addText _ _, .ok (.entry e))
  | (.compose _ _ _, .ok (.entry e)) | (.composeNamed _ _ _, .ok (.entry e)) => some e
  | _ => none

def composes : Exchange → Bool
  | (.compose _ _ _, .ok _) | (.composeNamed _ _ _, .ok _) => true
  | _ => false

def toggles (id : Text) : Exchange → Bool
  | (.toggle other, .ok _) => other = id
  | _ => false

def removes (id : Text) : Exchange → Bool
  | (.remove other, .ok _) => other = id
  | _ => false

end Exchange

structure Creation where
  entry : Entry
  later : List Exchange

namespace Creation

def stands (c : Creation) : Bool :=
  !c.later.any (Exchange.removes c.entry.id)

def toggles (c : Creation) : Nat :=
  (c.later.rtakeWhile fun x => !x.composes).countP (Exchange.toggles c.entry.id)

def current (c : Creation) : Entry :=
  c.entry.withSelection (decide (c.toggles % 2 = 1))

end Creation

def creations : List Exchange → List Creation
  | [] => []
  | x :: later => (x.created?.map fun e => ⟨e, later⟩).toList ++ creations later

def log (exchanges : List Exchange) : List Entry :=
  ((creations exchanges).filter Creation.stands).map Creation.current

def answer (v : Validator) (r : Registry) (call : Call) : Except RegistryError Reply :=
  (r.perform v call).map Prod.fst

def historyFrom (v : Validator) (r : Registry) : List Call → List Exchange
  | [] => []
  | call :: calls => (call, r.answer v call) :: historyFrom v (r.next v call) calls

def history (v : Validator) (calls : List Call) : List Exchange :=
  historyFrom v empty calls

variable {v : Validator} {e : Entry} {entries after : List Entry} {call : Call} {reply : Reply}
  {x : Exchange}

theorem historyFrom_append (v : Validator) (r : Registry) (calls : List Call) (call : Call) :
    historyFrom v r (calls ++ [call]) =
      historyFrom v r calls ++ [(call, (calls.foldl (next v) r).answer v call)] := by
  induction calls generalizing r with
  | nil => rfl
  | cons first calls ih => simp [historyFrom, ih]

section Log

def Exchange.reselect (x : Exchange) (e : Entry) : Entry :=
  e.withSelection (!x.composes && (e.selected ^^ x.toggles e.id))

def Exchange.apply (x : Exchange) (entries : List Entry) : List Entry :=
  (entries.filter fun e => !x.removes e.id).map x.reselect ++
    (x.created?.map (Entry.withSelection false)).toList

def Creation.followedBy (x : Exchange) (c : Creation) : Creation :=
  ⟨c.entry, c.later ++ [x]⟩

@[simp] theorem Creation.id_current (c : Creation) : c.current.id = c.entry.id :=
  Entry.id_withSelection _ _

theorem creations_append (exchanges : List Exchange) (x : Exchange) :
    creations (exchanges ++ [x]) = (creations exchanges).map (Creation.followedBy x) ++
      (x.created?.map fun e => ⟨e, []⟩).toList := by
  induction exchanges with
  | nil => simp [creations]
  | cons first later ih =>
    simp only [List.cons_append, creations, ih, List.map_append, List.append_assoc]
    cases first.created? <;> rfl

theorem Creation.stands_followedBy (x : Exchange) (c : Creation) :
    (c.followedBy x).stands = (c.stands && !x.removes c.entry.id) := by
  simp [stands, followedBy]

theorem Creation.current_followedBy (x : Exchange) (c : Creation) :
    (c.followedBy x).current = x.reselect c.current := by
  simp only [current, Exchange.reselect, Entry.withSelection_withSelection, Entry.selected_withSelection,
    Entry.id_withSelection]
  congr 1
  unfold toggles followedBy
  rw [List.rtakeWhile_concat]
  cases composes : x.composes with
  | true => rfl
  | false =>
    have parity (n : Nat) : decide ((n + 1) % 2 = 1) = !decide (n % 2 = 1) := by
      rcases Nat.mod_two_eq_zero_or_one n with even | odd
      · simp [Nat.add_mod, even]
      · simp [Nat.add_mod, odd]
    cases toggled : x.toggles c.entry.id with
    | true => simp [List.countP_append, toggled, parity]
    | false => simp [List.countP_append, toggled]

theorem log_append (exchanges : List Exchange) (x : Exchange) :
    log (exchanges ++ [x]) = x.apply (log exchanges) := by
  have made : ((x.created?.map fun e => (⟨e, []⟩ : Creation)).toList.filter Creation.stands).map
      Creation.current = (x.created?.map (Entry.withSelection false)).toList := by
    cases x.created? <;> rfl
  have kept : (((creations exchanges).map (Creation.followedBy x)).filter Creation.stands).map
      Creation.current = ((log exchanges).filter fun e => !x.removes e.id).map x.reselect := by
    simp only [log, List.filter_map, List.map_map, List.filter_filter, Function.comp_def,
      Creation.stands_followedBy, Creation.current_followedBy, Creation.id_current, Bool.and_comm]
  rw [log, creations_append, List.filter_append, List.map_append, kept, made, Exchange.apply]

theorem nodup_log {exchanges : List Exchange}
    (unique : ((creations exchanges).map fun c => c.entry.id).Nodup) :
    ((log exchanges).map Entry.id).Nodup := by
  simp only [log, List.map_map, Function.comp_def, Creation.id_current]
  exact unique.sublist (List.filter_sublist.map _)

end Log

section Step

theorem map_reselect_of_quiet (stays : x.composes = false) (same : ∀ id, x.toggles id = false)
    (entries : List Entry) : entries.map x.reselect = entries := by
  have unchanged : ∀ e ∈ entries, x.reselect e = e := by
    intro e _
    simp [Exchange.reselect, stays, same, Entry.withSelection_selected]
  exact (List.map_congr_left unchanged).trans (List.map_id' entries)

theorem apply_of_quiet (stays : x.composes = false) (same : ∀ id, x.toggles id = false)
    (all : ∀ id, x.removes id = false) (entries : List Entry) :
    x.apply entries = entries ++ (x.created?.map (Entry.withSelection false)).toList := by
  have kept : (entries.filter fun e => !x.removes e.id) = entries :=
    List.filter_eq_self.mpr fun e _ => by rw [all]; rfl
  rw [Exchange.apply, kept, map_reselect_of_quiet stays same]

theorem apply_error (call : Call) (cause : RegistryError) (entries : List Entry) :
    Exchange.apply (call, .error cause) entries = entries := by
  rw [apply_of_quiet] <;> cases call <;> simp [Exchange.composes, Exchange.toggles, Exchange.removes,
    Exchange.created?]

theorem id_ne_of_notMem {first : Entry} (absent : first.id ∉ entries.map Entry.id) :
    ∀ other ∈ entries, other.id ≠ first.id := by
  intro other member same
  exact absent (same ▸ List.mem_map_of_mem member)

theorem replaceIn_eq_map {f : Entry → Entry} {id : Text} (unique : (entries.map Entry.id).Nodup)
    (found : Finds entries id e) (own : (f e).id = e.id) :
    replaceIn (f e) entries = entries.map fun other => if other.id = id then f other else other := by
  have same := found.id_eq
  unfold Finds at found
  induction entries with
  | nil => rfl
  | cons first rest ih =>
    obtain ⟨absent, others⟩ := List.nodup_cons.mp unique
    unfold replaceIn
    by_cases here : first.id = id
    · have first_eq : first = e := by simpa [here] using found
      subst first_eq
      have apart : ∀ other ∈ rest, other.id ≠ id := here ▸ id_ne_of_notMem absent
      simp only [own, if_true, List.map_cons, here]
      congr 1
      exact (List.map_id' rest).symm.trans (List.map_congr_left fun other member =>
        (if_neg (apart other member)).symm)
    · have later : rest.find? (fun current => current.id == id) = some e := by
        simpa [here] using found
      simp [own, same, here, ih others later]

theorem eraseP_eq_filter {id : Text} (unique : (entries.map Entry.id).Nodup) :
    (entries.eraseP fun current => current.id == id) = entries.filter fun e => !decide (id = e.id) := by
  induction entries with
  | nil => rfl
  | cons first rest ih =>
    obtain ⟨absent, others⟩ := List.nodup_cons.mp unique
    by_cases here : first.id = id
    · have apart : ∀ other ∈ rest, other.id ≠ id := here ▸ id_ne_of_notMem absent
      have rest_eq : rest.filter (fun e => !decide (id = e.id)) = rest :=
        List.filter_eq_self.mpr fun other member => by simp [Ne.symm (apart other member)]
      simp [here, rest_eq]
    · simp [here, Ne.symm here, ih others]

theorem deselect_selected (entries : List Entry) :
    deselect (entries.filter Entry.selected) entries = entries.map (Entry.withSelection false) := by
  unfold deselect
  apply List.map_congr_left
  intro e member
  split
  · rfl
  · next other =>
    have unselected : e.selected = false := by
      cases selected : e.selected with
      | false => rfl
      | true =>
        exact absurd (by simpa using ⟨e, ⟨member, selected⟩, rfl⟩) other
    rw [← unselected, Entry.withSelection_selected]

theorem withSelection_refresh (unselected : e.selected = false) :
    (v.refresh e).withSelection false = v.refresh e := by
  rw [← unselected, ← (v.refresh_keeps e).selected, Entry.withSelection_selected]

theorem apply_toggle {id : Text} (unique : (entries.map Entry.id).Nodup) (found : Finds entries id e) :
    replaceIn (e.withSelection (!e.selected)) entries =
      Exchange.apply (.toggle id, .ok reply) entries := by
  have flipped : replaceIn (e.withSelection (!e.selected)) entries =
      entries.map fun other => if other.id = id then other.withSelection (!other.selected) else other :=
    @replaceIn_eq_map _ _ (fun e => e.withSelection (!e.selected)) _ unique found
      (Entry.id_withSelection _ _)
  have all : (entries.filter fun e => !Exchange.removes e.id (.toggle id, .ok reply)) = entries :=
    List.filter_eq_self.mpr fun _ _ => rfl
  have none : Exchange.created? (.toggle id, .ok reply) = none := rfl
  rw [flipped, Exchange.apply, all, none]
  simp only [Option.map_none, Option.toList_none, List.append_nil]
  apply List.map_congr_left
  intro other _
  by_cases here : other.id = id
  · simp [Exchange.reselect, Exchange.composes, Exchange.toggles, here]
  · simp [Exchange.reselect, Exchange.composes, Exchange.toggles, here, Ne.symm here,
      Entry.withSelection_selected]

theorem apply_compose {stamp : Stamp} {kind : CompositionKind} {threshold : Option Int}
    (asks : call.Asks stamp kind threshold) (unselected : e.selected = false) :
    deselect (entries.filter Entry.selected) entries ++ [e] =
      Exchange.apply (call, .ok (.entry e)) entries := by
  have composes : Exchange.composes (call, .ok (.entry e)) = true := by cases asks <;> rfl
  have made : Exchange.created? (call, .ok (.entry e)) = some e := by cases asks <;> rfl
  have all : (entries.filter fun e' => !Exchange.removes e'.id (call, .ok (.entry e))) = entries :=
    List.filter_eq_self.mpr fun _ _ => by cases asks <;> rfl
  have cleared : Exchange.reselect (call, .ok (.entry e)) = Entry.withSelection false :=
    funext fun other => by rw [Exchange.reselect, composes]; rfl
  rw [deselect_selected, Exchange.apply, all, cleared, made, Option.map_some, Option.toList_some,
    ← unselected, Entry.withSelection_selected]

theorem apply_remove {id : Text} (unique : (entries.map Entry.id).Nodup) :
    (entries.eraseP fun current => current.id == id) =
      Exchange.apply (.remove id, .ok reply) entries := by
  have none : Exchange.created? (.remove id, .ok reply) = none := rfl
  rw [eraseP_eq_filter unique, Exchange.apply, map_reselect_of_quiet rfl fun _ => rfl, none]
  exact (List.append_nil _).symm

theorem Effect.apply_eq (unique : (entries.map Entry.id).Nodup) (fresh : ∀ e ∈ entries, e.Fresh v)
    (effect : Effect v entries call reply after) : after = Exchange.apply (call, .ok reply) entries := by
  cases effect with
  | addConfigured | addText =>
    rw [apply_of_quiet rfl (fun _ => rfl) fun _ => rfl]
    simp only [Exchange.created?, Option.map_some, Option.toList_some]
    rw [withSelection_refresh rfl]
  | toggle found => exact apply_toggle unique found
  | compose asks chosen _ =>
    rw [chosen]
    exact apply_compose asks (v.refresh_keeps _).selected
  | revalidate found =>
    rw [(fresh _ found.mem).own, replaceIn_self found, apply_of_quiet rfl (fun _ => rfl) fun _ => rfl]
    exact (List.append_nil _).symm
  | remove => exact apply_remove unique
  | get | descriptor =>
    rw [apply_of_quiet rfl (fun _ => rfl) fun _ => rfl]
    exact (List.append_nil _).symm

end Step

section Run

theorem history_append (v : Validator) (calls : List Call) (call : Call) :
    history v (calls ++ [call]) = history v calls ++ [(call, (run v calls).answer v call)] :=
  historyFrom_append v empty calls call

theorem entries_eq_log (calls : List Call)
    (unique : ((creations (history v calls)).map fun c => c.entry.id).Nodup) :
    (run v calls).entries = log (history v calls) := by
  induction calls using List.reverseRecOn with
  | nil => rfl
  | append_singleton calls call ih =>
    rw [history_append, creations_append, List.map_append, List.map_map] at unique
    have before : ((creations (history v calls)).map fun c => c.entry.id).Nodup :=
      (List.nodup_append.mp unique).1
    have same := ih before
    rw [history_append, log_append, ← same, run_append, next, answer]
    cases done : (run v calls).perform v call with
    | error cause => exact (apply_error call cause _).symm
    | ok pair =>
      exact (effect_of_perform done).apply_eq (same ▸ nodup_log before) (fresh_of_mem_run calls)

end Run

/-- If no identifier is given twice, the entries are those of the log, with identifiers that differ, and a call
that fails changes nothing. -/
theorem registry_refines_log (v : Validator) (calls : List Call)
    (unique : ((creations (history v calls)).map fun c => c.entry.id).Nodup) :
    (run v calls).entries = log (history v calls) ∧ ((run v calls).entries.map Entry.id).Nodup ∧
      ∀ call cause, (run v calls).perform v call = .error cause →
        run v (calls ++ [call]) = run v calls := by
  have same := entries_eq_log calls unique
  refine ⟨same, same ▸ nodup_log unique, ?_⟩
  intro call cause failed
  rw [run_append, next, failed]

theorem registry_refines_log_composed :
    let v : Validator := ⟨miniscriptCompiler, .default⟩
    let stamp (millis : Nat) : Stamp := ⟨millis, "aaaaaaaaa".toList⟩
    let id (millis : Nat) : Text := (stamp millis).identify textLabel
    let calls : List Call :=
      [.addText (stamp 1) "after(10)".toList, .addText (stamp 2) "older(10)".toList, .toggle (id 1),
        .toggle (id 2), .compose (stamp 3) .or none, .toggle (id 1), .remove (id 2), .remove (id 2)]
    ((creations (history v calls)).map fun c => c.entry.id).Nodup ∧
      (run v calls).entries = log (history v calls) ∧ ((run v calls).entries.map Entry.id).Nodup ∧
      (∀ call cause, (run v calls).perform v call = .error cause → run v (calls ++ [call]) = run v calls) ∧
      (log (history v calls)).map (fun e => (e.id, e.selected)) =
        [(id 1, true), ((stamp 3).identify composedLabel, false)] := by
  intro v stamp id calls
  have unique : ((creations (history v calls)).map fun c => c.entry.id).Nodup := by decide +kernel
  obtain ⟨same, distinct, unchanged⟩ := registry_refines_log v calls unique
  exact ⟨unique, same, distinct, unchanged, by decide +kernel⟩

end SpendPolicy.Registry
