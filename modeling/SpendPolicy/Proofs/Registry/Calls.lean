import Mathlib.Data.List.Induction
import SpendPolicy.Proofs.Basic
import SpendPolicy.Proofs.Entry.Refreshing
import SpendPolicy.Registry

set_option autoImplicit false

namespace SpendPolicy.Registry

inductive Call where
  | addConfigured (stamp : Stamp) (config : Config) (name : Option Text)
  | addText (stamp : Stamp) (typed : Text)
  | toggle (id : Text)
  | compose (stamp : Stamp) (kind : CompositionKind) (threshold : Option Int)
  | composeNamed (stamp : Stamp) (kind : Option Text) (threshold : Option Int)
  | revalidate (id : Text)
  | remove (id : Text)
  | get (id : Text)
  | descriptor (id outputType : Text)

inductive Reply where
  | entry (e : Entry)
  | descriptor (result : Except DescriptorFailure Text)

def answered (outcome : Outcome) : Except RegistryError (Reply × Registry) :=
  outcome.map fun (e, after) => (.entry e, after)

def perform (v : Validator) (r : Registry) : Call → Except RegistryError (Reply × Registry)
  | .addConfigured stamp config name => answered (r.addConfigured v stamp config name)
  | .addText stamp typed => answered (r.addText v stamp typed)
  | .toggle id => answered (r.toggle id)
  | .compose stamp kind threshold => answered (r.compose v stamp kind threshold)
  | .composeNamed stamp kind threshold => answered (r.composeNamed v stamp kind threshold)
  | .revalidate id => answered (r.revalidate v id)
  | .remove id => answered (r.remove id)
  | .get id => (r.get id).map fun e => (.entry e, r)
  | .descriptor id outputType =>
    (r.descriptor v id outputType).map fun result => (.descriptor result, r)

def next (v : Validator) (r : Registry) (call : Call) : Registry :=
  match r.perform v call with
  | .ok (_, after) => after
  | .error _ => r

def run (v : Validator) (calls : List Call) : Registry :=
  calls.foldl (next v) empty

@[simp] theorem run_nil (v : Validator) : run v [] = empty :=
  rfl

@[simp] theorem run_append (v : Validator) (calls : List Call) (call : Call) :
    run v (calls ++ [call]) = (run v calls).next v call := by
  simp [run]

section Found

variable {r after : Registry} {id : Text} {e answer : Entry} {f : Entry → Entry} {entries : List Entry}

def Finds (entries : List Entry) (id : Text) (e : Entry) : Prop :=
  entries.find? (fun current => current.id == id) = some e

theorem Finds.mem (found : Finds entries id e) : e ∈ entries :=
  List.mem_of_find?_eq_some found

theorem Finds.id_eq (found : Finds entries id e) : e.id = id :=
  beq_iff_eq.mp (List.find?_some (p := fun current : Entry => current.id == id) found)

theorem get_eq_ok_iff : r.get id = .ok e ↔ Finds r.entries id e := by
  unfold get Finds
  split
  · next found => simp [found]
  · next missing => simp [missing]

theorem exists_get_of_mem (stored : e ∈ r.entries) : ∃ first, r.get e.id = .ok first := by
  simp only [get_eq_ok_iff, Finds, ← Option.isSome_iff_exists, List.find?_isSome]
  exact ⟨e, stored, beq_self_eq_true _⟩

theorem modify_eq_ok_iff :
    r.modify f id = .ok (answer, after) ↔
      ∃ e, Finds r.entries id e ∧ answer = f e ∧ after = ⟨replaceIn (f e) r.entries⟩ := by
  unfold modify
  simp only [← get_eq_ok_iff]
  cases r.get id with
  | error cause => simp
  | ok e => simp [eq_comm]

theorem remove_eq_ok_iff :
    r.remove id = .ok (answer, after) ↔
      Finds r.entries id answer ∧ after = ⟨r.entries.eraseP fun current => current.id == id⟩ := by
  unfold remove
  rw [← get_eq_ok_iff]
  cases r.get id with
  | error cause => simp
  | ok e => simp [eq_comm]

theorem mem_replaceIn {current : Entry} (member : current ∈ replaceIn e entries) :
    current = e ∨ current ∈ entries := by
  induction entries with
  | nil => cases member
  | cons first rest ih =>
    unfold replaceIn at member
    split at member <;> grind

theorem replaceIn_self (found : Finds entries id e) : replaceIn e entries = entries := by
  have own := found.id_eq
  unfold Finds at found
  induction entries with
  | nil => cases found
  | cons first rest ih =>
    unfold replaceIn
    split <;> grind

end Found

section Effect

variable {v : Validator} {r after : Registry} {call : Call} {reply : Reply}

def configured (stamp : Stamp) (config : Config) (name : Option Text) : Entry :=
  .configured (Entry.newHeader (stamp.identify config.label)
    (if name.getD [] = [] then config.defaultName else name.getD [])) config

def typedEntry (stamp : Stamp) (number : Nat) (typed : Text) : Entry :=
  .text { Entry.newHeader (stamp.identify textLabel) (customName ++ ' ' :: Numeral.ofNat number) with
    expression := some typed.trim }

inductive Call.Asks (stamp : Stamp) (kind : CompositionKind) (threshold : Option Int) : Call → Prop
  | byKind : Asks stamp kind threshold (.compose stamp kind threshold)
  | byName {name : Option Text} (named : CompositionKind.ofName name = .ok kind) :
      Asks stamp kind threshold (.composeNamed stamp name threshold)

inductive Effect (v : Validator) (entries : List Entry) : Call → Reply → List Entry → Prop
  | addConfigured {stamp : Stamp} {config : Config} {name : Option Text}
      (recognised : ∀ description, config ≠ .unrecognised description) :
      Effect v entries (.addConfigured stamp config name)
        (.entry (v.refresh (configured stamp config name)))
        (entries ++ [v.refresh (configured stamp config name)])
  | addText {stamp : Stamp} {typed : Text} {number : Nat} (filled : typed.trim ≠ [])
      (counted : number = nextCustomNumber ⟨entries⟩) :
      Effect v entries (.addText stamp typed) (.entry (v.refresh (typedEntry stamp number typed)))
        (entries ++ [v.refresh (typedEntry stamp number typed)])
  | toggle {id : Text} {e : Entry} (found : Finds entries id e) :
      Effect v entries (.toggle id) (.entry (e.withSelection (!e.selected)))
        (replaceIn (e.withSelection (!e.selected)) entries)
  | compose {stamp : Stamp} {kind : CompositionKind} {threshold : Option Int} {call : Call}
      {selected : List Entry} (asks : call.Asks stamp kind threshold)
      (chosen : selected = entries.filter Entry.selected)
      (fits : Composition.checkArity kind selected.length threshold = .ok ()) :
      Effect v entries call (.entry (v.refresh (composition stamp kind threshold selected)))
        (deselect selected entries ++ [v.refresh (composition stamp kind threshold selected)])
  | revalidate {id : Text} {e : Entry} (found : Finds entries id e) :
      Effect v entries (.revalidate id) (.entry (v.refresh e)) (replaceIn (v.refresh e) entries)
  | remove {id : Text} {e : Entry} (found : Finds entries id e) :
      Effect v entries (.remove id) (.entry e) (entries.eraseP fun current => current.id == id)
  | get {id : Text} {e : Entry} (found : Finds entries id e) :
      Effect v entries (.get id) (.entry e) entries
  | descriptor {id outputType : Text} {result : Except DescriptorFailure Text} :
      Effect v entries (.descriptor id outputType) (.descriptor result) entries

theorem answered_eq_ok_iff {outcome : Outcome} :
    answered outcome = .ok (reply, after) ↔ ∃ e, outcome = .ok (e, after) ∧ reply = .entry e := by
  cases outcome with
  | error cause => simp [answered, Except.map]
  | ok pair =>
    obtain ⟨e, other⟩ := pair
    simp only [answered, Except.map, Except.ok.injEq, Prod.mk.injEq]
    grind

theorem effect_of_compose {stamp : Stamp} {kind : CompositionKind} {threshold : Option Int} {e : Entry}
    (asks : call.Asks stamp kind threshold)
    (done : r.compose v stamp kind threshold = .ok (e, after)) :
    Effect v r.entries call (.entry e) after.entries := by
  unfold compose at done
  split at done
  · cases done
  · next fits =>
    cases done
    exact .compose asks rfl fits

theorem effect_of_perform (done : r.perform v call = .ok (reply, after)) :
    Effect v r.entries call reply after.entries := by
  cases call with
  | addConfigured stamp config name =>
    obtain ⟨e, outcome, rfl⟩ := answered_eq_ok_iff.mp done
    unfold Registry.addConfigured at outcome
    split at outcome
    · cases outcome
    · next recognised =>
      cases outcome
      exact .addConfigured recognised
  | addText stamp typed =>
    obtain ⟨e, outcome, rfl⟩ := answered_eq_ok_iff.mp done
    unfold Registry.addText at outcome
    split at outcome
    · cases outcome
    · next filled =>
      cases outcome
      exact .addText filled rfl
  | toggle id =>
    obtain ⟨e, outcome, rfl⟩ := answered_eq_ok_iff.mp done
    obtain ⟨e, found, rfl, rfl⟩ := modify_eq_ok_iff.mp outcome
    exact .toggle found
  | compose stamp kind threshold =>
    obtain ⟨e, outcome, rfl⟩ := answered_eq_ok_iff.mp done
    exact effect_of_compose .byKind outcome
  | composeNamed stamp name threshold =>
    obtain ⟨e, outcome, rfl⟩ := answered_eq_ok_iff.mp done
    unfold Registry.composeNamed at outcome
    split at outcome
    · cases outcome
    · next kind named => exact effect_of_compose (.byName named) outcome
  | revalidate id =>
    obtain ⟨e, outcome, rfl⟩ := answered_eq_ok_iff.mp done
    obtain ⟨e, found, rfl, rfl⟩ := modify_eq_ok_iff.mp outcome
    exact .revalidate found
  | remove id =>
    obtain ⟨e, outcome, rfl⟩ := answered_eq_ok_iff.mp done
    obtain ⟨found, rfl⟩ := remove_eq_ok_iff.mp outcome
    exact .remove found
  | get id =>
    obtain ⟨e, found, same⟩ := Except.map_eq_ok_iff.mp done
    cases same
    exact .get (get_eq_ok_iff.mp found)
  | descriptor id outputType =>
    obtain ⟨result, _, same⟩ := Except.map_eq_ok_iff.mp done
    cases same
    exact .descriptor

inductive Makes (v : Validator) (entries : List Entry) : Call → Entry → Prop
  | configured (stamp : Stamp) (config : Config) (name : Option Text) :
      Makes v entries (.addConfigured stamp config name) (v.refresh (configured stamp config name))
  | text (stamp : Stamp) (number : Nat) {typed : Text} (filled : typed.trim ≠ []) :
      Makes v entries (.addText stamp typed) (v.refresh (typedEntry stamp number typed))
  | composed {stamp : Stamp} {kind : CompositionKind} {threshold : Option Int} {call : Call}
      (asks : call.Asks stamp kind threshold)
      (fits : Composition.checkArity kind (entries.filter Entry.selected).length threshold = .ok ()) :
      Makes v entries call (v.refresh (composition stamp kind threshold (entries.filter Entry.selected)))

inductive Origin (v : Validator) (entries : List Entry) (call : Call) : Reply → Entry → Prop
  | kept {old : Entry} {reply : Reply} (stored : old ∈ entries) (b : Bool) :
      Origin v entries call reply (old.withSelection b)
  | refreshed {old : Entry} {reply : Reply} (stored : old ∈ entries) :
      Origin v entries call reply (v.refresh old)
  | made {e : Entry} (makes : Makes v entries call e) : Origin v entries call (.entry e) e

theorem Origin.same {entries : List Entry} {e : Entry} (stored : e ∈ entries) :
    Origin v entries call reply e := by
  have kept : Origin v entries call reply (e.withSelection e.selected) := .kept stored _
  rwa [Entry.withSelection_selected] at kept

theorem Effect.origin {entries after : List Entry} {e : Entry} (effect : Effect v entries call reply after)
    (member : e ∈ after) : Origin v entries call reply e := by
  have added {made : Entry} (makes : Makes v entries call made) (member : e ∈ entries ++ [made]) :
      Origin v entries call (.entry made) e := by
    rcases List.mem_append.mp member with stored | new
    · exact .same stored
    · cases List.mem_singleton.mp new
      exact .made makes
  cases effect with
  | addConfigured => exact added (.configured ..) member
  | addText filled => exact added (.text _ _ filled) member
  | toggle found =>
    rcases mem_replaceIn member with rfl | stored
    · exact .kept found.mem _
    · exact .same stored
  | compose asks chosen fits =>
    subst chosen
    rcases List.mem_append.mp member with left | new
    · obtain ⟨old, stored, rfl⟩ := List.mem_map.mp left
      split
      · exact .kept stored false
      · exact .same stored
    · cases List.mem_singleton.mp new
      exact .made (.composed asks fits)
  | revalidate found =>
    rcases mem_replaceIn member with rfl | stored
    · exact .refreshed found.mem
    · exact .same stored
  | remove => exact .same (List.mem_of_mem_eraseP member)
  | get | descriptor => exact .same member

theorem run_history_induction {invariant : List Call → List Entry → Prop} (initial : invariant [] [])
    (failed : ∀ calls call cause, (run v calls).perform v call = .error cause →
      invariant calls (run v calls).entries → invariant (calls ++ [call]) (run v calls).entries)
    (succeeded : ∀ calls call reply after, (run v calls).perform v call = .ok (reply, after) →
      invariant calls (run v calls).entries → invariant (calls ++ [call]) after.entries)
    (calls : List Call) : invariant calls (run v calls).entries := by
  induction calls using List.reverseRecOn with
  | nil => exact initial
  | append_singleton calls call ih =>
    rw [run_append, next]
    cases done : (run v calls).perform v call with
    | error cause => exact failed calls call cause done ih
    | ok answer => exact succeeded calls call answer.1 answer.2 done ih

theorem run_induction {invariant : List Entry → Prop} (initial : invariant [])
    (step : ∀ entries call reply after, invariant entries → Effect v entries call reply after →
      invariant after) (calls : List Call) : invariant (run v calls).entries :=
  run_history_induction initial (fun _ _ _ _ kept => kept)
    (fun _ _ _ _ done kept => step _ _ _ _ kept (effect_of_perform done)) calls

end Effect

end SpendPolicy.Registry
