import SpendPolicy.Lowering
import SpendPolicy.Proofs.Numeral.Decimal
import SpendPolicy.Proofs.Registry.Calls

set_option autoImplicit false

namespace SpendPolicy

variable {v : Validator} {e : Entry}

namespace Entry

def typedName? : Entry → Option Text
  | .text header => some header.name
  | .configured _ _ | .composed _ _ _ _ => none

def label (e : Entry) : Text × Option Text :=
  (e.header.name, e.typedName?)

def Counted (e : Entry) : Prop :=
  Registry.customName.isPrefixOf e.label.1 = e.label.2.isSome

theorem label_modifyHeader {f : EntryHeader → EntryHeader} (kept : (f e.header).name = e.header.name) :
    (e.modifyHeader f).label = e.label := by
  cases e <;> simp_all [label, typedName?, modifyHeader, header]

theorem label_withSelection (b : Bool) (e : Entry) : (e.withSelection b).label = e.label :=
  label_modifyHeader rfl

end Entry

theorem Validator.label_refresh (v : Validator) (e : Entry) : (v.refresh e).label = e.label := by
  cases generated : e.generate with
  | error cause =>
    rw [refresh_of_error generated]
    exact Entry.label_modifyHeader rfl
  | ok expression =>
    rw [refresh_of_ok generated]
    exact (Entry.label_modifyHeader rfl).trans (Entry.label_modifyHeader rfl)

namespace Registry

variable {calls more : List Call} {call : Call} {reply : Reply} {entries after : List Entry} {id : Text}

def typedNames (entries : List Entry) : List Text :=
  entries.filterMap Entry.typedName?

def customNamed (n : Nat) : Text :=
  customName ++ ' ' :: Numeral.ofNat n

def numberedNames (m : Nat) : List Text :=
  (List.range m).map fun i => customNamed (i + 1)

theorem customNamed_injective : Function.Injective customNamed := by
  intro m n same
  exact Numeral.ofNat_injective (List.cons_injective (List.append_cancel_left same))

theorem nodup_numberedNames (m : Nat) : (numberedNames m).Nodup :=
  List.nodup_range.map fun _ _ same => Nat.succ_injective (customNamed_injective same)

@[simp] theorem length_numberedNames (m : Nat) : (numberedNames m).length = m := by
  simp [numberedNames]

theorem numberedNames_succ (m : Nat) : numberedNames (m + 1) = numberedNames m ++ [customNamed (m + 1)] := by
  simp [numberedNames, List.range_succ]

section Step

theorem typedNames_eq (entries : List Entry) :
    typedNames entries = (entries.map Entry.label).filterMap Prod.snd := by
  rw [List.filterMap_map]
  rfl

theorem typedNames_of_labels (labels : after.map Entry.label = entries.map Entry.label ++ [e.label]) :
    typedNames after = typedNames entries ++ e.typedName?.toList := by
  rw [typedNames_eq, typedNames_eq, labels, List.filterMap_append, List.filterMap_cons, Entry.label]
  cases e.typedName? <;> rfl

theorem counted_iff : (∀ e ∈ entries, e.Counted) ↔
    ∀ label ∈ entries.map Entry.label, customName.isPrefixOf label.1 = label.2.isSome := by
  rw [List.forall_mem_map]
  rfl

theorem labels_added (v : Validator) (entries : List Entry) (made : Entry) :
    (entries ++ [v.refresh made]).map Entry.label = entries.map Entry.label ++ [made.label] := by
  rw [List.map_append, List.map_singleton, v.label_refresh]

theorem labels_replaceIn {fresh : Entry} (found : Finds entries id e) (own : fresh.id = e.id)
    (same : fresh.label = e.label) : (replaceIn fresh entries).map Entry.label = entries.map Entry.label := by
  have asked := found.id_eq
  unfold Finds at found
  induction entries with
  | nil => rfl
  | cons first rest ih =>
    unfold replaceIn
    split <;> grind

theorem labels_deselect (selected entries : List Entry) :
    (deselect selected entries).map Entry.label = entries.map Entry.label := by
  rw [deselect, List.map_map]
  apply List.map_congr_left
  intro e _
  simp only [Function.comp_apply]
  split
  · exact Entry.label_withSelection false e
  · rfl

theorem nextCustomNumber_of_counted (each : ∀ e ∈ entries, e.Counted) :
    nextCustomNumber ⟨entries⟩ = (typedNames entries).length + 1 := by
  unfold nextCustomNumber typedNames
  rw [List.length_filterMap_eq_countP]
  congr 1
  apply List.countP_congr
  intro e member
  rw [show customName.isPrefixOf e.header.name = e.typedName?.isSome from each e member]

def Call.HasDefaultName : Call → Prop
  | .addConfigured _ _ name => name.getD [] = []
  | _ => True

theorem counted_configured {stamp : Stamp} {config : Config} {name : Option Text} (default : name.getD [] = [])
    (recognised : ∀ description, config ≠ .unrecognised description) :
    (configured stamp config name).Counted := by
  have apart : customName.isPrefixOf config.defaultName = false := by
    cases config <;> first | rfl | exact absurd rfl (recognised _)
  simpa [Entry.Counted, Entry.label, Entry.typedName?, configured, default, Entry.header, Entry.newHeader]
    using apart

theorem counted_typedEntry (stamp : Stamp) (number : Nat) (typed : Text) :
    (typedEntry stamp number typed).Counted := by
  simp [Entry.Counted, Entry.label, Entry.typedName?, typedEntry, Entry.header, Entry.newHeader,
    List.isPrefixOf_iff_prefix]

theorem counted_composition (stamp : Stamp) (kind : CompositionKind) (threshold : Option Int)
    (selected : List Entry) : (composition stamp kind threshold selected).Counted := by
  cases kind <;> rfl

theorem Effect.labels_cases (effect : Effect v entries call reply after) :
    after.map Entry.label = entries.map Entry.label ∨
      (∃ made : Entry, after.map Entry.label = entries.map Entry.label ++ [made.label] ∧
        (call.HasDefaultName → made.Counted) ∧
        ∀ name, made.typedName? = some name → name = customNamed (nextCustomNumber ⟨entries⟩)) ∨
      ∃ id e, call = .remove id ∧ Finds entries id e ∧
        after = entries.eraseP fun current => current.id == id := by
  cases effect with
  | addConfigured recognised =>
    exact .inr (.inl ⟨_, labels_added .., fun default => counted_configured default recognised, nofun⟩)
  | @addText stamp typed number _ counted =>
    subst counted
    refine .inr (.inl ⟨_, labels_added .., fun _ => counted_typedEntry .., ?_⟩)
    rintro name ⟨⟩
    rfl
  | toggle found =>
    exact .inl (labels_replaceIn found (Entry.id_withSelection ..) (Entry.label_withSelection ..))
  | @compose stamp kind threshold _ selected =>
    refine .inr (.inl ⟨composition stamp kind threshold selected, ?_, fun _ => counted_composition .., nofun⟩)
    rw [labels_added, labels_deselect]
  | revalidate found =>
    exact .inl (labels_replaceIn found (v.refresh_keeps _).id (v.label_refresh _))
  | remove found => exact .inr (.inr ⟨_, _, rfl, found, rfl⟩)
  | get | descriptor => exact .inl rfl

theorem Effect.counted (default : call.HasDefaultName) (each : ∀ e ∈ entries, e.Counted)
    (effect : Effect v entries call reply after) : ∀ e ∈ after, e.Counted := by
  rcases effect.labels_cases with same | ⟨made, labels, counted, _⟩ | ⟨id, e, _, _, rfl⟩
  · rwa [counted_iff, same, ← counted_iff]
  · rw [counted_iff, labels, List.forall_mem_append, ← counted_iff, List.forall_mem_singleton]
    exact ⟨each, counted default⟩
  · exact fun e member => each e (List.mem_of_mem_eraseP member)

theorem typedNames_removed (found : Finds entries id e) :
    ∃ earlier later, typedNames entries = earlier ++ (e.typedName?.toList ++ later) ∧
      typedNames (entries.eraseP fun current => current.id == id) = earlier ++ later := by
  obtain ⟨asked, before, rest, rfl, none⟩ := List.find?_eq_some_iff_append.mp found
  refine ⟨typedNames before, typedNames rest, ?_, ?_⟩
  · simp only [typedNames, List.filterMap_append, List.filterMap_cons]
    cases e.typedName? <;> simp
  · have erased : (before ++ e :: rest).eraseP (fun current => current.id == id) = before ++ rest := by
      rw [List.eraseP_append_right _ (by simpa using none)]
      exact congrArg (before ++ ·) (List.eraseP_cons_of_pos asked)
    rw [erased]
    exact List.filterMap_append

end Step

section Run

/-- A removal takes an entry that was not typed in, or the typed one of the highest number. -/
def TakesLast (r : Registry) : Call → Prop
  | .remove id => ∀ e name, r.get id = .ok e → e.typedName? = some name →
      name = customNamed (typedNames r.entries).length
  | _ => True

def RemovesLast (v : Validator) (calls : List Call) : Prop :=
  ∀ before call, before ++ [call] <+: calls → (run v before).TakesLast call

def Call.removes : Call → Bool
  | .remove _ => true
  | _ => false

theorem takesLast_of_stays {r : Registry} (stays : call.removes = false) : r.TakesLast call := by
  cases call <;> trivial

theorem removesLast_nil (v : Validator) : RemovesLast v [] := by
  intro before call start
  simpa using start.length_le

theorem removesLast_append :
    RemovesLast v (calls ++ [call]) ↔ RemovesLast v calls ∧ (run v calls).TakesLast call := by
  constructor
  · intro last
    exact ⟨fun before other start => last before other (start.trans (List.prefix_append _ _)),
      last calls call (List.prefix_refl _)⟩
  · rintro ⟨earlier, last⟩ before other start
    rcases List.prefix_concat_iff.mp start with whole | part
    · obtain ⟨rfl, rfl⟩ : before = calls ∧ other = call := by simpa using whole
      exact last
    · exact earlier before other part

theorem removesLast_append_of_stays (last : RemovesLast v calls)
    (stays : ∀ call ∈ more, call.removes = false) : RemovesLast v (calls ++ more) := by
  induction more using List.reverseRecOn with
  | nil => rwa [List.append_nil]
  | append_singleton more call ih =>
    rw [← List.append_assoc, removesLast_append]
    exact ⟨ih fun other member => stays other (List.mem_append_left _ member),
      takesLast_of_stays (stays call (by simp))⟩

theorem counted_of_mem_run (default : ∀ call ∈ calls, call.HasDefaultName) :
    ∀ e ∈ (run v calls).entries, e.Counted := by
  induction calls using List.reverseRecOn with
  | nil => exact List.forall_mem_nil _
  | append_singleton calls call ih =>
    obtain ⟨earlier, now⟩ := List.forall_mem_append.mp default
    rw [run_append, next]
    cases done : (run v calls).perform v call with
    | error cause => exact ih earlier
    | ok answer => exact (effect_of_perform done).counted (now call (List.mem_singleton_self _)) (ih earlier)

def Numbered (entries : List Entry) : Prop :=
  ∃ m, typedNames entries = numberedNames m

theorem eq_of_split_numberedNames {m : Nat} {earlier later : List Text}
    (split : numberedNames m = earlier ++ customNamed m :: later) :
    earlier = numberedNames (m - 1) ∧ later = [] := by
  cases m with
  | zero => simp [numberedNames] at split
  | succ m =>
    have distinct := split ▸ nodup_numberedNames (m + 1)
    obtain ⟨fresh, -⟩ := List.nodup_cons.mp (List.perm_middle.nodup_iff.mp distinct)
    rw [List.mem_append, not_or] at fresh
    rw [numberedNames_succ] at split
    obtain ⟨same, -, none⟩ := (List.append_cons_inj_of_notMem fresh.1 fresh.2).mp split.symm
    exact ⟨same, none⟩

theorem highest_of_split_numberedNames {m : Nat} {name : Text} {earlier later : List Text}
    (split : numberedNames m = earlier ++ name :: later) (lower : name ≠ customNamed m) :
    (earlier ++ later).length + 1 = m ∧ customNamed m ∈ earlier ++ later := by
  have count : (earlier ++ later).length + 1 = m := by
    have lengths := congrArg List.length split
    simp only [length_numberedNames, List.length_append, List.length_cons] at lengths ⊢
    omega
  have stored : customNamed m ∈ earlier ++ name :: later := by
    rw [← split, ← count, numberedNames_succ]
    exact List.mem_concat_self
  have present := List.perm_middle.mem_iff.mp stored
  exact ⟨count, (List.mem_cons.mp present).resolve_left lower.symm⟩

theorem Effect.numbered (each : ∀ e ∈ entries, e.Counted) (numbered : Numbered entries)
    (last : TakesLast ⟨entries⟩ call) (effect : Effect v entries call reply after) : Numbered after := by
  obtain ⟨m, names⟩ := numbered
  have count : (typedNames entries).length = m := by rw [names, length_numberedNames]
  rcases effect.labels_cases with same | ⟨made, labels, _, named⟩ | ⟨id, e, rfl, found, rfl⟩
  · exact ⟨m, by rw [typedNames_eq, same, ← typedNames_eq, names]⟩
  · have added := typedNames_of_labels labels
    rw [names] at added
    cases typed : made.typedName? with
    | none =>
      rw [typed] at added
      exact ⟨m, added.trans (List.append_nil _)⟩
    | some name =>
      rw [typed, named name typed, nextCustomNumber_of_counted each, count] at added
      exact ⟨m + 1, added.trans (numberedNames_succ m).symm⟩
  · obtain ⟨earlier, later, before, removed⟩ := typedNames_removed found
    cases typed : e.typedName? with
    | none =>
      rw [names, typed] at before
      exact ⟨m, removed.trans before.symm⟩
    | some name =>
      have highest : name = customNamed m := count ▸ last e name (get_eq_ok_iff.mpr found) typed
      rw [names, typed, highest] at before
      obtain ⟨rfl, rfl⟩ := eq_of_split_numberedNames before
      exact ⟨m - 1, removed.trans (List.append_nil _)⟩

theorem numbered_run (default : ∀ call ∈ calls, call.HasDefaultName) (last : RemovesLast v calls) :
    Numbered (run v calls).entries := by
  induction calls using List.reverseRecOn with
  | nil => exact ⟨0, rfl⟩
  | append_singleton calls call ih =>
    have earlier := (List.forall_mem_append.mp default).1
    obtain ⟨before, now⟩ := removesLast_append.mp last
    rw [run_append, next]
    cases done : (run v calls).perform v call with
    | error cause => exact ih earlier before
    | ok answer =>
      exact (effect_of_perform done).numbered (counted_of_mem_run earlier) (ih earlier before) now

theorem Numbered.nodup (numbered : Numbered entries) : (typedNames entries).Nodup := by
  obtain ⟨m, names⟩ := numbered
  exact names ▸ nodup_numberedNames m

theorem entries_addText {r : Registry} {stamp : Stamp} {typed : Text} (filled : typed.trim ≠ []) :
    (r.next v (.addText stamp typed)).entries =
      r.entries ++ [v.refresh (typedEntry stamp r.nextCustomNumber typed)] := by
  simp only [next, perform, answered, Registry.addText, filled, if_false, Except.map, add, typedEntry]

theorem name_given_again {r : Registry} (each : ∀ e ∈ r.entries, e.Counted) (numbered : Numbered r.entries)
    (other : ¬ r.TakesLast call) (stamp : Stamp) {typed : Text} (filled : typed.trim ≠ []) :
    ¬ (typedNames ((r.next v call).next v (.addText stamp typed)).entries).Nodup := by
  obtain ⟨m, names⟩ := numbered
  cases call with
  | remove id =>
    simp only [TakesLast, not_forall, names, length_numberedNames] at other
    obtain ⟨e, name, got, named, lower⟩ := other
    have found := get_eq_ok_iff.mp got
    obtain ⟨earlier, later, before, removed⟩ := typedNames_removed found
    rw [names, named, Option.toList_some, List.singleton_append] at before
    obtain ⟨again, highest⟩ := highest_of_split_numberedNames before lower
    have done : r.next v (.remove id) = ⟨r.entries.eraseP fun current => current.id == id⟩ := by
      simp only [next, perform, answered, remove_eq_ok_iff.mpr ⟨found, rfl⟩, Except.map]
    have left : ∀ e ∈ r.entries.eraseP fun current => current.id == id, e.Counted :=
      fun e member => each e (List.mem_of_mem_eraseP member)
    rw [done, entries_addText filled, typedNames_of_labels (labels_added ..), nextCustomNumber_of_counted left,
      removed, again]
    intro distinct
    exact List.disjoint_of_nodup_append distinct highest (List.mem_singleton_self _)
  | _ => exact absurd trivial other

/-- With default names: the names of typed entries are distinct after any of these calls, whatever is called
next but a removal, exactly if every removal of a typed entry takes the one of the highest number. -/
theorem typed_names_distinct_iff (v : Validator) {calls : List Call}
    (default : ∀ call ∈ calls, call.HasDefaultName) :
    (∀ before, before <+: calls → ∀ more : List Call,
      (∀ call ∈ more, call.HasDefaultName ∧ call.removes = false) →
        (typedNames (run v (before ++ more)).entries).Nodup) ↔
      RemovesLast v calls := by
  constructor
  · intro distinct
    induction calls using List.reverseRecOn with
    | nil => exact removesLast_nil v
    | append_singleton calls call ih =>
      have earlier := (List.forall_mem_append.mp default).1
      have last := ih earlier fun before start =>
        distinct before (start.trans (List.prefix_append _ _))
      refine removesLast_append.mpr ⟨last, ?_⟩
      by_contra other
      have filled : Text.trim ['x'] ≠ [] := by decide
      have twice := name_given_again (v := v) (counted_of_mem_run earlier) (numbered_run earlier last) other
        ⟨0, []⟩ filled
      rw [← run_append, ← run_append] at twice
      exact twice (distinct _ (List.prefix_refl _) [_] fun _ member =>
        List.mem_singleton.mp member ▸ ⟨trivial, rfl⟩)
  · rintro last before start more follows
    apply (numbered_run ?_ ?_).nodup
    · intro call member
      rcases List.mem_append.mp member with earlier | later
      · exact default call (start.subset earlier)
      · exact (follows call later).1
    · apply removesLast_append_of_stays
      · exact fun earlier call part => last earlier call (part.trans start)
      · exact fun call member => (follows call member).2

theorem typed_names_distinct_iff_latest :
    let v : Validator := ⟨miniscriptCompiler, .default⟩
    let stamp (millis : Nat) : Stamp := ⟨millis, "aaaaaaaaa".toList⟩
    let calls : List Call := [.addText (stamp 1) ['x'], .addText (stamp 2) ['x'],
      .remove ((stamp 2).identify textLabel), .addText (stamp 3) ['x']]
    (∀ call ∈ calls, call.HasDefaultName) ∧ RemovesLast v calls ∧
      ∀ before, before <+: calls → ∀ more : List Call,
        (∀ call ∈ more, call.HasDefaultName ∧ call.removes = false) →
          (typedNames (run v (before ++ more)).entries).Nodup := by
  intro v stamp calls
  have default : ∀ call ∈ calls, call.HasDefaultName := by simp [calls, Call.HasDefaultName]
  have second : ((run v (calls.take 2)).get ((stamp 2).identify textLabel)).toOption.bind Entry.typedName? =
      some (customNamed (typedNames (run v (calls.take 2)).entries).length) := by
    decide +kernel
  have takesLast : (run v (calls.take 2)).TakesLast (.remove ((stamp 2).identify textLabel)) := by
    intro e name got named
    simpa [got, named, Except.toOption] using second
  have last : RemovesLast v calls := by
    have added : RemovesLast v ([] ++ calls.take 2) :=
      removesLast_append_of_stays (removesLast_nil v) (by simp [calls, Call.removes])
    have removed : RemovesLast v (calls.take 3) := removesLast_append.mpr ⟨added, takesLast⟩
    have whole : RemovesLast v (calls.take 3 ++ calls.drop 3) :=
      removesLast_append_of_stays removed (by simp [calls, Call.removes])
    exact whole
  exact ⟨default, last, (typed_names_distinct_iff v default).mpr last⟩

theorem name_given_twice :
    let v : Validator := ⟨miniscriptCompiler, .default⟩
    let stamp (millis : Nat) : Stamp := ⟨millis, "aaaaaaaaa".toList⟩
    let calls : List Call := [.addText (stamp 1) ['x'], .addText (stamp 2) ['x'],
      .remove ((stamp 1).identify textLabel), .addText (stamp 3) ['x']]
    (∀ call ∈ calls, call.HasDefaultName) ∧
      typedNames (run v calls).entries = ["Custom Policy 2".toList, "Custom Policy 2".toList] ∧
      ¬ (typedNames (run v calls).entries).Nodup := by
  intro v stamp calls
  have names : typedNames (run v calls).entries = ["Custom Policy 2".toList, "Custom Policy 2".toList] := by
    decide +kernel
  refine ⟨by simp [calls, Call.HasDefaultName], names, ?_⟩
  rw [names]
  decide

end Run

end Registry

end SpendPolicy
