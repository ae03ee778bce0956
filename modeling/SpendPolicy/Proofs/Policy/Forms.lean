import SpendPolicy.Proofs.Policy.Language
import SpendPolicy.Proofs.Policy.Sites
import SpendPolicy.Proofs.Policy.Writing

set_option autoImplicit false

namespace SpendPolicy.Policy

open Text (Blank blank_nil)
open Extraction

theorem presents_of_sited {s : Text} {policy : Policy} {sites : List KeySite}
    (derived : Fragment s policy) (sited : Sited s policy sites) : Presents s policy sites :=
  ⟨s, [], (List.append_nil s).symm, blank_nil, derived, sited⟩

theorem fragment_key {name : Text} (argument : IsArgument name) :
    Fragment (Form.key name) (.key name.trim) := by
  obtain ⟨plain, filled⟩ := argument
  rw [key_text]
  exact Fragment.leaf blank_nil blank_nil plain (build_key filled)

theorem presents_key {name : Text} (argument : IsArgument name) :
    Presents (Form.key name) (.key name.trim) [.visible name] := by
  obtain ⟨plain, filled⟩ := argument
  have sited := sited_key blank_nil plain (build_key filled)
  refine presents_of_sited (fragment_key ⟨plain, filled⟩) ?_
  rw [key_text]
  exact sited

theorem presents_leaf {name : LeafName} {argument : Text} {policy : Policy} (other : name ≠ .key)
    (plain : Plain argument) (builds : name.build argument.trim = .ok policy) :
    Presents (Form.call name.text [argument]) policy (policy.keys.map .hidden) := by
  have derived := Fragment.leaf blank_nil blank_nil plain builds
  have sited := sited_leaf blank_nil blank_nil plain builds fun visible => other visible.1
  have spelled : Form.call name.text [argument] =
      [] ++ name.text ++ [] ++ '(' :: (argument ++ [')']) := by
    rw [text_leaf, List.nil_append, List.append_nil]
  rw [spelled]
  exact presents_of_sited derived sited

theorem presents_after {value : Nat} (range : Locktime.isInRange value = true) :
    Presents (Form.after value) (.after value) [] := by
  have trimmed := Numeral.trim_ofNat value
  exact presents_leaf (by simp) (plain_ofNat value) (trimmed.symm ▸ build_after range)

theorem presents_older {value : Nat} (range : Locktime.isInRange value = true) :
    Presents (Form.older value) (.older value) [] := by
  have trimmed := Numeral.trim_ofNat value
  exact presents_leaf (by simp) (plain_ofNat value) (trimmed.symm ▸ build_older range)

theorem presents_hash {algorithm : HashAlgorithm} {s : Text} {digest : Bytes} (plain : Plain s)
    (decodes : Hex.decode? s.trim = some digest) (size : digest.length = algorithm.digestSize) :
    Presents (Form.call algorithm.name [s]) (.hash algorithm digest) [] :=
  @presents_leaf (.hash algorithm) _ _ (by simp) plain (build_hash decodes size)

inductive PresentsEach : List Text → List Policy → List KeySite → Prop
  | nil : PresentsEach [] [] []
  | cons {s : Text} {policy : Policy} {texts : List Text} {items : List Policy}
      {sites more : List KeySite} (first : Presents s policy sites)
      (others : PresentsEach texts items more) :
      PresentsEach (s :: texts) (policy :: items) (sites ++ more)

theorem PresentsEach.body {texts : List Text} {items : List Policy} {sites : List KeySite}
    (each : PresentsEach texts items sites) (filled : texts ≠ []) :
    Fragments (Text.commaSeparated texts ++ [')']) items ∧
      SitedAll (Text.commaSeparated texts ++ [')']) items sites := by
  induction each with
  | nil => exact absurd rfl filled
  | @cons s policy texts items sites more first others ih =>
    obtain ⟨head, gap, rfl, blank, derived, sited⟩ := first
    match texts, others, ih with
    | [], .nil, _ =>
      rw [show Text.commaSeparated [head ++ gap] = head ++ gap by simp [Text.commaSeparated],
        List.append_nil]
      exact ⟨.last derived blank, sited_last derived blank sited⟩
    | text :: texts, others, ih =>
      obtain ⟨rest, later⟩ := ih (by simp)
      rw [Text.commaSeparated_cons (by simp), List.append_assoc, List.cons_append]
      exact ⟨.more derived blank rest, sited_more derived blank rest.splits sited later⟩

theorem presents_pair (name : PairName) {s t : Text} {left right : Policy} {sites more : List KeySite}
    (first : Presents s left sites) (second : Presents t right more) :
    Presents (Form.call name.text [s, t]) (name.join left right) (sites ++ more) := by
  have each : PresentsEach [s, t] [left, right] (sites ++ (more ++ [])) := .cons first (.cons second .nil)
  obtain ⟨derived, sited⟩ := each.body (by simp)
  have builds : name.build [left, right] = .ok (name.join left right) :=
    pairBuild_eq_ok_iff.mpr ⟨_, _, rfl, rfl⟩
  have spelled : Form.call name.text [s, t] =
      [] ++ name.text ++ [] ++ '(' :: (Text.commaSeparated [s, t] ++ [')']) := by
    rw [Form.call_eq, List.nil_append, List.append_nil]
  rw [List.append_nil] at sited
  rw [spelled]
  exact presents_of_sited (.pair blank_nil blank_nil derived builds)
    (sited_pair blank_nil blank_nil derived.splits builds sited)

theorem presents_thresh {required : Nat} {texts : List Text} {items : List Policy}
    {sites : List KeySite} (each : PresentsEach texts items sites) (low : 1 ≤ required)
    (high : required ≤ items.length) (legible : Numeral.Legible required) :
    Presents (Form.thresh required texts) (.thresh required items) sites := by
  have filled : texts ≠ [] := by
    rintro rfl
    cases each
    simp at high
    omega
  obtain ⟨derived, sited⟩ := each.body filled
  have reads := Numeral.read?_ofNat legible
  have builds := ofThresh_of_bounds low high
  have spelled : Form.thresh required texts = [] ++ Name.thresh.text ++ [] ++
      '(' :: (Numeral.ofNat required ++ ',' :: (Text.commaSeparated texts ++ [')'])) := by
    rw [Form.thresh, Form.call_eq, Text.commaSeparated_cons filled]
    simp [Name.text, Numeral.ofInt]
  rw [spelled]
  exact presents_of_sited
    (.thresh blank_nil blank_nil (plain_ofNat required).2.2 reads derived builds)
    (sited_thresh blank_nil blank_nil (plain_ofNat required).2.2 reads derived.splits builds sited)

theorem presentsEach_keys {names : List Text} (arguments : ∀ name ∈ names, IsArgument name) :
    PresentsEach (names.map Form.key) (names.map fun name => .key name.trim)
      (names.map .visible) := by
  induction names with
  | nil => exact .nil
  | cons name names ih =>
    obtain ⟨here, later⟩ := List.forall_mem_cons.mp arguments
    exact .cons (presents_key here) (ih later)

section Read

variable {s t : Text} {left right : Policy} {texts : List Text} {items : List Policy}

theorem exists_presentsEach (reads : List.Forall₂ (fun s item => read s = .ok item) texts items) :
    ∃ sites, PresentsEach texts items sites := by
  induction reads with
  | nil => exact ⟨[], .nil⟩
  | cons here _ ih =>
    obtain ⟨sites, first⟩ := exists_presents_of_read here
    obtain ⟨more, others⟩ := ih
    exact ⟨sites ++ more, .cons first others⟩

theorem read_pair (name : PairName) (first : read s = .ok left) (second : read t = .ok right) :
    read (Form.call name.text [s, t]) = .ok (name.join left right) := by
  obtain ⟨sites, presents⟩ := exists_presents_of_read first
  obtain ⟨more, presents'⟩ := exists_presents_of_read second
  exact (presents_pair name presents presents').read_eq

theorem read_thresh {required : Nat} (low : 1 ≤ required) (high : required ≤ items.length)
    (legible : Numeral.Legible required)
    (reads : List.Forall₂ (fun s item => read s = .ok item) texts items) :
    read (Form.thresh required texts) = .ok (.thresh required items) := by
  obtain ⟨sites, each⟩ := exists_presentsEach reads
  exact (presents_thresh each low high legible).read_eq

end Read

theorem accepted_key_embeds {key : Text} {form : KeyForm} (accepted : Key.classify key = .ok form) :
    (∀ d ∈ ['(', ')', ','], d ∉ key) ∧
      ofText (Form.key key) = ⟨"pk(key1)".toList, ⟨[("key1".toList, key)]⟩⟩ ∧
      read (Form.key key) = .ok (.key key.trim) ∧
      ∀ rest, pieces (Form.key key ++ rest) = .key key :: pieces rest ∧
        Yields (readOne (Form.key key ++ rest)) (.key key.trim) rest := by
  obtain ⟨_, absent, _⟩ := Key.classify_trim accepted
  have argument := isArgument_of_classify accepted
  have flat : Flat key := ⟨absent _ (by decide), absent _ (by decide)⟩
  refine ⟨absent, ofText_key flat, (presents_key argument).read_eq, fun rest => ⟨?_, ?_⟩⟩
  · exact piecesAfter_key flat rest
  · exact (fragment_key argument).yields rest

theorem accepted_key_embeds_derived :
    let key : Text := ("[deadbeef/0']xpub661MyMwAqRbcFtXgS5sYJABqqG9YLmC4Q1Rdap9gSE8NqtwybGhePY2gZ29ESFj".toList
      ++ "qJoCu1Rupje8YtGqsefD265TMg7usUDFdp6W1EGMcet8/0/*\n".toList)
    Key.classify key = .ok (.extended .pub .main) ∧
      ofText (Form.key key) = ⟨"pk(key1)".toList, ⟨[("key1".toList, key)]⟩⟩ ∧
      read (Form.key key) = .ok (.key key.trim) := by
  intro key
  have accepted : Key.classify key = .ok (.extended .pub .main) := by decide +kernel
  obtain ⟨_, extracted, reads, _⟩ := accepted_key_embeds accepted
  exact ⟨accepted, extracted, reads⟩

end SpendPolicy.Policy
