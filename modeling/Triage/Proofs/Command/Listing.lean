import Mathlib.Data.List.Nodup
import Triage.Command
import Triage.Proofs.Loading

/-!
This module contains what the list of prompts tells. It has one entry for each file of a prompt in the order of their names,
and an entry is what a load of the name gives. The prompt in an entry goes by the id that its file gives it, so it is found
again by this id if the file has it for its name.
-/

namespace Triage

/--
What stands under a name is the same whatever has been loaded before.
-/
theorem Catalog.load_load {α ε : Type} (fetch : String → Except ε α) (c : Catalog α) (name other : String) :
    ((c.load fetch name).2.load fetch other).1 = (c.load fetch other).1 := by
  cases hget : c.loaded.get? other with
  | some a =>
    have hkept : (c.load fetch name).2.loaded.get? other = some a := get?_load_iff.mpr (.inl hget)
    rw [load_of_get? hget, load_of_get? hkept]
  | none =>
    rw [load_of_none hget]
    cases hkept : (c.load fetch name).2.loaded.get? other with
    | none => rw [load_of_none hkept]
    | some a =>
      rw [load_of_get? hkept]
      cases get?_load_iff.mp hkept with
      | inl hbefore =>
        rw [hget] at hbefore
        contradiction
      | inr hfetched => exact hfetched.2.2.symm

namespace Prompt

variable {files : Files} {directory name id : String}

theorem idOfFile?_eq_some_iff : idOfFile? name = some id ↔ id ≠ "" ∧ name = id ++ ".yaml" := by
  have hname : name = id ++ ".yaml" ↔ name.toList.reverse = 'l' :: 'm' :: 'a' :: 'y' :: '.' :: id.toList.reverse := by
    rw [← String.toList_inj, String.toList_append, ← List.reverse_inj, List.reverse_append]
    rfl
  have hending : fileEnding.toList = ['y', 'a', 'm', 'l'] := rfl
  unfold idOfFile?
  dsimp only
  rw [hname, hending]
  generalize name.toList.reverse = cs
  constructor
  . intro h
    split at h
    . next hstem =>
      have hsplit : cs.takeWhile (· != '.') ++ cs.dropWhile (· != '.') = cs := List.takeWhile_append_dropWhile
      have htake : cs.takeWhile (· != '.') = ['l', 'm', 'a', 'y'] := List.reverse_injective hstem.1
      rw [htake] at hsplit hstem h
      rw [← hsplit] at hstem h ⊢
      cases hrest : cs.dropWhile (· != '.') with
      | nil =>
        rw [hrest] at hstem
        exact absurd rfl hstem.2
      | cons c stem =>
        have hc : (c != '.') = false := by
          have hhead := List.head_dropWhile_not (· != '.') (l := cs) (by rw [hrest]; exact nofun)
          simpa only [hrest, List.head_cons] using hhead
        rw [hrest] at hstem h
        cases h
        rw [bne_eq_false_iff_eq] at hc
        subst hc
        constructor
        . simpa [String.ofList_eq_empty_iff] using hstem.2
        . simp
    . cases h
  . rintro ⟨hne, rfl⟩
    have htake : ('l' :: 'm' :: 'a' :: 'y' :: '.' :: id.toList.reverse).takeWhile (· != '.') = ['l', 'm', 'a', 'y'] := rfl
    rw [htake]
    simp [hne]

theorem mem_ids_iff : id ∈ ids files directory ↔
    id ≠ "" ∧ ∃ path, files.locate directory = .ok path ∧ (files.lookup? (path ++ [id ++ ".yaml"])).isSome = true := by
  have hname : id ++ ".yaml" ≠ ".." ∧ id ++ ".yaml" ≠ "/" := by
    constructor
    . intro h
      have hlength := congrArg (fun s => s.toList.length) h
      simp at hlength
    . intro h
      have hlength := congrArg (fun s => s.toList.length) h
      simp at hlength
  unfold ids
  rw [List.mem_mergeSort, List.mem_filterMap]
  simp only [idOfFile?_eq_some_iff]
  rw [← Files.mem_names_iff hname]
  constructor
  . rintro ⟨name, hmem, hid, rfl⟩
    exact ⟨hid, hmem⟩
  . rintro ⟨hid, hmem⟩
    exact ⟨_, hmem, hid, rfl⟩

theorem pairwise_ids (h : files.Unambiguous) (directory : String) : (ids files directory).Pairwise (· < ·) := by
  have hnodup : (ids files directory).Nodup := by
    unfold ids
    rw [(List.mergeSort_perm _ _).nodup_iff]
    apply List.Nodup.filterMap _ (h.nodup_names directory)
    intro name name' id hid hid'
    rw [Option.mem_def, idOfFile?_eq_some_iff] at hid hid'
    rw [hid.2, hid'.2]
  have hsorted : (ids files directory).Pairwise (· ≤ ·) := by
    unfold ids
    apply List.Pairwise.imp _ (List.pairwise_mergeSort _ _ _)
    . intro a b hle
      exact of_decide_eq_true hle
    . intro a b c hab hbc
      simp only [decide_eq_true_eq] at hab hbc ⊢
      exact String.le_trans hab hbc
    . intro a b
      simp only [Bool.or_eq_true, decide_eq_true_eq]
      exact String.le_total a b
  apply List.Pairwise.imp₂ _ hsorted hnodup
  intro a b hle hne
  rw [← String.not_le]
  intro hge
  exact hne (String.le_antisymm hle hge)

namespace Registry

theorem load_load (files : Files) (r : Registry) (id other : String) :
    ((r.load files id).2.load files other).1 = (r.load files other).1 :=
  Catalog.load_load (fetch files r.directory) r.catalog id other

end Registry
end Prompt

namespace Command

open Pipeline (State)

variable {σ τ : Type} {files : Files}

theorem promptEntries_fst (files : Files) (r : Prompt.Registry) (ids : List String) :
    (promptEntries files r ids).1 = ids.map fun id => promptEntry id (r.load files id).1 := by
  induction ids generalizing r with
  | nil => rfl
  | cons id ids ih =>
    unfold promptEntries
    dsimp only
    rw [ih, List.map_cons]
    simp only [Prompt.Registry.load_load]

theorem load_promptEntries (files : Files) (r : Prompt.Registry) (ids : List String) (id : String) :
    ((promptEntries files r ids).2.load files id).1 = (r.load files id).1 := by
  induction ids generalizing r with
  | nil => rfl
  | cons listed ids ih =>
    unfold promptEntries
    dsimp only
    rw [ih, Prompt.Registry.load_load]

/--
What is printed about what a load of an id gives: the prompt, or why there is none.
-/
inductive Printed (id : String) : Except Prompt.Error Prompt.Spec → Json → Prop where
  | prompt (spec : Prompt.Spec) : Printed id (.ok spec) (.object [
      ("description", .string spec.description),
      ("id", .string spec.id),
      ("purpose", .string spec.purpose),
      ("version", .string spec.version)])
  | obstacle (e : Prompt.Error) : Printed id (.error e) (.object [("error", .string e.message), ("id", .string id)])

theorem printed_iff {id : String} {result : Except Prompt.Error Prompt.Spec} {entry : Json} :
    Printed id result entry ↔ entry = promptEntry id result := by
  constructor
  . intro h
    cases h <;> rfl
  . rintro rfl
    cases result with
    | ok spec => exact .prompt spec
    | error e => exact .obstacle e

theorem promptEntry_eq_prompt_iff {id shown version purpose description : String}
    {result : Except Prompt.Error Prompt.Spec} :
    promptEntry id result = .object [
      ("description", .string description),
      ("id", .string shown),
      ("purpose", .string purpose),
      ("version", .string version)] ↔
    ∃ spec, result = .ok spec ∧ spec.id = shown ∧ spec.version = version ∧ spec.purpose = purpose ∧
      spec.description = description := by
  cases result with
  | error e => simp [promptEntry]
  | ok spec =>
    simp only [promptEntry, Json.object.injEq, List.cons.injEq, Prod.mk.injEq, Json.string.injEq, Except.ok.injEq,
      exists_eq_left', true_and, and_true]
    constructor
    . rintro ⟨hdescription, hid, hpurpose, hversion⟩
      exact ⟨hid, hversion, hpurpose, hdescription⟩
    . rintro ⟨hid, hversion, hpurpose, hdescription⟩
      exact ⟨hdescription, hid, hpurpose, hversion⟩

/--
The list of prompts has the names of the files of prompts in increasing order, and one entry for each of them, whatever the
other files hold. What an entry shows is what a load of the name gives, before and after the command, and what the file holds
unless the name has been loaded before. If each prompt has the name of its file for its id, then every id that is shown without
an error loads the prompt that is shown.
-/
theorem listPrompts_faithful (p : Pipeline σ τ) (hfiles : files.Unambiguous) (o : Occasion) (s : State σ τ) :
    let ids := Prompt.ids files s.prompts.directory
    let outcome := execute p files o .listPrompts s
    let load (id : String) := (outcome.state.prompts.load files id).1
    ids.Pairwise (· < ·) ∧
    (∀ id, id ∈ ids ↔ id ≠ "" ∧ ∃ path, files.locate s.prompts.directory = .ok path ∧
      (files.lookup? (path ++ [id ++ ".yaml"])).isSome = true) ∧
    (∀ id, load id = (s.prompts.load files id).1) ∧
    (∀ id, s.prompts.catalog.loaded.get? id = none → ∀ spec,
      load id = .ok spec ↔ Prompt.Gives s.prompts.directory files id spec) ∧
    ∃ entries, outcome.answer = .found (.array entries) ∧
      List.Forall₂ (fun id entry => Printed id (load id) entry) ids entries ∧
      ((∀ id ∈ ids, ∀ spec, load id = .ok spec → spec.id = id) →
        ∀ shown version purpose description, Json.object [
          ("description", .string description),
          ("id", .string shown),
          ("purpose", .string purpose),
          ("version", .string version)] ∈ entries →
        ∃ spec, load shown = .ok spec ∧ spec.id = shown ∧ spec.version = version ∧ spec.purpose = purpose ∧
          spec.description = description) := by
  intro ids outcome load
  have hload (id : String) : load id = (s.prompts.load files id).1 := load_promptEntries files s.prompts ids id
  have hentries : (promptEntries files s.prompts ids).1 = ids.map fun id => promptEntry id (load id) := by
    simp only [promptEntries_fst, hload]
  refine ⟨Prompt.pairwise_ids hfiles _, fun id => Prompt.mem_ids_iff, hload, ?_, _, rfl, ?_, ?_⟩
  . intro id hnone spec
    rw [hload, ← Prompt.fetch_eq_ok_iff]
    unfold Prompt.Registry.load
    rw [Catalog.load_of_none hnone]
  . rw [hentries, List.forall₂_map_right_iff, List.forall₂_same]
    exact fun id _ => printed_iff.mpr rfl
  . intro hnamed shown version purpose description hmem
    rw [hentries, List.mem_map] at hmem
    obtain ⟨id, hid, hentry⟩ := hmem
    obtain ⟨spec, hspec, hshown, hfields⟩ := promptEntry_eq_prompt_iff.mp hentry
    obtain rfl : id = shown := (hnamed id hid spec hspec).symm.trans hshown
    exact ⟨spec, hspec, hshown, hfields⟩

/--
One of two prompts is broken. Both are listed, and what is shown of the other one is found under the id that is shown.
-/
theorem listPrompts_faithful_broken :
    let p : Pipeline Unit Unit := ⟨.ofRoutes (.ofStandard []), .disabled, false, none, .plain⟩
    let files : Files := ⟨[
      (["prompts"], .directory),
      (["prompts", "b.yaml"], .text "id: ["),
      (["prompts", "notes.txt"], .text "id: notes"),
      (["prompts", "a.yaml"], .text "id: a\nversion: 2\nsystem_prompt: s\nuser_prompt_template: u\n")]⟩
    let o : Occasion := ⟨"a", .epoch, .epoch⟩
    let s : State Unit Unit := ⟨.ofDirectory "prompts", .ofDirectory "schemas", (), ()⟩
    let outcome := execute p files o .listPrompts s
    let load (id : String) := (outcome.state.prompts.load files id).1
    files.Unambiguous ∧ "b" ∈ Prompt.ids files "prompts" ∧ load "b" = .error (.malformed "b") ∧
      ∃ entries, outcome.answer = .found (.array entries) ∧ Json.object [
        ("description", .string ""), ("id", .string "a"), ("purpose", .string ""), ("version", .string "2")] ∈ entries ∧
      ∃ spec, load "a" = .ok spec ∧ spec.version = "2" := by
  intro p files o s outcome load
  have hfiles : files.Unambiguous := by decide +kernel
  obtain ⟨-, -, hload, -, entries, hentries, hprinted, htrusted⟩ := listPrompts_faithful p hfiles o s
  have hbroken : load "b" = .error (.malformed "b") := (hload "b").trans (by decide +kernel)
  have hshown : promptEntry "a" (load "a") = .object [
      ("description", .string ""), ("id", .string "a"), ("purpose", .string ""), ("version", .string "2")] :=
    (congrArg (promptEntry "a") (hload "a")).trans (by decide +kernel)
  have hnames : (files.names "prompts").filterMap Prompt.idOfFile? = ["b", "a"] := by decide +kernel
  have hmem (id : String) : id ∈ Prompt.ids files "prompts" ↔ id = "b" ∨ id = "a" := by
    unfold Prompt.ids
    rw [hnames, List.mem_mergeSort, List.mem_cons, List.mem_singleton]
  obtain ⟨spec, hgood, hspec, -⟩ := promptEntry_eq_prompt_iff.mp hshown
  have hnamed : ∀ id ∈ Prompt.ids files "prompts", ∀ spec, load id = .ok spec → spec.id = id := by
    intro id hid other hother
    rcases (hmem id).mp hid with rfl | rfl
    . rw [hbroken] at hother
      contradiction
    . rw [hgood] at hother
      cases hother
      exact hspec
  obtain ⟨i, hi, hat⟩ := List.getElem_of_mem ((hmem "a").mpr (.inr rfl))
  have hi' : i < entries.length := hprinted.length_eq ▸ hi
  have hentry := hprinted.get hi hi'
  change Printed (Prompt.ids files "prompts")[i] (load (Prompt.ids files "prompts")[i]) entries[i] at hentry
  rw [hat] at hentry
  have hin : promptEntry "a" (load "a") ∈ entries := printed_iff.mp hentry ▸ List.getElem_mem hi'
  rw [hshown] at hin
  obtain ⟨found, hfound, -, hversion, -⟩ := htrusted hnamed _ _ _ _ hin
  exact ⟨hfiles, (hmem "b").mpr (.inl rfl), hbroken, entries, hentries, hin, found, hfound, hversion⟩

/--
The id in the file of a prompt may be another one than its name. Then the list shows a prompt under an id that loads
nothing.
-/
theorem listPrompts_misnamed :
    let p : Pipeline Unit Unit := ⟨.ofRoutes (.ofStandard []), .disabled, false, none, .plain⟩
    let files : Files := ⟨[
      (["prompts"], .directory),
      (["prompts", "b.yaml"], .text "id: a\nsystem_prompt: s\nuser_prompt_template: u\n")]⟩
    let o : Occasion := ⟨"a", .epoch, .epoch⟩
    let s : State Unit Unit := ⟨.ofDirectory "prompts", .ofDirectory "schemas", (), ()⟩
    let outcome := execute p files o .listPrompts s
    outcome.answer = .found (.array [.object [
      ("description", .string ""), ("id", .string "a"), ("purpose", .string ""), ("version", .string "1.0.0")]]) ∧
    (outcome.state.prompts.load files "a").1 = .error (.notFound "a" "prompts/a.yaml") := by
  intro p files o s outcome
  have hids : Prompt.ids files "prompts" = ["b"] := by
    have hnames : (files.names "prompts").filterMap Prompt.idOfFile? = ["b"] := by decide +kernel
    unfold Prompt.ids
    rw [hnames, List.mergeSort_singleton]
  have hlisted : promptEntries files s.prompts (Prompt.ids files "prompts") = promptEntries files s.prompts ["b"] := by
    rw [hids]
  constructor
  . show Answer.found (.array (promptEntries files s.prompts (Prompt.ids files "prompts")).1) = _
    rw [hlisted]
    decide +kernel
  . show ((promptEntries files s.prompts (Prompt.ids files "prompts")).2.load files "a").1 = _
    rw [load_promptEntries]
    decide +kernel

end Command
end Triage
