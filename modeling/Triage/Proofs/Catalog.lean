import Mathlib.Data.List.Induction
import Triage.Catalog
import Triage.Files

/-!
This module contains what a catalog gives while the files that it is filled from change. Under each name it is what the
files gave when the name was first loaded with success since the catalog was cleared.
-/

namespace Triage

/--
A change of a tree of files.
-/
inductive Files.Change where
  | write (path : String) (entry : Files.Entry)
  | delete (path : String)

def Files.Change.apply (c : Files.Change) (files : Files) : Files :=
  match c with
  | .write path entry => files.write path entry
  | .delete path => files.delete path

namespace Catalog

/--
What can happen to a catalog and its files. A name is loaded for a purpose, which may do more than look at what stands
under the name.
-/
inductive Step (κ : Type) where
  | load (purpose : κ) (name : String)
  | clear
  | change (c : Files.Change)

/--
A tree of files, and what is kept of it.
-/
structure Stage (γ : Type) where
  files : Files
  kept : γ

def Stage.map {γ δ : Type} (f : γ → δ) (s : Stage γ) : Stage δ :=
  ⟨s.files, f s.kept⟩

variable {κ α ε γ : Type} {fetch : Files → String → Except ε α} {gives : Files → String → α → Prop}
variable {files : Files} {steps before : List (Step κ)} {name : String} {a : α} {c : Catalog α}

def Step.change? : Step κ → Option Files.Change
  | .load _ _ | .clear => none
  | .change c => some c

/--
The files after some steps, of which only the changes matter.
-/
def filesAfter (files : Files) (steps : List (Step κ)) : Files :=
  (steps.filterMap Step.change?).foldl (fun files c => c.apply files) files

def next (fetch : Files → String → Except ε α) (s : Stage (Catalog α)) : Step κ → Stage (Catalog α)
  | .load _ name => { s with kept := (s.kept.load (fetch s.files) name).2 }
  | .clear => { s with kept := empty }
  | .change c => { s with files := c.apply s.files }

def after (fetch : Files → String → Except ε α) (files : Files) (steps : List (Step κ)) : Stage (Catalog α) :=
  steps.foldl (next fetch) ⟨files, empty⟩

/--
Whether a name is loaded right after the steps `before`, and nothing is cleared after that.
-/
def LoadedAt (steps : List (Step κ)) (name : String) (before : List (Step κ)) : Prop :=
  ∃ purpose later, steps = before ++ .load purpose name :: later ∧ .clear ∉ later

/--
Whether `a` is what the files gave when a name was first loaded with success since the last clearing.
-/
def Snapshot (gives : Files → String → α → Prop) (files : Files) (steps : List (Step κ)) (name : String) (a : α) :
    Prop :=
  ∃ before, LoadedAt steps name before ∧ gives (filesAfter files before) name a ∧
    ∀ earlier, LoadedAt before name earlier → ∀ b, ¬ gives (filesAfter files earlier) name b

/--
What is loaded after some steps is the snapshot, and without a snapshot what the files give now. A load that fails, or
whose name is kept, changes nothing.
-/
structure KeepsFirst (gives : Files → String → α → Prop) (fetch : Files → String → Except ε α) (files : Files)
    (steps : List (Step κ)) (kept : γ) (load : String → Except ε α × γ) : Prop where
  fetched : ∀ files name a, fetch files name = .ok a ↔ gives files name a
  snapshot : ∀ name a, Snapshot gives files steps name a → load name = (.ok a, kept)
  now : ∀ name, (∀ a, ¬ Snapshot gives files steps name a) → (load name).1 = fetch (filesAfter files steps) name
  failure : ∀ name e, (load name).1 = .error e → (load name).2 = kept

theorem KeepsFirst.map {δ : Type} {kept : γ} {load : String → Except ε α × γ} (f : γ → δ)
    (h : KeepsFirst gives fetch files steps kept load) :
    KeepsFirst gives fetch files steps (f kept) fun name => ((load name).1, f (load name).2) := by
  refine ⟨h.fetched, ?_, h.now, ?_⟩
  . intro name a hsnapshot
    rw [h.snapshot name a hsnapshot]
  . intro name e herror
    rw [h.failure name e herror]

theorem filesAfter_concat (files : Files) (steps : List (Step κ)) (step : Step κ) :
    filesAfter files (steps ++ [step]) = match step with
      | .change c => c.apply (filesAfter files steps)
      | .load _ _ | .clear => filesAfter files steps := by
  unfold filesAfter
  rw [List.filterMap_append, List.foldl_append]
  cases step <;> rfl

theorem after_concat (fetch : Files → String → Except ε α) (files : Files) (steps : List (Step κ)) (step : Step κ) :
    after fetch files (steps ++ [step]) = next fetch (after fetch files steps) step := by
  unfold after
  rw [List.foldl_append]
  rfl

theorem files_after (fetch : Files → String → Except ε α) (files : Files) (steps : List (Step κ)) :
    (after fetch files steps).files = filesAfter files steps := by
  induction steps using List.reverseRecOn with
  | nil => rfl
  | append_singleton steps step ih =>
    rw [after_concat, filesAfter_concat]
    cases step with
    | load purpose name => exact ih
    | clear => exact ih
    | change c => exact congrArg c.apply ih

/-! A load of a catalog. -/

theorem load_of_get? (h : c.loaded.get? name = some a) (fetch : String → Except ε α) :
    c.load fetch name = (.ok a, c) := by
  unfold load
  rw [h]

theorem load_of_none (h : c.loaded.get? name = none) (fetch : String → Except ε α) :
    c.load fetch name = (fetch name, match fetch name with
      | .ok a => ⟨(name, a) :: c.loaded⟩
      | .error _ => c) := by
  unfold load
  rw [h]
  dsimp only
  cases fetch name <;> rfl

theorem load_of_error {fetch : String → Except ε α} {e : ε} (h : (c.load fetch name).1 = .error e) :
    (c.load fetch name).2 = c := by
  cases hget : c.loaded.get? name with
  | some a => rw [load_of_get? hget]
  | none =>
    rw [load_of_none hget] at h ⊢
    dsimp only at h ⊢
    rw [h]

theorem get?_load_iff {fetch : String → Except ε α} {other : String} :
    (c.load fetch name).2.loaded.get? other = some a ↔
      c.loaded.get? other = some a ∨ (name = other ∧ c.loaded.get? other = none ∧ fetch other = .ok a) := by
  cases hget : c.loaded.get? name with
  | some b =>
    rw [load_of_get? hget]
    constructor
    . exact .inl
    . rintro (h | ⟨rfl, hnone, -⟩)
      . exact h
      . rw [hget] at hnone
        contradiction
  | none =>
    rw [load_of_none hget]
    dsimp only
    by_cases hname : name = other
    . subst hname
      rw [hget]
      cases hfetch : fetch name with
      | error e => simp [hget]
      | ok b => simp [Members.get?]
    . cases hfetch : fetch name with
      | error e => simp [hname]
      | ok b => simp [Members.get?, hname]

theorem nodup_load {fetch : String → Except ε α} (h : (c.loaded.map Prod.fst).Nodup) :
    ((c.load fetch name).2.loaded.map Prod.fst).Nodup := by
  cases hget : c.loaded.get? name with
  | some b => rwa [load_of_get? hget]
  | none =>
    rw [load_of_none hget]
    dsimp only
    cases fetch name with
    | error e => exact h
    | ok b =>
      rw [List.map_cons, List.nodup_cons]
      refine ⟨?_, h⟩
      intro hmem
      obtain ⟨kept, hkept, hname⟩ := List.mem_map.mp hmem
      subst hname
      rw [Members.get?_of_mem h hkept] at hget
      contradiction

/-! The snapshots after one more step. -/

theorem not_loadedAt_nil (name : String) (before : List (Step κ)) : ¬ LoadedAt [] name before := by
  rintro ⟨purpose, later, h, -⟩
  simp at h

theorem loadedAt_concat {step : Step κ} : LoadedAt (steps ++ [step]) name before ↔
    (step ≠ .clear ∧ LoadedAt steps name before) ∨ ((∃ purpose, step = .load purpose name) ∧ before = steps) := by
  constructor
  . rintro ⟨purpose, later, h, hclear⟩
    rcases List.eq_nil_or_concat later with rfl | ⟨later, last, rfl⟩
    . obtain ⟨rfl, hstep⟩ := List.append_inj' h rfl
      exact .inr ⟨⟨purpose, List.singleton_inj.mp hstep⟩, rfl⟩
    . rw [List.concat_eq_append, ← List.cons_append, ← List.append_assoc] at h
      obtain ⟨hsteps, hstep⟩ := List.append_inj' h rfl
      obtain rfl := List.singleton_inj.mp hstep
      rw [List.concat_eq_append, List.mem_append, not_or, List.mem_singleton] at hclear
      exact .inl ⟨Ne.symm hclear.2, purpose, later, hsteps, hclear.1⟩
  . rintro (⟨hstep, purpose, later, rfl, hclear⟩ | ⟨⟨purpose, rfl⟩, rfl⟩)
    . refine ⟨purpose, later ++ [step], by simp, ?_⟩
      rw [List.mem_append, not_or, List.mem_singleton]
      exact ⟨hclear, hstep.symm⟩
    . exact ⟨purpose, [], rfl, List.not_mem_nil⟩

theorem LoadedAt.trans {earlier : List (Step κ)} (h : LoadedAt steps name before)
    (hbefore : LoadedAt before name earlier) :
    LoadedAt steps name earlier := by
  obtain ⟨purpose, later, rfl, hclear⟩ := h
  obtain ⟨purpose', between, rfl, hclear'⟩ := hbefore
  refine ⟨purpose', between ++ .load purpose name :: later, by simp, ?_⟩
  simp [hclear, hclear']

theorem LoadedAt.length_lt (h : LoadedAt steps name before) : before.length < steps.length := by
  obtain ⟨purpose, later, rfl, -⟩ := h
  simp

/--
If a load since the last clearing was given something, then so was a first one.
-/
theorem exists_snapshot {before : List (Step κ)} {a : α} (h : LoadedAt steps name before)
    (hgives : gives (filesAfter files before) name a) : ∃ b, Snapshot gives files steps name b := by
  by_cases hfirst : ∀ earlier, LoadedAt before name earlier → ∀ b, ¬ gives (filesAfter files earlier) name b
  . exact ⟨a, before, h, hgives, hfirst⟩
  . simp only [not_forall, not_not] at hfirst
    obtain ⟨earlier, hearlier, b, hb⟩ := hfirst
    exact exists_snapshot (h.trans hearlier) hb
termination_by before.length
decreasing_by exact hearlier.length_lt

theorem not_snapshot_nil : ¬ Snapshot gives files ([] : List (Step κ)) name a := by
  rintro ⟨before, h, -⟩
  exact not_loadedAt_nil name before h

theorem snapshot_concat {step : Step κ} : Snapshot gives files (steps ++ [step]) name a ↔ match step with
    | .load _ other => Snapshot gives files steps name a ∨
      (other = name ∧ (∀ b, ¬ Snapshot gives files steps name b) ∧ gives (filesAfter files steps) name a)
    | .clear => False
    | .change _ => Snapshot gives files steps name a := by
  unfold Snapshot
  simp only [loadedAt_concat]
  cases step with
  | clear => simp
  | change c => simp
  | load purpose other =>
    constructor
    . rintro ⟨before, ⟨-, h⟩ | ⟨⟨_, hload⟩, rfl⟩, hgives, hfirst⟩
      . exact .inl ⟨before, h, hgives, hfirst⟩
      . cases hload
        refine .inr ⟨rfl, ?_, hgives⟩
        rintro b ⟨earlier, hearlier, hb, -⟩
        exact hfirst earlier hearlier b hb
    . rintro (⟨before, h, hgives, hfirst⟩ | ⟨rfl, hnone, hgives⟩)
      . exact ⟨before, .inl ⟨nofun, h⟩, hgives, hfirst⟩
      . refine ⟨steps, .inr ⟨⟨purpose, rfl⟩, rfl⟩, hgives, ?_⟩
        intro earlier hearlier b hb
        obtain ⟨b', hsnapshot⟩ := exists_snapshot hearlier hb
        exact hnone b' hsnapshot

/-! What is kept after some steps. -/

/--
What is kept are the snapshots.
-/
theorem get?_after (hgives : ∀ files name a, fetch files name = .ok a ↔ gives files name a) :
    (after fetch files steps).kept.loaded.get? name = some a ↔ Snapshot gives files steps name a := by
  induction steps using List.reverseRecOn generalizing name a with
  | nil =>
    constructor
    . intro h
      contradiction
    . intro h
      exact absurd h not_snapshot_nil
  | append_singleton steps step ih =>
    rw [after_concat, snapshot_concat]
    cases step with
    | load purpose other =>
      have hnone : (after fetch files steps).kept.loaded.get? name = none ↔
          ∀ b, ¬ Snapshot gives files steps name b := by
        simp only [← ih, Option.eq_none_iff_forall_ne_some, ne_eq]
      unfold next
      rw [get?_load_iff, ih, hnone, files_after, hgives]
    | clear =>
      constructor
      . intro h
        contradiction
      . intro h
        contradiction
    | change c => exact ih

theorem nodup_after (fetch : Files → String → Except ε α) (files : Files) (steps : List (Step κ)) :
    ((after fetch files steps).kept.loaded.map Prod.fst).Nodup := by
  induction steps using List.reverseRecOn with
  | nil => exact List.nodup_nil
  | append_singleton steps step ih =>
    rw [after_concat]
    cases step with
    | load purpose name => exact nodup_load ih
    | clear => exact List.nodup_nil
    | change c => exact ih

theorem keepsFirst_after (hgives : ∀ files name a, fetch files name = .ok a ↔ gives files name a) (files : Files)
    (steps : List (Step κ)) :
    KeepsFirst gives fetch files steps (after fetch files steps).kept
      ((after fetch files steps).kept.load (fetch (filesAfter files steps))) := by
  refine ⟨hgives, ?_, ?_, ?_⟩
  . intro name a hsnapshot
    exact load_of_get? ((get?_after hgives).mpr hsnapshot) _
  . intro name hnone
    have hget : (after fetch files steps).kept.loaded.get? name = none := by
      rw [Option.eq_none_iff_forall_ne_some]
      intro a ha
      exact hnone a ((get?_after hgives).mp ha)
    rw [load_of_none hget]
  . intro name e h
    exact load_of_error h

/--
A load gives something exactly if there is a snapshot then, or the files give something.
-/
theorem exists_load_iff (hgives : ∀ files name a, fetch files name = .ok a ↔ gives files name a) :
    (∃ a, ((after fetch files steps).kept.load (fetch (filesAfter files steps)) name).1 = .ok a) ↔
      (∃ a, Snapshot gives files steps name a) ∨ ∃ a, gives (filesAfter files steps) name a := by
  have hkeeps := keepsFirst_after hgives files steps
  by_cases hsnapshot : ∃ a, Snapshot gives files steps name a
  . obtain ⟨a, ha⟩ := hsnapshot
    rw [hkeeps.snapshot name a ha]
    exact ⟨fun _ => .inl ⟨a, ha⟩, fun _ => ⟨a, rfl⟩⟩
  . rw [hkeeps.now name (not_exists.mp hsnapshot)]
    simp only [hgives, hsnapshot, false_or]

theorem Snapshot.of_loadedAt (hsnapshot : Snapshot gives files before name a) (h : LoadedAt steps name before) :
    Snapshot gives files steps name a := by
  obtain ⟨first, hfirst, hrest⟩ := hsnapshot
  exact ⟨first, h.trans hfirst, hrest⟩

/--
As many names are kept as were loaded with success since the last clearing.
-/
theorem count_after (hgives : ∀ files name a, fetch files name = .ok a ↔ gives files name a) (files : Files)
    (steps : List (Step κ)) :
    ∃ names : List String, names.Nodup ∧ (after fetch files steps).kept.count = names.length ∧
      ∀ name, name ∈ names ↔ ∃ before, LoadedAt steps name before ∧
        ∃ a, ((after fetch files before).kept.load (fetch (filesAfter files before)) name).1 = .ok a := by
  refine ⟨(after fetch files steps).kept.loaded.map Prod.fst, nodup_after fetch files steps, ?_, ?_⟩
  . rw [List.length_map]
    rfl
  . intro name
    have hmem : name ∈ (after fetch files steps).kept.loaded.map Prod.fst ↔ ∃ a, Snapshot gives files steps name a := by
      simp only [← get?_after hgives]
      constructor
      . intro h
        obtain ⟨kept, hkept, rfl⟩ := List.mem_map.mp h
        exact ⟨kept.2, Members.get?_of_mem (nodup_after fetch files steps) hkept⟩
      . rintro ⟨a, ha⟩
        exact List.mem_map.mpr ⟨_, Members.mem_of_get? ha, rfl⟩
    rw [hmem]
    simp only [exists_load_iff hgives]
    constructor
    . rintro ⟨a, before, h, hbefore, -⟩
      exact ⟨before, h, .inr ⟨a, hbefore⟩⟩
    . rintro ⟨before, h, ⟨a, hsnapshot⟩ | ⟨a, hbefore⟩⟩
      . exact ⟨a, hsnapshot.of_loadedAt h⟩
      . exact exists_snapshot h hbefore

end Catalog
end Triage
