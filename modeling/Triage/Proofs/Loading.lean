import Triage.Proofs.Catalog
import Triage.Proofs.Files
import Triage.Prompt.Registry
import Triage.Schema.Registry

/-!
This module contains what prompts and schemas are loaded while their files change: each is what its file held when it
was first loaded with success since the last clearing. A schema is loaded in the same way for whatever it is asked about,
and values are judged by it as it was loaded.
-/

namespace Triage

open Catalog (Step Stage LoadedAt KeepsFirst filesAfter)

namespace Prompt

/--
Whether the file of a prompt holds it.
-/
def Gives (directory : String) (files : Files) (id : String) (spec : Spec) : Prop :=
  ∃ text, files.read (path directory id) = .ok text ∧ Spec.ofYaml id text = .ok spec

theorem fetch_eq_ok_iff (directory : String) (files : Files) (id : String) (spec : Spec) :
    fetch files directory id = .ok spec ↔ Gives directory files id spec := by
  unfold fetch Gives
  dsimp only
  cases hread : files.read (path directory id) with
  | error e => split <;> simp
  | ok text =>
    rw [if_pos (Files.isFile_of_read hread)]
    simp

namespace Registry

def next (s : Stage Registry) : Step Unit → Stage Registry
  | .load _ id => { s with kept := (s.kept.load s.files id).2 }
  | .clear => { s with kept := s.kept.clear }
  | .change c => { s with files := c.apply s.files }

/--
A registry and its files after some steps, from its creation on.
-/
def after (directory : String) (files : Files) (steps : List (Step Unit)) : Stage Registry :=
  steps.foldl next ⟨files, ofDirectory directory⟩

theorem next_map (directory : String) (s : Stage (Catalog Spec)) (step : Step Unit) :
    next (s.map (Registry.mk directory)) step =
      (Catalog.next (fun files => fetch files directory) s step).map (Registry.mk directory) := by
  cases step <;> rfl

theorem after_eq (directory : String) (files : Files) (steps : List (Step Unit)) :
    after directory files steps =
      (Catalog.after (fun files => fetch files directory) files steps).map (Registry.mk directory) := by
  have hstart : Stage.mk files (ofDirectory directory) = Stage.map (Registry.mk directory) ⟨files, Catalog.empty⟩ := rfl
  unfold after Catalog.after
  rw [hstart]
  exact List.foldl_hom (Stage.map (Registry.mk directory)) (next_map directory)

theorem keepsFirst_after (directory : String) (files : Files) (steps : List (Step Unit)) :
    KeepsFirst (Gives directory) (fun files => fetch files directory) files steps (after directory files steps).kept
      ((after directory files steps).kept.load (after directory files steps).files) := by
  have hkept := Catalog.keepsFirst_after (fetch_eq_ok_iff directory) files steps
  rw [after_eq]
  rw [← Catalog.files_after fun files => fetch files directory] at hkept
  exact hkept.map (Registry.mk directory)

theorem count_after (directory : String) (files : Files) (steps : List (Step Unit)) :
    ∃ ids : List String, ids.Nodup ∧ (after directory files steps).kept.count = ids.length ∧
      ∀ id, id ∈ ids ↔ ∃ before, LoadedAt steps id before ∧
        let s := after directory files before
        ∃ spec, (s.kept.load s.files id).1 = .ok spec := by
  obtain ⟨ids, hnodup, hcount, hmem⟩ :=
    Catalog.count_after (fetch_eq_ok_iff directory) files steps
  refine ⟨ids, hnodup, ?_, ?_⟩
  . rw [after_eq]
    exact hcount
  . intro id
    simp only [after_eq, hmem, ← Catalog.files_after fun files => fetch files directory]
    rfl

end Registry
end Prompt

namespace Schema

/--
Whether the file of a schema holds it.
-/
def Gives (library : Library) (directory : String) (files : Files) (name : String) (d : Document) : Prop :=
  ∃ text v, files.read (path directory name) = .ok text ∧ Json.parse? text = some v ∧ library.compile v = some d

theorem fetch_eq_ok_iff (library : Library) (directory : String) (files : Files) (name : String) (d : Document) :
    fetch library files directory name = .ok d ↔ Gives library directory files name d := by
  unfold fetch Gives
  cases files.read (path directory name) with
  | error e => simp
  | ok text =>
    dsimp only
    cases hparse : Json.parse? text with
    | none => simp [hparse]
    | some v =>
      dsimp only
      cases hdocument : library.compile v with
      | none => simp [hparse, hdocument]
      | some d' => simp [hparse, hdocument]

namespace Validator

variable {files : Files} {name : String} {s : Validator} {d : Document} {e : Error}

/--
What a schema is loaded for.
-/
inductive Use where
  | load
  | validate (v : Json)
  | accepts (v : Json)

def next (s : Stage Validator) : Step Use → Stage Validator
  | .load .load name => { s with kept := (s.kept.load s.files name).2 }
  | .load (.validate v) name => { s with kept := (s.kept.validate s.files name v).2 }
  | .load (.accepts v) name => { s with kept := (s.kept.accepts s.files name v).2 }
  | .clear => { s with kept := s.kept.clear }
  | .change c => { s with files := c.apply s.files }

/--
A validator and its files after some steps, from its creation on.
-/
def after (library : Library) (directory : String) (files : Files) (steps : List (Step Use)) : Stage Validator :=
  steps.foldl next ⟨files, ofLibrary library directory⟩

/--
What a schema says about a value: it accepts what it finds no faults in, and of all others it tells some faults.
-/
inductive Judged (d : Document) (name : String) (v : Json) : Except Error Unit → Prop where
  | accepted (h : d.faults v = []) : Judged d name v (.ok ())
  | rejected {messages : List String} (h : d.faults v ≠ [])
      (hmessages : messages = ((d.faults v).take 5).map Violation.message)
      (hleast : 1 ≤ messages.length) (hmost : messages.length ≤ 5) : Judged d name v (.error (.invalid name messages))

/--
A value is judged, softly or not, by the schema that a load would give, and what is kept is the same as after the load.
-/
structure Judges (files : Files) (s : Validator) (name : String) (v : Json) : Prop where
  found : ∀ d, (s.load files name).1 = .ok d → Judged d name v (s.validate files name v).1
  missing : ∀ e, (s.load files name).1 = .error e → (s.validate files name v).1 = .error e
  agrees : (s.accepts files name v).1 = true ↔ (s.validate files name v).1 = .ok ()
  kept : (s.validate files name v).2 = (s.load files name).2
  keptSoftly : (s.accepts files name v).2 = (s.load files name).2

theorem validate_of_error (h : (s.load files name).1 = .error e) (v : Json) :
    (s.validate files name v).1 = .error e := by
  unfold validate
  dsimp only
  rw [h]

theorem validate_of_load (h : (s.load files name).1 = .ok d) (v : Json) :
    (s.validate files name v).1 = if d.report v = [] then .ok () else .error (.invalid name (d.report v)) := by
  unfold validate
  dsimp only
  rw [h]
  simp only [List.isEmpty_iff]

theorem validate_snd (files : Files) (s : Validator) (name : String) (v : Json) :
    (s.validate files name v).2 = (s.load files name).2 := by
  unfold validate
  dsimp only
  cases (s.load files name).1 <;> rfl

theorem accepts_snd (files : Files) (s : Validator) (name : String) (v : Json) :
    (s.accepts files name v).2 = (s.load files name).2 :=
  validate_snd files s name v

theorem accepts_congr (files : Files) (s : Validator) (name : String) (v w : Json) :
    (s.accepts files name v).2 = (s.accepts files name w).2 := by
  rw [accepts_snd, accepts_snd]

theorem judged_of_load (h : (s.load files name).1 = .ok d) (v : Json) :
    Judged d name v (s.validate files name v).1 := by
  rw [validate_of_load h]
  cases hfaults : d.faults v with
  | nil =>
    have hreport : d.report v = [] := by
      unfold Document.report
      rw [hfaults]
      rfl
    rw [if_pos hreport]
    exact .accepted hfaults
  | cons fault faults =>
    have hreport : d.report v = ((fault :: faults).take 5).map Violation.message := by
      unfold Document.report
      rw [hfaults]
      rfl
    have hlength : (d.report v).length = min 5 (faults.length + 1) := by
      rw [hreport, List.length_map, List.length_take, List.length_cons]
    have hne : d.report v ≠ [] := by
      rw [hreport]
      exact nofun
    rw [if_neg hne]
    refine .rejected (by rw [hfaults]; exact nofun) (by rw [hreport, hfaults]) ?_ ?_
    . omega
    . omega

theorem judges (files : Files) (s : Validator) (name : String) (v : Json) : Judges files s name v := by
  refine ⟨fun d h => judged_of_load h v, fun e h => validate_of_error h v, ?_, validate_snd files s name v,
    accepts_snd files s name v⟩
  unfold accepts
  dsimp only
  cases (s.validate files name v).1 with
  | error e => simp [Except.toBool]
  | ok => simp [Except.toBool]

theorem next_map (library : Library) (directory : String) (s : Stage (Catalog Document)) (step : Step Use) :
    next (s.map (Validator.mk directory library)) step =
      (Catalog.next (fun files => fetch library files directory) s step).map (Validator.mk directory library) := by
  cases step with
  | load use name =>
    have hload : Stage.mk s.files ((Validator.mk directory library s.kept).load s.files name).2 =
        (Catalog.next (fun files => fetch library files directory) s (.load use name)).map
          (Validator.mk directory library) := rfl
    rw [← hload]
    cases use with
    | load => rfl
    | validate v => exact congrArg (Stage.mk s.files) (validate_snd s.files _ name v)
    | accepts v => exact congrArg (Stage.mk s.files) (accepts_snd s.files _ name v)
  | clear => rfl
  | change c => rfl

theorem after_eq (library : Library) (directory : String) (files : Files) (steps : List (Step Use)) :
    after library directory files steps =
      (Catalog.after (fun files => fetch library files directory) files steps).map (Validator.mk directory library) := by
  have hstart : Stage.mk files (ofLibrary library directory) =
      Stage.map (Validator.mk directory library) ⟨files, Catalog.empty⟩ := rfl
  unfold after Catalog.after
  rw [hstart]
  exact List.foldl_hom (Stage.map (Validator.mk directory library)) (next_map library directory)

theorem keepsFirst_after (library : Library) (directory : String) (files : Files) (steps : List (Step Use)) :
    let s := after library directory files steps
    KeepsFirst (Gives library directory) (fun files => fetch library files directory) files steps s.kept
      (s.kept.load s.files) := by
  have hkept := Catalog.keepsFirst_after (fetch_eq_ok_iff library directory) files steps
  rw [after_eq]
  rw [← Catalog.files_after fun files => fetch library files directory] at hkept
  exact hkept.map (Validator.mk directory library)

end Validator
end Schema

/--
What has been loaded is kept as it was. After any steps, among them changes of the files and clearings, a prompt or a
schema is what its file held at the first load with success since the last clearing, whatever the file holds now, and
without such a load what the file holds now; a failure changes nothing. A registry counts the prompts that were loaded
with success since then. A value is judged by the schema that is loaded in this way, which is kept whatever the verdict,
and a refusal tells one to five faults. All this holds for any library that compiles the schemas.
-/
theorem keeps_first_loaded (library : Schema.Library) (directory : String) (files : Files) :
    (∀ steps : List (Step Unit), let s := Prompt.Registry.after directory files steps
      KeepsFirst (Prompt.Gives directory) (fun files => Prompt.fetch files directory) files steps s.kept
        (s.kept.load s.files) ∧
      ∃ ids : List String, ids.Nodup ∧ s.kept.count = ids.length ∧
        ∀ id, id ∈ ids ↔ ∃ before, LoadedAt steps id before ∧
          let s := Prompt.Registry.after directory files before
          ∃ spec, (s.kept.load s.files id).1 = .ok spec) ∧
    ∀ steps : List (Step Schema.Validator.Use), let s := Schema.Validator.after library directory files steps
      KeepsFirst (Schema.Gives library directory) (fun files => Schema.fetch library files directory) files steps s.kept
        (s.kept.load s.files) ∧
      ∀ name v, Schema.Validator.Judges s.files s.kept name v := by
  constructor
  . intro steps s
    obtain ⟨ids, hnodup, hcount, hmem⟩ := Prompt.Registry.count_after directory files steps
    exact ⟨Prompt.Registry.keepsFirst_after directory files steps, ids, hnodup, hcount, hmem⟩
  . intro steps s
    exact ⟨Schema.Validator.keepsFirst_after library directory files steps, Schema.Validator.judges s.files s.kept⟩

end Triage
