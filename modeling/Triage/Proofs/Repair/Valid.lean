import Triage.Proofs.Json.Blanks
import Triage.Proofs.Text.Lines
import Triage.Repair

/-!
This module contains the repair of text that is JSON already. Nothing is repaired, however often it may be, and the
answer is the object that the text stands for.
-/

namespace Triage

open Json

namespace Repair

/--
The text of a value is not blank, whatever the value is.
-/
theorem not_all_isBlank_of_readWithin {limit : Nat} {cs : List Char} {v : Json} (h : readWithin limit cs = some v) :
    cs.all Text.isBlank = false := by
  unfold readWithin at h
  obtain ⟨r, hrun, hfinish⟩ := Option.bind_eq_some_iff.mp h
  rw [Bool.eq_false_iff]
  intro hblank
  have hstart := Reader.run_trimStart hrun
  rw [Text.trimStart_of_blank (List.all_eq_true.mp hblank)] at hstart
  cases hstart
  contradiction

end Repair

variable {text : String} {v : Json} {members : Json.Object}

theorem parse?_eq_some_object_iff : Json.parse? text = some (.object members) ↔
    ∃ ms, readWithin depthLimit text.toList = some (.object ms) ∧ members = Members.sorted (canonicalMembers ms) := by
  unfold Json.parse? Json.read?
  cases readWithin depthLimit text.toList with
  | none => simp
  | some v =>
    cases v with
    | object ms => simp [canonical, eq_comm]
    | _ => simp [canonical]

theorem repair_of_parse? (h : Json.parse? text = some v) (rounds : UInt32) : repair text rounds = .ok text := by
  unfold Json.parse? Json.read? at h
  obtain ⟨w, hread, -⟩ := Option.map_eq_some_iff.mp h
  have hblank : Text.isAllBlank text = false := Repair.not_all_isBlank_of_readWithin hread
  have hjson : Repair.isJson text.toList = true := by
    unfold Repair.isJson
    rw [hread]
    rfl
  unfold repair
  rw [hblank, hjson]
  simp

theorem parseAnswer_of_parse? (h : Json.parse? text = some (.object members)) : parseAnswer text = .ok members := by
  unfold parseAnswer repairDefault
  rw [repair_of_parse? h]
  dsimp only
  rw [h]

end Triage
