import Triage.Proofs.Repair.Valid

/-!
This module contains what the number of rounds means for a repair. What has been repaired is JSON, which no repair
changes, and more rounds never change what fewer rounds have made of a text.
-/

namespace Triage
namespace Repair

variable {n m : Nat} {cs found : List Char} {text repaired : String} {rounds : UInt32}

theorem search_succ (n : Nat) (cs : List Char) :
    search (n + 1) cs = if isJson (round cs) then some (round cs) else search n (round cs) := rfl

theorem isJson_of_search (h : search n cs = some found) : isJson found = true := by
  induction n generalizing cs with
  | zero => contradiction
  | succ n ih =>
    rw [search_succ] at h
    split at h
    . next hjson =>
      cases h
      exact hjson
    . exact ih h

theorem search_of_le (h : search n cs = some found) (hle : n ≤ m) : search m cs = some found := by
  induction n generalizing cs m with
  | zero => contradiction
  | succ n ih =>
    obtain ⟨m, rfl⟩ := Nat.exists_eq_add_of_le' (Nat.le_trans (Nat.le_add_left 1 n) hle)
    rw [search_succ] at h ⊢
    split
    . next hjson => rwa [if_pos hjson] at h
    . next hjson =>
      rw [if_neg hjson] at h
      exact ih h (Nat.le_of_succ_le_succ hle)

/--
A text is repaired to itself if it is JSON, and else to what is found in so many rounds.
-/
theorem repair_eq_ok_iff : repair text rounds = .ok repaired ↔
    Text.isAllBlank text = false ∧
      if isJson text.toList then repaired = text else search rounds.toNat text.toList = some repaired.toList := by
  unfold repair
  cases Text.isAllBlank text with
  | true => simp
  | false =>
    cases isJson text.toList with
    | true => simp [eq_comm]
    | false =>
      cases search rounds.toNat text.toList with
      | none => simp
      | some found =>
        have htext : String.ofList found = repaired ↔ found = repaired.toList := by
          constructor
          . rintro rfl
            rw [String.toList_ofList]
          . rintro rfl
            rw [String.ofList_toList]
        simpa using htext

theorem isJson_of_repair (h : repair text rounds = .ok repaired) : isJson repaired.toList = true := by
  have hfound := (repair_eq_ok_iff.mp h).2
  split at hfound
  . next hjson => rwa [hfound]
  . exact isJson_of_search hfound

theorem repair_of_le {more : UInt32} (h : repair text rounds = .ok repaired) (hle : rounds ≤ more) :
    repair text more = .ok repaired := by
  obtain ⟨hblank, hfound⟩ := repair_eq_ok_iff.mp h
  refine repair_eq_ok_iff.mpr ⟨hblank, ?_⟩
  split
  . next hjson => rwa [if_pos hjson] at hfound
  . next hjson =>
    rw [if_neg hjson] at hfound
    exact search_of_le hfound (UInt32.le_iff_toNat_le.mp hle)

theorem exists_parse?_of_isJson (h : isJson text.toList = true) : ∃ v, Json.parse? text = some v := by
  obtain ⟨v, hread⟩ := Option.isSome_iff_exists.mp h
  refine ⟨v.canonical, ?_⟩
  unfold Json.parse? Json.read?
  rw [hread]
  rfl

theorem original_of_repair {e : RepairError} (h : repair text rounds = .error e) : e.original = text := by
  unfold repair at h
  split at h
  . cases h
    rfl
  . split at h
    . contradiction
    . split at h
      . contradiction
      . cases h
        rfl

/--
A repair gives JSON, which stays as it is in any other repair, and it gives the same in more rounds. If it fails, it
fails in fewer rounds too. Every failure has the text as it was.
-/
theorem repair_stable (text : String) (rounds : UInt32) :
    (∀ repaired, repair text rounds = .ok repaired →
      (∃ v, Json.parse? repaired = some v) ∧ (∀ any, repair repaired any = .ok repaired) ∧
      ∀ more, rounds ≤ more → repair text more = .ok repaired) ∧
    ∀ e, repair text rounds = .error e →
      e.original = text ∧ ∀ fewer, fewer ≤ rounds → ∃ e', repair text fewer = .error e' ∧ e'.original = text := by
  constructor
  . intro repaired h
    obtain ⟨v, hparse⟩ := exists_parse?_of_isJson (isJson_of_repair h)
    exact ⟨⟨v, hparse⟩, repair_of_parse? hparse, fun more hle => repair_of_le h hle⟩
  . intro e h
    refine ⟨original_of_repair h, ?_⟩
    intro fewer hle
    cases hfewer : repair text fewer with
    | error e' => exact ⟨e', rfl, original_of_repair hfewer⟩
    | ok repaired =>
      rw [repair_of_le hfewer hle] at h
      contradiction

end Repair
end Triage
