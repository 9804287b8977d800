import Mathlib.Data.List.Induction
import Triage.Proofs.Store.Stored
import Triage.Store

/-!
This module contains the history of the runs in a store: what saving runs in any order and any number of times
leaves behind. Of each run there is one row. Whose run it is and when it started is taken from the first save,
everything else from the save that decides how the run has ended.
-/

namespace Triage

theorem RunStatus.parse_name (s : RunStatus) : parse s.name = .ok s := by
  cases s <;> rfl

theorem Gate.parse_name (g : Gate) : parse g.name = .ok g := by
  cases g <;> decide

/--
The save that decides how far a run has come: the first one that ends the run, or the last one if none does.
-/
def Run.decisive? (saves : List Run) : Option Run :=
  (saves.find? (·.status.isTerminal)).or saves.getLast?

namespace Store

def saveRuns (s : Store) : List Run → List Bool × Store
  | [] => ([], s)
  | r :: rs =>
    let (saved, s) := s.saveRun r
    let (answers, s) := s.saveRuns rs
    (saved :: answers, s)

namespace RunRow

/--
The row of a run after all its saves.
-/
def ofSaves? (saves : List Run) : Option RunRow :=
  match saves.head?, Run.decisive? saves with
  | some first, some decisive => some ((ofRun first).advance (ofRun decisive))
  | _, _ => none

/--
What a row takes from the first save of a run and what it takes from the decisive one.
-/
structure Keeps (row : RunRow) (first decisive : Run) : Prop where
  tenant : row.tenant = first.tenant
  ticket : row.ticket = first.ticket
  createdAt : row.createdAt = first.createdAt.stored
  status : row.status = decisive.status.name
  gate : row.gate = decisive.gate.map Gate.name
  info : row.info = decisive.info.compact
  error : row.error = decisive.error
  completedAt : row.completedAt = decisive.completedAt.map Timestamp.stored

theorem isOpen_ofRun (r : Run) : (ofRun r).isOpen = !r.status.isTerminal := by
  unfold isOpen ofRun
  cases r.status <;> rfl

@[simp]
theorem isOpen_advance (row later : RunRow) : (row.advance later).isOpen = later.isOpen := rfl

@[simp]
theorem advance_advance (row later last : RunRow) :
    (row.advance later).advance last = row.advance last := rfl

@[simp]
theorem advance_self (row : RunRow) : row.advance row = row := rfl

theorem keeps_advance (first decisive : Run) :
    ((ofRun first).advance (ofRun decisive)).Keeps first decisive := by
  constructor <;> rfl

theorem toRun_advance (first decisive : Run) (now : Timestamp) (id : String) :
    toRun now id ((ofRun first).advance (ofRun decisive)) = .ok {
      id := id
      tenant := first.tenant
      ticket := first.ticket
      status := decisive.status
      gate := decisive.gate
      info := storedValue decisive.info.compact
      error := decisive.error
      createdAt := storedTime now first.createdAt.stored
      completedAt := decisive.completedAt.map fun t => storedTime now t.stored } := by
  unfold toRun
  simp only [advance, ofRun, RunStatus.parse_name]
  cases decisive.gate with
  | none => cases decisive.completedAt <;> rfl
  | some gate =>
    simp only [Option.map_some, Option.mapM_some, Gate.parse_name]
    cases decisive.completedAt <;> rfl

theorem ofSaves?_of_ne_nil {saves : List Run} (h : saves ≠ []) :
    ∃ first decisive, saves.head? = some first ∧ Run.decisive? saves = some decisive ∧
      ofSaves? saves = some ((ofRun first).advance (ofRun decisive)) := by
  obtain ⟨first, hfirst⟩ := Option.ne_none_iff_exists'.mp (mt List.head?_eq_none_iff.mp h)
  have hdecisive : Run.decisive? saves ≠ none := by
    simp [Run.decisive?, h]
  obtain ⟨decisive, hdecisive⟩ := Option.ne_none_iff_exists'.mp hdecisive
  refine ⟨first, decisive, hfirst, hdecisive, ?_⟩
  unfold ofSaves?
  rw [hfirst, hdecisive]

theorem isOpen_ofSaves? {saves : List Run} {row : RunRow} (h : ofSaves? saves = some row) :
    row.isOpen = saves.all (!·.status.isTerminal) := by
  unfold ofSaves? Run.decisive? at h
  split at h
  . next first decisive hfirst hdecisive =>
    injection h with h
    rw [← h, isOpen_advance, isOpen_ofRun]
    cases hfind : saves.find? (·.status.isTerminal) with
    | none =>
      rw [hfind, Option.none_or] at hdecisive
      rw [List.find?_eq_none] at hfind
      have hlast := hfind decisive (List.mem_of_getLast? hdecisive)
      simp_all
    | some r =>
      rw [hfind, Option.some_or, Option.some.injEq] at hdecisive
      have hr := List.find?_some hfind
      have hmem := List.mem_of_find?_eq_some hfind
      subst hdecisive
      simp only [hr, Bool.not_true, Bool.false_eq, List.all_eq_false]
      exact ⟨r, hmem, by simp [hr]⟩
  . contradiction

theorem ofSaves?_concat (saves : List Run) (r : Run) :
    ofSaves? (saves ++ [r]) =
      some (match ofSaves? saves with
        | none => ofRun r
        | some old => if old.isOpen then old.advance (ofRun r) else old) := by
  cases hrow : ofSaves? saves with
  | none =>
    -- There is no row before the first save only.
    cases saves with
    | nil => cases hr : r.status.isTerminal <;> simp [ofSaves?, Run.decisive?, hr]
    | cons first rest =>
      cases hfind : (first :: rest).find? (·.status.isTerminal) <;>
        simp [ofSaves?, Run.decisive?, hfind, List.getLast?_cons] at hrow
  | some old =>
    dsimp only
    rw [isOpen_ofSaves? hrow]
    unfold ofSaves? at hrow ⊢
    split at hrow
    . next first decisive hfirst hdecisive =>
      rw [Option.some.injEq] at hrow
      rw [List.head?_append, hfirst, Option.some_or]
      unfold Run.decisive? at hdecisive ⊢
      rw [List.find?_append]
      cases hfind : saves.find? (·.status.isTerminal) with
      | none =>
        have hopen : saves.all (!·.status.isTerminal) = true := by
          simpa [List.find?_eq_none] using hfind
        rw [hopen, Option.none_or]
        cases hr : r.status.isTerminal <;> simp [hr, ← hrow]
      | some ended =>
        have hclosed : saves.all (!·.status.isTerminal) = false := by
          rw [List.all_eq_false]
          exact ⟨ended, List.mem_of_find?_eq_some hfind, by simpa using List.find?_some hfind⟩
        rw [hfind] at hdecisive
        rw [hclosed, Option.some_or]
        rw [Option.some_or, Option.some.injEq] at hdecisive
        simp [hdecisive, hrow]
    . contradiction

end RunRow

theorem get?_saveRun (s : Store) (r : Run) (id : String) :
    (s.saveRun r).2.runs.get? id =
      if id = r.id then
        some (match s.runs.get? r.id with
          | none => .ofRun r
          | some old => if old.isOpen then old.advance (.ofRun r) else old)
      else
        s.runs.get? id := by
  unfold saveRun
  cases hold : s.runs.get? r.id with
  | none =>
    dsimp only
    rw [Table.get?_put]
  | some old =>
    dsimp only
    split
    . rw [Table.get?_put]
    . split
      . next h => rw [h, hold]
      . rfl

theorem saveRun_fst (s : Store) (r : Run) :
    (s.saveRun r).1 = (s.runs.get? r.id).all RunRow.isOpen := by
  unfold saveRun
  cases s.runs.get? r.id with
  | none => rfl
  | some old => cases h : old.isOpen <;> simp [h]

theorem saveRun_of_refused {s : Store} {r : Run} (h : (s.saveRun r).1 = false) :
    (s.saveRun r).2 = s := by
  unfold saveRun at *
  cases hold : s.runs.get? r.id with
  | none => simp [hold] at h
  | some old => cases hopen : old.isOpen <;> simp [hold, hopen] at h ⊢

theorem nodup_names_empty : empty.runs.names.Nodup := List.nodup_nil

theorem nodup_names_saveRun {s : Store} (h : s.runs.names.Nodup) (r : Run) :
    (s.saveRun r).2.runs.names.Nodup := by
  unfold saveRun
  split
  . exact Table.nodup_names_put h _ _
  . split
    . exact Table.nodup_names_put h _ _
    . exact h

theorem saveRuns_append (s : Store) (rs qs : List Run) :
    s.saveRuns (rs ++ qs) =
      ((s.saveRuns rs).1 ++ ((s.saveRuns rs).2.saveRuns qs).1, ((s.saveRuns rs).2.saveRuns qs).2) := by
  induction rs generalizing s with
  | nil => rfl
  | cons r rs ih =>
    simp only [List.cons_append, saveRuns]
    rw [ih]

theorem saveRuns_concat (s : Store) (rs : List Run) (r : Run) :
    s.saveRuns (rs ++ [r]) =
      ((s.saveRuns rs).1 ++ [((s.saveRuns rs).2.saveRun r).1], ((s.saveRuns rs).2.saveRun r).2) := by
  rw [saveRuns_append]
  rfl

theorem length_saveRuns (s : Store) (rs : List Run) : (s.saveRuns rs).1.length = rs.length := by
  induction rs generalizing s with
  | nil => rfl
  | cons r rs ih => simp only [saveRuns, List.length_cons, ih]

theorem nodup_names_saveRuns {s : Store} (h : s.runs.names.Nodup) (rs : List Run) :
    (s.saveRuns rs).2.runs.names.Nodup := by
  induction rs generalizing s with
  | nil => exact h
  | cons r rs ih => exact ih (nodup_names_saveRun h r)

/--
The row of a run is made of its own saves alone, in their order.
-/
theorem get?_saveRuns (saves : List Run) (id : String) :
    (empty.saveRuns saves).2.runs.get? id = RunRow.ofSaves? (saves.filter (·.id = id)) := by
  -- The invariant speaks of the store after a prefix, so the saves are taken off at the end.
  induction saves using List.reverseRecOn with
  | nil => rfl
  | append_singleton saves r ih =>
    rw [saveRuns_concat]
    dsimp only
    rw [get?_saveRun, List.filter_append]
    by_cases hid : r.id = id
    . rw [if_pos hid.symm, hid, ih]
      simp only [hid, decide_true, List.filter_cons_of_pos, List.filter_nil]
      rw [RunRow.ofSaves?_concat]
    . rw [if_neg (Ne.symm hid), ih]
      simp [hid]

theorem getElem?_saveRuns (s : Store) {saves : List Run} {i : Nat} {r : Run} (h : saves[i]? = some r) :
    (s.saveRuns saves).1[i]? = some ((s.saveRuns (saves.take i)).2.saveRun r).1 := by
  obtain ⟨hi, rfl⟩ := List.getElem?_eq_some_iff.mp h
  have hlen : (s.saveRuns (saves.take i)).1.length = i := by
    rw [length_saveRuns, List.length_take]
    omega
  conv =>
    lhs
    rw [← List.take_append_drop i saves, List.drop_eq_getElem_cons hi, saveRuns_append]
  simp [saveRuns, hlen]

theorem saveRuns_take_succ (s : Store) {saves : List Run} {i : Nat} {r : Run} (h : saves[i]? = some r) :
    (s.saveRuns (saves.take (i + 1))).2 = ((s.saveRuns (saves.take i)).2.saveRun r).2 := by
  rw [List.take_add_one, h, Option.toList_some, saveRuns_concat]

theorem saveRun_saveRuns (saves : List Run) (r : Run) :
    ((empty.saveRuns saves).2.saveRun r).1 = true ↔
      ∀ q ∈ saves, q.id = r.id → q.status.isTerminal = false := by
  rw [saveRun_fst, get?_saveRuns]
  cases hrow : RunRow.ofSaves? (saves.filter (·.id = r.id)) with
  | none =>
    have hnil : saves.filter (·.id = r.id) = [] := by
      by_cases h : saves.filter (·.id = r.id) = []
      . exact h
      . obtain ⟨_, _, _, _, hsome⟩ := RunRow.ofSaves?_of_ne_nil h
        rw [hsome] at hrow
        contradiction
    rw [List.filter_eq_nil_iff] at hnil
    simp only [Option.all_none, true_iff]
    intro q hq hid
    exact absurd (decide_eq_true hid) (hnil q hq)
  | some row =>
    rw [Option.all_some, RunRow.isOpen_ofSaves? hrow]
    simp [Decidable.imp_iff_not_or]

theorem get?_saveRuns_of_mem {saves : List Run} {r : Run} (hr : r ∈ saves) :
    ∃ first decisive, (saves.filter (·.id = r.id)).head? = some first ∧
      Run.decisive? (saves.filter (·.id = r.id)) = some decisive ∧
      (empty.saveRuns saves).2.runs.get? r.id = some ((RunRow.ofRun first).advance (.ofRun decisive)) := by
  have hne : saves.filter (·.id = r.id) ≠ [] :=
    List.ne_nil_of_mem (List.mem_filter.mpr ⟨hr, decide_eq_true rfl⟩)
  rw [get?_saveRuns]
  exact RunRow.ofSaves?_of_ne_nil hne

theorem count_names_saveRuns {saves : List Run} {r : Run} (hr : r ∈ saves) :
    (empty.saveRuns saves).2.runs.names.count r.id = 1 := by
  have hnodup : (empty.saveRuns saves).2.runs.names.Nodup := nodup_names_saveRuns nodup_names_empty saves
  have hmem : r.id ∈ (empty.saveRuns saves).2.runs.names := by
    obtain ⟨first, decisive, -, -, hrow⟩ := get?_saveRuns_of_mem hr
    by_contra hmem
    rw [Table.get?_eq_none_iff.mpr hmem] at hrow
    contradiction
  rw [hnodup.count, if_pos hmem]

theorem run?_of_get? {s : Store} {id : String} {first decisive : Run}
    (h : s.runs.get? id = some ((RunRow.ofRun first).advance (.ofRun decisive))) (now : Timestamp) :
    s.run? now id = .ok (some {
      id := id
      tenant := first.tenant
      ticket := first.ticket
      status := decisive.status
      gate := decisive.gate
      info := storedValue decisive.info.compact
      error := decisive.error
      createdAt := storedTime now first.createdAt.stored
      completedAt := decisive.completedAt.map fun t => storedTime now t.stored }) := by
  unfold run?
  rw [h, Option.mapM_some, RunRow.toRun_advance]
  rfl

theorem exists_madeOf_of_get? {s : Store} {id : String} {first decisive : Run}
    (h : s.runs.get? id = some ((RunRow.ofRun first).advance (.ofRun decisive))) (now : Timestamp) :
    ∃ r, s.run? now id = .ok (some r) ∧ r.id = id ∧ Run.MadeOf first decisive r := by
  refine ⟨_, run?_of_get? h now, rfl, ?_⟩
  constructor
  . rfl
  . rfl
  . intro hyear
    dsimp only
    rw [storedTime_stored hyear]
  . rfl
  . rfl
  . intro hinfo
    dsimp only
    rw [storedValue_of_storable hinfo]
  . rfl
  . intro hyears
    dsimp only
    rw [map_storedTime_stored hyears]

/--
The rows of runs that are saved in turn. Each run has one row. It belongs to whom its first save says, and is as
far as its decisive save says. A save is accepted exactly if none before it has ended the run, and else changes
nothing. Saves of other runs play no part, so neither does the way in which the saves of several runs mix.
-/
theorem saveRuns_history (saves : List Run) :
    (∀ r ∈ saves, ∃ first decisive row,
      (saves.filter (·.id = r.id)).head? = some first ∧
      Run.decisive? (saves.filter (·.id = r.id)) = some decisive ∧
      (empty.saveRuns saves).2.runs.names.count r.id = 1 ∧
      (empty.saveRuns saves).2.runs.get? r.id = some row ∧
      row.Keeps first decisive ∧
      (∀ now, (empty.saveRuns saves).2.run? now r.id = .ok (some {
        id := r.id
        tenant := first.tenant
        ticket := first.ticket
        status := decisive.status
        gate := decisive.gate
        info := storedValue decisive.info.compact
        error := decisive.error
        createdAt := storedTime now first.createdAt.stored
        completedAt := decisive.completedAt.map fun t => storedTime now t.stored })) ∧
      ∀ now, ∃ read, (empty.saveRuns saves).2.run? now r.id = .ok (some read) ∧ read.id = r.id ∧
        Run.MadeOf first decisive read) ∧
    (∀ i r, saves[i]? = some r →
      ((empty.saveRuns saves).1[i]? = some true ↔
        ∀ q ∈ saves.take i, q.id = r.id → q.status.isTerminal = false) ∧
      ((empty.saveRuns saves).1[i]? = some false →
        (empty.saveRuns (saves.take (i + 1))).2 = (empty.saveRuns (saves.take i)).2)) ∧
    (∀ id, (empty.saveRuns saves).2.runs.get? id =
      (empty.saveRuns (saves.filter (·.id = id))).2.runs.get? id) ∧
    ∀ mixed : List Run, (∀ id, mixed.filter (·.id = id) = saves.filter (·.id = id)) →
      (empty.saveRuns mixed).2.runs.rows.Perm (empty.saveRuns saves).2.runs.rows := by
  refine ⟨?_, ?_, ?_, ?_⟩
  . intro r hr
    obtain ⟨first, decisive, hfirst, hdecisive, hrow⟩ := get?_saveRuns_of_mem hr
    exact ⟨first, decisive, _, hfirst, hdecisive, count_names_saveRuns hr, hrow, RunRow.keeps_advance first decisive,
      run?_of_get? hrow, exists_madeOf_of_get? hrow⟩
  . intro i r hi
    rw [getElem?_saveRuns _ hi, Option.some.injEq, Option.some.injEq, saveRuns_take_succ _ hi]
    exact ⟨saveRun_saveRuns _ r, saveRun_of_refused⟩
  . intro id
    rw [get?_saveRuns, get?_saveRuns, List.filter_filter]
    simp only [Bool.and_self]
  . intro mixed hmixed
    apply Table.rows_perm_of_get?_eq
    . exact nodup_names_saveRuns nodup_names_empty mixed
    . exact nodup_names_saveRuns nodup_names_empty saves
    . intro id
      rw [get?_saveRuns, get?_saveRuns, hmixed]

/--
A run that was completed stays so when it is saved as failed under another tenant, and is read as it was begun and completed.
-/
theorem saveRuns_history_competing :
    let begun := Run.start "r" "acme" "7" .epoch
    let completed := begun.complete .edit (.object []) .epoch
    let failed := { begun with tenant := "other" }.fail "late" .null .epoch
    let other := Run.start "s" "acme" "7" .epoch
    let saved := empty.saveRuns [begun, other, completed, failed]
    ∃ row read, saved.2.runs.get? "r" = some row ∧ row.tenant = "acme" ∧ row.status = "completed" ∧ saved.1[2]? = some true ∧
      saved.2.run? .epoch "r" = .ok (some read) ∧ read.info = .object [] ∧ read.createdAt = Timestamp.epoch.toMicros ∧
      read.completedAt = some Timestamp.epoch.toMicros := by
  intro begun completed failed other saved
  obtain ⟨hrows, hanswers, -, -⟩ := saveRuns_history [begun, other, completed, failed]
  obtain ⟨first, decisive, row, hfirst, hdecisive, -, hrow, hkeeps, -, hreads⟩ := hrows begun (by simp)
  obtain ⟨read, hread, -, hmade⟩ := hreads .epoch
  have hbegun : first = begun := (Option.some.inj hfirst).symm
  have hcompleted : decisive = completed := (Option.some.inj hdecisive).symm
  subst hbegun hcompleted
  have hyear : Timestamp.epoch.HasPlainYear := by decide
  refine ⟨row, read, hrow, hkeeps.tenant, hkeeps.status, ?_, hread, ?_, hmade.createdAt hyear, ?_⟩
  . rw [(hanswers 2 completed rfl).1]
    decide
  . exact hmade.info ⟨⟨List.Pairwise.nil, trivial⟩, by decide, trivial⟩
  . apply hmade.completedAt
    rintro t ⟨rfl⟩
    exact hyear

end Store
end Triage
