import Triage.Archive
import Triage.Proofs.Store.Lasting

/-!
This module contains the history of a ticket: the runs that are read for it, the latest first. Their order is the one of
their first saves, which no later save changes.
-/

namespace Triage
namespace Store

variable {s : Store} {events : List Event} {now : Timestamp} {tenant ticket : String} {limit : UInt32}

/--
Whether a row belongs to a ticket.
-/
def RunRow.isOf (tenant ticket : String) (row : RunRow) : Bool :=
  row.tenant == tenant && row.ticket == ticket

/--
Whether a row may come before another one in a history.
-/
def RunRow.isNotOlder (newer older : String × RunRow) : Bool :=
  decide (older.2.createdAt ≤ newer.2.createdAt)

/--
All rows of a ticket in the order in which they are read.
-/
def ofTicket (s : Store) (tenant ticket : String) : List (String × RunRow) :=
  (s.runs.rows.filter fun r => r.2.isOf tenant ticket).mergeSort RunRow.isNotOlder

theorem latest_eq (s : Store) (tenant ticket : String) (limit : UInt32) :
    s.latest tenant ticket limit = (s.ofTicket tenant ticket).take limit.toNat := rfl

theorem mem_ofTicket {r : String × RunRow} :
    r ∈ s.ofTicket tenant ticket ↔ r ∈ s.runs.rows ∧ r.2.isOf tenant ticket = true := by
  unfold ofTicket
  rw [List.mem_mergeSort, List.mem_filter]

theorem length_ofTicket (s : Store) (tenant ticket : String) :
    (s.ofTicket tenant ticket).length = s.runs.rows.countP fun r => r.2.isOf tenant ticket := by
  unfold ofTicket
  rw [List.length_mergeSort, List.countP_eq_length_filter]

theorem pairwise_ofTicket (s : Store) (tenant ticket : String) :
    (s.ofTicket tenant ticket).Pairwise fun newer older => older.2.createdAt ≤ newer.2.createdAt := by
  have htrans (a b c : String × RunRow) (hab : RunRow.isNotOlder a b = true) (hbc : RunRow.isNotOlder b c = true) :
      RunRow.isNotOlder a c = true :=
    decide_eq_true (String.le_trans (of_decide_eq_true hbc) (of_decide_eq_true hab))
  have htotal (a b : String × RunRow) : (RunRow.isNotOlder a b || RunRow.isNotOlder b a) = true := by
    unfold RunRow.isNotOlder
    rw [Bool.or_eq_true, decide_eq_true_iff, decide_eq_true_iff]
    exact String.le_total b.2.createdAt a.2.createdAt
  unfold ofTicket
  apply (List.pairwise_mergeSort htrans htotal _).imp
  intro newer older h
  exact of_decide_eq_true h

theorem nodup_ofTicket (h : s.runs.names.Nodup) (tenant ticket : String) :
    ((s.ofTicket tenant ticket).map Prod.fst).Nodup := by
  have hperm := (List.mergeSort_perm (s.runs.rows.filter fun r => r.2.isOf tenant ticket) RunRow.isNotOlder).map Prod.fst
  unfold ofTicket
  rw [hperm.nodup_iff]
  exact h.sublist (List.filter_sublist.map Prod.fst)

theorem mapM_eq_ok_iff {ε α β : Type} {f : α → Except ε β} {as : List α} {bs : List β} :
    as.mapM f = .ok bs ↔ as.map f = bs.map .ok := by
  induction as generalizing bs with
  | nil => cases bs <;> simp [pure, Except.pure]
  | cons a as ih =>
    rw [List.mapM_cons, List.map_cons]
    cases f a with
    | error e => cases bs <;> simp [bind, Except.bind]
    | ok b =>
      cases bs with
      | nil => cases as.mapM f <;> simp [bind, Except.bind, pure, Except.pure]
      | cons b' bs =>
        rw [List.map_cons, List.cons.injEq, ← ih, Except.ok.injEq]
        cases as.mapM f <;> simp [bind, Except.bind, pure, Except.pure]

/-! Reading. -/

theorem RunRow.of_toRun {row : RunRow} {id : String} {r : Run} (h : row.toRun now id = .ok r) :
    r.id = id ∧ r.tenant = row.tenant ∧ r.ticket = row.ticket ∧ r.createdAt = storedTime now row.createdAt := by
  unfold toRun at h
  cases hstatus : (RunStatus.parse row.status).mapError Error.query with
  | error e =>
    rw [hstatus] at h
    cases h
  | ok status =>
    rw [hstatus] at h
    cases hgate : row.gate.mapM fun name => (Gate.parse name).mapError Error.query with
    | error e =>
      rw [hgate] at h
      cases h
    | ok gate =>
      rw [hgate] at h
      cases h
      exact ⟨rfl, rfl, rfl, rfl⟩

/--
A run that is read from a row of a store, and the save that the run was begun with.
-/
structure Reads (events : List Event) (now : Timestamp) (row : RunRow) (start r : Run) : Prop where
  mem : (r.id, row) ∈ (empty.through events).runs.rows
  toRun : row.toRun now r.id = .ok r
  begun : ((savedRuns events).filter (·.id = r.id)).head? = some start
  stored : row.createdAt = start.createdAt.stored

variable {row row' : RunRow} {start start' r r' : Run} {id : String} {runs : List Run}

theorem exists_reads (h : (id, row) ∈ (empty.through events).runs.rows) (now : Timestamp) :
    ∃ start r, r.id = id ∧ Reads events now row start r := by
  have hget := (Table.mem_rows_iff (nodup_names_through events)).mp h
  obtain ⟨start, decisive, hstart, rfl⟩ := saves_of_get? hget
  obtain ⟨r, hread⟩ : ∃ r, ((RunRow.ofRun start).advance (.ofRun decisive)).toRun now id = .ok r :=
    ⟨_, RunRow.toRun_advance start decisive now id⟩
  obtain ⟨rfl, -⟩ := RunRow.of_toRun hread
  exact ⟨start, r, rfl, ⟨h, hread, hstart, rfl⟩⟩

theorem exists_reads_of_toRun (h : (id, row) ∈ (empty.through events).runs.rows) (hrun : row.toRun now id = .ok r) :
    ∃ start, r.id = id ∧ Reads events now row start r := by
  obtain ⟨start, r', rfl, hreads⟩ := exists_reads h now
  have hread := hreads.toRun
  rw [hrun] at hread
  cases hread
  exact ⟨start, rfl, hreads⟩

theorem Reads.run? (h : Reads events now row start r) : (empty.through events).run? now r.id = .ok (some r) := by
  unfold Store.run?
  rw [(Table.mem_rows_iff (nodup_names_through events)).mp h.mem, Option.mapM_some, h.toRun]
  rfl

theorem exists_reads_of_run? (h : (empty.through events).run? now id = .ok (some r)) :
    ∃ row start, Reads events now row start r := by
  unfold Store.run? at h
  cases hget : (empty.through events).runs.get? id with
  | none =>
    rw [hget] at h
    cases h
  | some row =>
    rw [← Table.mem_rows_iff (nodup_names_through events)] at hget
    obtain ⟨start, r', rfl, hreads⟩ := exists_reads hget now
    have hread := hreads.run?
    unfold Store.run? at hread
    rw [h] at hread
    cases hread
    exact ⟨row, start, hreads⟩

theorem runs?_eq_ok_iff : s.runs? now tenant ticket limit = .ok runs ↔
    (s.latest tenant ticket limit).map (fun r => r.2.toRun now r.1) = runs.map .ok := by
  unfold runs?
  exact mapM_eq_ok_iff

theorem mem_rows_of_mem_latest {r : String × RunRow} (h : r ∈ s.latest tenant ticket limit) :
    r ∈ s.runs.rows ∧ r.2.isOf tenant ticket = true :=
  mem_ofTicket.mp (List.mem_of_mem_take h)

theorem exists_run? (events : List Event) (now : Timestamp) (id : String) :
    ∃ r, (empty.through events).run? now id = .ok r := by
  cases hget : (empty.through events).runs.get? id with
  | none =>
    unfold Store.run?
    rw [hget]
    exact ⟨none, rfl⟩
  | some row =>
    rw [← Table.mem_rows_iff (nodup_names_through events)] at hget
    obtain ⟨start, r, rfl, hreads⟩ := exists_reads hget now
    exact ⟨some r, hreads.run?⟩

theorem exists_runs? (events : List Event) (now : Timestamp) (tenant ticket : String) (limit : UInt32) :
    ∃ runs, (empty.through events).runs? now tenant ticket limit = .ok runs := by
  have hread (rows : List (String × RunRow)) (h : ∀ r ∈ rows, r ∈ (empty.through events).runs.rows) :
      ∃ runs : List Run, rows.map (fun r => r.2.toRun now r.1) = runs.map .ok := by
    induction rows with
    | nil => exact ⟨[], rfl⟩
    | cons r rest ih =>
      rw [List.forall_mem_cons] at h
      obtain ⟨start, run, hid, hreads⟩ := exists_reads h.1 now
      obtain ⟨runs, hruns⟩ := ih h.2
      refine ⟨run :: runs, ?_⟩
      rw [List.map_cons, List.map_cons, hruns, ← hid, hreads.toRun]
  obtain ⟨runs, hruns⟩ := hread _ fun r hr => (mem_rows_of_mem_latest hr).1
  exact ⟨runs, runs?_eq_ok_iff.mpr hruns⟩

/--
The runs in a history are read from the first rows of the ticket.
-/
theorem mem_runs_iff (h : (empty.through events).runs? now tenant ticket limit = .ok runs) :
    r ∈ runs ↔ ∃ row start, Reads events now row start r ∧
      (r.id, row) ∈ (empty.through events).latest tenant ticket limit := by
  rw [runs?_eq_ok_iff] at h
  have hok : r ∈ runs ↔ (.ok r : Except Error Run) ∈ runs.map .ok := by simp
  rw [hok, ← h, List.mem_map]
  constructor
  . intro ⟨⟨id, row⟩, hlatest, hrun⟩
    obtain ⟨start, rfl, hreads⟩ := exists_reads_of_toRun (mem_rows_of_mem_latest hlatest).1 hrun
    exact ⟨row, start, hreads, hlatest⟩
  . intro ⟨row, start, hreads, hlatest⟩
    exact ⟨(r.id, row), hlatest, hreads.toRun⟩

/--
What holds between a row of a ticket and each one behind it holds between the runs that are read from them.
-/
theorem pairwise_of_runs? {p : Run → Run → Prop} {q : String × RunRow → String × RunRow → Prop}
    (h : (empty.through events).runs? now tenant ticket limit = .ok runs)
    (hrows : ((empty.through events).ofTicket tenant ticket).Pairwise q)
    (hp : ∀ {row start r row' start' r'}, Reads events now row start r → Reads events now row' start' r' →
      q (r.id, row) (r'.id, row') → p r r') : runs.Pairwise p := by
  rw [runs?_eq_ok_iff] at h
  have hresults : ((runs.map .ok : List (Except Error Run))).Pairwise
      fun x y => ∀ r r', x = .ok r → y = .ok r' → p r r' := by
    rw [← h, List.pairwise_map]
    apply (hrows.sublist (List.take_sublist limit.toNat _)).imp_of_mem
    intro ⟨id, row⟩ ⟨id', row'⟩ hmem hmem' hq r r' hr hr'
    obtain ⟨start, rfl, hreads⟩ := exists_reads_of_toRun (mem_rows_of_mem_latest hmem).1 hr
    obtain ⟨start', rfl, hreads'⟩ := exists_reads_of_toRun (mem_rows_of_mem_latest hmem').1 hr'
    exact hp hreads hreads' hq
  rw [List.pairwise_map] at hresults
  exact hresults.imp fun hall => hall _ _ rfl rfl

/--
Whether each run that has been saved was created in a year with four digits.
-/
def BegunInPlainYears (events : List Event) : Prop :=
  ∀ id start, ((savedRuns events).filter (·.id = id)).head? = some start → start.createdAt.HasPlainYear

theorem Reads.createdAt (h : Reads events now row start r) (hyears : BegunInPlainYears events) :
    r.createdAt = start.createdAt.toMicros := by
  rw [(RunRow.of_toRun h.toRun).2.2.2, h.stored, storedTime_stored (hyears _ _ h.begun)]

theorem Reads.createdAt_le_iff (h : Reads events now row start r) (h' : Reads events now row' start' r')
    (hyears : BegunInPlainYears events) : row.createdAt ≤ row'.createdAt ↔ r.createdAt ≤ r'.createdAt := by
  rw [h.stored, h'.stored, h.createdAt hyears, h'.createdAt hyears,
    Timestamp.stored_le_iff (hyears _ _ h.begun) (hyears _ _ h'.begun)]

/--
The save that a run was begun with stays the same, whatever is saved later.
-/
theorem Reads.stored_later {more : List Event} (h : Reads events now row start r)
    (h' : Reads (events ++ more) now row' start' r') (hid : r'.id = r.id) : row'.createdAt = row.createdAt := by
  have hbegun := h'.begun
  unfold savedRuns at hbegun
  rw [List.filterMap_append, List.filter_append, List.head?_append, hid] at hbegun
  change (((savedRuns events).filter (·.id = r.id)).head?.or _) = _ at hbegun
  rw [h.begun, Option.some_or, Option.some.injEq] at hbegun
  rw [h.stored, h'.stored, hbegun]

/-! Histories. -/

/--
A history of a ticket: what is read of its runs, the latest first.
-/
structure IsHistory (events : List Event) (now : Timestamp) (tenant ticket : String) (limit : UInt32)
    (runs : List Run) : Prop where
  /-- As many runs as there are, up to the limit. -/
  length : runs.length =
    min limit.toNat ((empty.through events).runs.rows.countP fun (_, row) => row.tenant == tenant && row.ticket == ticket)
  /-- No run comes twice. -/
  ids : (runs.map (·.id)).Nodup
  /-- Each run is the one of its id, and belongs to the ticket. -/
  run : ∀ r ∈ runs, (empty.through events).run? now r.id = .ok (some r) ∧ r.tenant = tenant ∧ r.ticket = ticket
  /-- Each run was created when it was saved first. -/
  first : ∀ r ∈ runs, ∃ first, ((savedRuns events).filter (·.id = r.id)).head? = some first ∧
    r.createdAt = first.createdAt.toMicros
  /-- No run is newer than one before it. -/
  ordered : runs.Pairwise fun newer older => older.createdAt ≤ newer.createdAt
  /-- No run that is left out is newer than one that is not. -/
  omitted : ∀ r, (empty.through events).run? now r.id = .ok (some r) → r.tenant = tenant → r.ticket = ticket →
    r ∉ runs → ∀ q ∈ runs, r.createdAt ≤ q.createdAt
  /-- Of two runs that were not created at the same time, the newer one comes first ever after, whatever is saved. -/
  place : ∀ newer ∈ runs, ∀ older ∈ runs, older.createdAt < newer.createdAt → ∀ more later limit,
    (empty.through (events ++ more)).runs? now tenant ticket limit = .ok later →
    later.Pairwise fun r q => ¬ (r.id = older.id ∧ q.id = newer.id)

theorem isHistory_of_runs? (hyears : BegunInPlainYears events)
    (h : (empty.through events).runs? now tenant ticket limit = .ok runs) :
    IsHistory events now tenant ticket limit runs := by
  constructor
  . have hlength := congrArg List.length (runs?_eq_ok_iff.mp h)
    rw [List.length_map, List.length_map, latest_eq, List.length_take, length_ofTicket] at hlength
    exact hlength.symm
  . unfold List.Nodup
    rw [List.pairwise_map]
    have hnodup := List.pairwise_map.mp (nodup_ofTicket (nodup_names_through events) tenant ticket)
    exact pairwise_of_runs? h hnodup fun _ _ hne => hne
  . intro r hr
    obtain ⟨row, start, hreads, hlatest⟩ := (mem_runs_iff h).mp hr
    obtain ⟨-, htenant, hticket, -⟩ := RunRow.of_toRun hreads.toRun
    have howner := (mem_rows_of_mem_latest hlatest).2
    unfold RunRow.isOf at howner
    simp only [Bool.and_eq_true, beq_iff_eq] at howner
    rw [htenant, hticket]
    exact ⟨hreads.run?, howner⟩
  . intro r hr
    obtain ⟨row, start, hreads, -⟩ := (mem_runs_iff h).mp hr
    exact ⟨start, hreads.begun, hreads.createdAt hyears⟩
  . apply pairwise_of_runs? h (pairwise_ofTicket _ tenant ticket)
    intro row start r row' start' r' hr hr' hle
    rwa [hr'.createdAt_le_iff hr hyears] at hle
  . intro r hread htenant hticket hmissing q hq
    obtain ⟨row, start, hreads⟩ := exists_reads_of_run? hread
    obtain ⟨row', start', hreads', hlatest⟩ := (mem_runs_iff h).mp hq
    have hrow : (r.id, row) ∈ (empty.through events).ofTicket tenant ticket := by
      obtain ⟨-, howner, hrow, -⟩ := RunRow.of_toRun hreads.toRun
      rw [mem_ofTicket]
      refine ⟨hreads.mem, ?_⟩
      unfold RunRow.isOf
      rw [← howner, ← hrow, htenant, hticket]
      simp
    have hpairwise := pairwise_ofTicket (empty.through events) tenant ticket
    rw [← List.take_append_drop limit.toNat ((empty.through events).ofTicket tenant ticket)] at hrow hpairwise
    have hdropped : (r.id, row) ∈ ((empty.through events).ofTicket tenant ticket).drop limit.toNat := by
      rw [List.mem_append] at hrow
      cases hrow with
      | inl htaken => exact absurd ((mem_runs_iff h).mpr ⟨row, start, hreads, htaken⟩) hmissing
      | inr hdropped => exact hdropped
    have hle := (List.pairwise_append.mp hpairwise).2.2 _ hlatest _ hdropped
    rwa [hreads.createdAt_le_iff hreads' hyears] at hle
  . intro newer hnewer older holder hlt more later limit' hlater
    obtain ⟨row, start, hreads, -⟩ := (mem_runs_iff h).mp hnewer
    obtain ⟨row', start', hreads', -⟩ := (mem_runs_iff h).mp holder
    apply pairwise_of_runs? hlater (pairwise_ofTicket _ tenant ticket)
    intro first begun r last begun' r' hr hr' hle ⟨hfirst, hlast⟩
    dsimp only at hle
    rw [hreads.stored_later hr' hlast, hreads'.stored_later hr hfirst, hreads.createdAt_le_iff hreads' hyears] at hle
    exact Timestamp.not_lt.mpr hle hlt

/--
The history of a ticket in a store that has been through any events. An archive gives the same history, and none if its
backend fails or is missing.
-/
theorem history_of_ticket (events : List Event) (hyears : BegunInPlainYears events) (now : Timestamp)
    (tenant ticket : String) (limit : UInt32) :
    ∃ runs, (empty.through events).runs? now tenant ticket limit = .ok runs ∧
      IsHistory events now tenant ticket limit runs ∧
      (Archive.ofBackend backend).history now tenant ticket limit (empty.through events) = runs ∧
      ∀ (τ : Type) (a : Archive τ) (stored : τ),
        (∀ b, a.backend = some b → ∃ e, b.runs? now tenant ticket limit stored = .error e) →
        a.history now tenant ticket limit stored = [] := by
  obtain ⟨runs, hruns⟩ := exists_runs? events now tenant ticket limit
  refine ⟨runs, hruns, isHistory_of_runs? hyears hruns, ?_, ?_⟩
  . have hbackend : backend.runs? now tenant ticket limit (empty.through events) = .ok runs := hruns
    unfold Archive.history Archive.ofBackend
    dsimp only
    rw [hbackend]
    rfl
  . intro τ a stored hfails
    unfold Archive.history
    cases hbackend : a.backend with
    | none => rfl
    | some b =>
      obtain ⟨e, he⟩ := hfails b hbackend
      dsimp only
      rw [he]
      rfl

/--
Of two runs of a ticket the one that was begun later is read, although the other one has ended since.
-/
theorem history_of_ticket_newest :
    let first := Run.start "a" "acme" "7" .epoch
    let later : Timestamp := ⟨1970, 1, 2, 0, 0, 0, 0, by decide, by decide⟩
    let second := Run.start "b" "acme" "7" later
    let ended := first.complete .confirm (.object []) later
    let events : List Event :=
      [.request (.saveRun first), .request (.saveRun second), .reopen, .request (.saveRun ended)]
    ∃ r, (empty.through events).runs? .epoch "acme" "7" 1 = .ok [r] ∧ later ≤ r.createdAt := by
  intro first later second ended events
  have hyears : BegunInPlainYears events := by
    intro id start hstart
    have hmem := (List.mem_filter.mp (List.mem_of_mem_head? hstart)).1
    have hsaved : savedRuns events = [first, second, ended] := rfl
    rw [hsaved] at hmem
    simp only [List.mem_cons, List.not_mem_nil, or_false] at hmem
    rcases hmem with rfl | rfl | rfl
    . exact (by decide : Timestamp.epoch.HasPlainYear)
    . exact (by decide : (0 : Int) ≤ 1970 ∧ (1970 : Int) ≤ 9999)
    . exact (by decide : Timestamp.epoch.HasPlainYear)
  obtain ⟨runs, hruns, hhistory, -⟩ := history_of_ticket events hyears .epoch "acme" "7" 1
  have hsecond : (empty.through events).run? .epoch "b" = .ok (some second) := by
    dsimp only [events, first, later, second, ended]
    rfl
  have hlength : runs.length = 1 := hhistory.length
  obtain ⟨r, rfl⟩ := List.length_eq_one_iff.mp hlength
  refine ⟨r, hruns, ?_⟩
  by_cases hr : second ∈ [r]
  . rw [List.mem_singleton] at hr
    rw [← hr]
    exact (by decide : later ≤ later)
  . exact hhistory.omitted second hsecond rfl rfl hr r List.mem_cons_self

end Store
end Triage
