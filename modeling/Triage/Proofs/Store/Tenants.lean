import Triage.Proofs.Store.History

/-!
This module contains what the tenants of one store learn of each other. Runs and records are found by tenant but saved
by id alone, so a tenant reads what has been saved under the ids that it used first, by whomever, and nothing else.
-/

namespace Triage
namespace Table

variable {α : Type} {p : α → Bool} {t u : Table α} {name : String} {row : α}

/--
The rows that `p` holds of.
-/
def only (p : α → Bool) (t : Table α) : Table α :=
  ⟨t.rows.filter fun (_, row) => p row⟩

theorem only_put (hold : ∀ old, t.get? name = some old → p old = p row) :
    (t.put name row).only p = if p row then (t.only p).put name row else t.only p := by
  unfold only put get? at *
  dsimp only
  rw [← apply_ite Table.mk]
  congr 1
  generalize t.rows = rows at *
  induction rows with
  | nil => cases hrow : p row <;> simp [put.go, hrow]
  | cons r rest ih =>
    obtain ⟨other, old⟩ := r
    by_cases hname : other = name
    . subst hname
      have hsame : p old = p row := hold old List.lookup_cons_self
      cases hrow : p row <;> simp [put.go, hrow, hsame]
    . rw [List.lookup_cons, beq_false_of_ne (Ne.symm hname)] at hold
      rw [put.go, if_neg hname, List.filter_cons, List.filter_cons, ih hold]
      cases p old <;> cases p row <;> simp [put.go, hname]

/--
A table after a change of what is found under a name, unless the row stays as it is.
-/
def upsert (t : Table α) (name : String) (change : Option α → Option α) : Table α :=
  match change (t.get? name) with
  | some row => t.put name row
  | none => t

theorem mem_only_iff : (name, row) ∈ (t.only p).rows ↔ (name, row) ∈ t.rows ∧ p row = true := by
  unfold only
  rw [List.mem_filter]

/--
Two tables that agree on the rows that `p` holds of, where the second one has no names besides those of the first one.
-/
structure Alike (p : α → Bool) (t u : Table α) : Prop where
  left : t.names.Nodup
  right : u.names.Nodup
  only : t.only p = u.only p
  absent : ∀ name, t.get? name = none → u.get? name = none

theorem Alike.refl (h : t.names.Nodup) : Alike p t t :=
  ⟨h, h, rfl, fun _ h => h⟩

theorem Alike.get?_iff (h : Alike p t u) (hrow : p row = true) :
    t.get? name = some row ↔ u.get? name = some row := by
  rw [← mem_rows_iff h.left, ← mem_rows_iff h.right]
  have hmem := congrArg (fun t => (name, row) ∈ t.rows) h.only
  simpa only [mem_only_iff, hrow, and_true, eq_iff_iff] using hmem

theorem Alike.get?_filter (h : Alike p t u) (name : String) : (t.get? name).filter p = (u.get? name).filter p := by
  apply Option.ext
  intro row
  rw [Option.filter_eq_some_iff, Option.filter_eq_some_iff]
  constructor
  . intro ⟨hget, hrow⟩
    exact ⟨(h.get?_iff hrow).mp hget, hrow⟩
  . intro ⟨hget, hrow⟩
    exact ⟨(h.get?_iff hrow).mpr hget, hrow⟩

theorem Alike.get?_eq (h : Alike p t u) (hold : ∀ old, t.get? name = some old → p old = true) :
    u.get? name = t.get? name := by
  cases hget : t.get? name with
  | none => exact h.absent name hget
  | some old => exact (h.get?_iff (hold old hget)).mp hget

theorem Alike.put (h : Alike p t u) (hrow : p row = true) (hold : ∀ old, t.get? name = some old → p old = true) :
    Alike p (t.put name row) (u.put name row) := by
  constructor
  . exact nodup_names_put h.left name row
  . exact nodup_names_put h.right name row
  . rw [only_put, only_put, h.only]
    . rwa [h.get?_eq hold, hrow]
    . rwa [hrow]
  . intro other habsent
    rw [get?_put] at habsent ⊢
    split
    . next hname => simp [hname] at habsent
    . next hname =>
      rw [if_neg hname] at habsent
      exact h.absent other habsent

theorem Alike.put_left (h : Alike p t u) (hrow : p row = false)
    (hold : ∀ old, t.get? name = some old → p old = false) : Alike p (t.put name row) u := by
  constructor
  . exact nodup_names_put h.left name row
  . exact h.right
  . rw [only_put, hrow, h.only]
    . rfl
    . rwa [hrow]
  . intro other habsent
    rw [get?_put] at habsent
    split at habsent
    . contradiction
    . exact h.absent other habsent

/--
A change of a row that `p` holds of is made in both tables, and a change of another row in the first one only.
-/
theorem Alike.upsert {change : Option α → Option α} {held : Bool} (h : Alike p t u)
    (hold : ∀ old, t.get? name = some old → p old = held)
    (hrow : ∀ row, change (t.get? name) = some row → p row = held) :
    Alike p (t.upsert name change) (if held then u.upsert name change else u) := by
  unfold Table.upsert
  cases held with
  | true =>
    rw [if_pos rfl, h.get?_eq hold]
    cases hchange : change (t.get? name) with
    | none => exact h
    | some row => exact h.put (hrow row hchange) hold
  | false =>
    rw [if_neg Bool.false_ne_true]
    cases hchange : change (t.get? name) with
    | none => exact h
    | some row => exact h.put_left (hrow row hchange) hold

end Table

namespace Store

/--
What a store is asked.
-/
inductive Request where
  | saveRun (r : Run)
  | saveRecord (r : Record)
  | run? (now : Timestamp) (id : String)
  | runs? (now : Timestamp) (tenant ticket : String) (limit : UInt32)
  | record? (now : Timestamp) (id tenant : String)

inductive Answer where
  | savedRun (applied : Bool)
  | savedRecord (taken : Bool)
  | run (r : Except Error (Option Run))
  | runs (rs : Except Error (List Run))
  | record (r : Option Record)

def Request.reader? : Request → Option String
  | .runs? _ tenant _ _ | .record? _ _ tenant => some tenant
  | .saveRun _ | .saveRecord _ | .run? _ _ => none

def Request.saver? : Request → Option String
  | .saveRun r => some r.tenant
  | .saveRecord r => some r.tenant
  | .run? _ _ | .runs? _ _ _ _ | .record? _ _ _ => none

def Request.isForeign (tenant : String) (q : Request) : Bool :=
  q.saver?.any (· ≠ tenant)

def serve (s : Store) : Request → Answer × Store
  | .saveRun r => let (applied, s) := s.saveRun r; (.savedRun applied, s)
  | .saveRecord r => (.savedRecord (takes r), s.saveRecord r)
  | .run? now id => (.run (s.run? now id), s)
  | .runs? now tenant ticket limit => (.runs (s.runs? now tenant ticket limit), s)
  | .record? now id tenant => (.record (s.record? now id tenant), s)

def after (s : Store) (qs : List Request) : Store :=
  qs.foldl (fun s q => (s.serve q).2) s

/--
What a tenant is answered in the course of requests of all tenants.
-/
def observed (tenant : String) (s : Store) : List Request → List Answer
  | [] => []
  | q :: qs =>
    let (answer, s) := s.serve q
    if q.reader? = some tenant then answer :: observed tenant s qs else observed tenant s qs

/--
The tenant that a run belongs to in the course of requests: the one of its row, or the one that saves it first.
-/
def runOwner? (s : Store) (qs : List Request) (id : String) : Option String :=
  match s.runs.get? id with
  | some row => some row.tenant
  | none => qs.findSome? fun
    | .saveRun r => if r.id = id then some r.tenant else none
    | _ => none

/--
The tenant that a record belongs to in the course of requests. Saves that are refused do not count.
-/
def recordOwner? (s : Store) (qs : List Request) (id : String) : Option String :=
  match s.records.get? id with
  | some row => some row.tenant
  | none => qs.findSome? fun
    | .saveRecord r => if takes r ∧ r.id = id then some r.tenant else none
    | _ => none

/--
Whether a request among others reads, or saves what belongs to the tenant. A record that all saves of are refused belongs to
whoever saves it.
-/
def concerns (tenant : String) (s : Store) (qs : List Request) : Request → Bool
  | .saveRun r => s.runOwner? qs r.id = some tenant
  | .saveRecord r => (s.recordOwner? qs r.id).getD r.tenant = tenant
  | .run? _ _ | .runs? _ _ _ _ | .record? _ _ _ => true

/--
The requests save for a tenant exactly what belongs to the tenant, so no id is used by the tenant and another one.
-/
def Separate (tenant : String) (s : Store) (qs : List Request) : Prop :=
  ∀ q ∈ qs, concerns tenant s qs q = !q.isForeign tenant

instance (tenant : String) (s : Store) (qs : List Request) : Decidable (Separate tenant s qs) :=
  inferInstanceAs (Decidable (∀ q ∈ qs, concerns tenant s qs q = !q.isForeign tenant))

theorem runOwner?_serve (s : Store) (q : Request) (qs : List Request) (id : String) :
    (s.serve q).2.runOwner? qs id = s.runOwner? (q :: qs) id := by
  cases q with
  | saveRun r =>
    unfold runOwner? serve
    dsimp only
    rw [get?_saveRun, List.findSome?_cons]
    by_cases hid : id = r.id
    . subst hid
      cases s.runs.get? r.id with
      | none => simp [RunRow.ofRun]
      | some old => cases h : old.isOpen <;> simp [h, RunRow.advance]
    . simp [hid, Ne.symm hid]
  | saveRecord r =>
    unfold runOwner? serve
    dsimp only
    rw [runs_saveRecord]
    rfl
  | run? now id => rfl
  | runs? now tenant ticket limit => rfl
  | record? now id tenant => rfl

theorem recordOwner?_serve (s : Store) (q : Request) (qs : List Request) (id : String) :
    (s.serve q).2.recordOwner? qs id = s.recordOwner? (q :: qs) id := by
  cases q with
  | saveRun r =>
    unfold recordOwner? serve
    dsimp only
    rw [records_saveRun]
    rfl
  | saveRecord r =>
    unfold recordOwner? serve
    dsimp only
    rw [List.findSome?_cons]
    cases htakes : takes r with
    | false =>
      rw [saveRecord_of_refused s htakes]
      simp [htakes]
    | true =>
      rw [get?_saveRecord s htakes]
      by_cases hid : id = r.id
      . subst hid
        cases s.records.get? r.id with
        | none => simp [htakes, RecordRow.ofRecord]
        | some old => simp [RecordRow.replace]
      . simp [hid, Ne.symm hid]
  | run? now id => rfl
  | runs? now tenant ticket limit => rfl
  | record? now id tenant => rfl

theorem concerns_serve (tenant : String) (s : Store) (q : Request) (qs : List Request) :
    concerns tenant (s.serve q).2 qs = concerns tenant s (q :: qs) := by
  funext p
  cases p with
  | saveRun r =>
    unfold concerns
    dsimp only
    rw [runOwner?_serve]
  | saveRecord r =>
    unfold concerns
    dsimp only
    rw [recordOwner?_serve]
  | run? now id => rfl
  | runs? now tenant ticket limit => rfl
  | record? now id tenant => rfl

theorem recordOwner?_after (s : Store) (qs : List Request) (id : String) :
    (s.after qs).recordOwner? [] id = s.recordOwner? qs id := by
  induction qs generalizing s with
  | nil => rfl
  | cons q qs ih => rw [← recordOwner?_serve, ← ih]; rfl

theorem isSome_record?_iff {s : Store} {now : Timestamp} {id tenant : String} :
    (s.record? now id tenant).isSome = true ↔ s.recordOwner? [] id = some tenant := by
  unfold record? recordOwner?
  cases s.records.get? id with
  | none => simp
  | some row =>
    dsimp only
    split <;> simp [*]

structure Keyed (s : Store) : Prop where
  runs : s.runs.names.Nodup
  records : s.records.names.Nodup

theorem keyed_empty : empty.Keyed :=
  ⟨List.nodup_nil, List.nodup_nil⟩

/--
Two stores that hold the same for a tenant, where the second one may lack what is of other tenants.
-/
structure Alike (tenant : String) (s u : Store) : Prop where
  runs : s.runs.Alike (·.tenant == tenant) u.runs
  records : s.records.Alike (·.tenant == tenant) u.records

variable {tenant : String} {s u : Store}

theorem Alike.refl (h : s.Keyed) : Alike tenant s s :=
  ⟨Table.Alike.refl h.runs, Table.Alike.refl h.records⟩

theorem Alike.latest (h : Alike tenant s u) (ticket : String) (limit : UInt32) :
    s.latest tenant ticket limit = u.latest tenant ticket limit := by
  have hrows := congrArg (fun t => t.rows.filter fun r => r.2.ticket == ticket) h.runs.only
  unfold Table.only at hrows
  simp only [List.filter_filter] at hrows
  have hcomm (row : RunRow) : (row.tenant == tenant && row.ticket == ticket) =
      (row.ticket == ticket && row.tenant == tenant) := Bool.and_comm _ _
  unfold Store.latest
  simp only [hcomm, hrows]

theorem Alike.record? (h : Alike tenant s u) (now : Timestamp) (id : String) :
    s.record? now id tenant = u.record? now id tenant := by
  have hread (s : Store) : s.record? now id tenant =
      ((s.records.get? id).filter (·.tenant == tenant)).map (RecordRow.toRecord now id) := by
    unfold Store.record?
    cases s.records.get? id with
    | none => rfl
    | some row => by_cases hrow : row.tenant = tenant <;> simp [Option.filter, hrow]
  rw [hread, hread, h.records.get?_filter]

theorem Alike.answer (h : Alike tenant s u) {q : Request} (hreader : q.reader? = some tenant) :
    (s.serve q).1 = (u.serve q).1 := by
  cases q with
  | saveRun r => contradiction
  | saveRecord r => contradiction
  | run? now id => contradiction
  | runs? now owner ticket limit =>
    obtain rfl : owner = tenant := Option.some.inj hreader
    apply congrArg Answer.runs
    unfold Store.runs?
    rw [h.latest]
  | record? now id owner =>
    obtain rfl : owner = tenant := Option.some.inj hreader
    exact congrArg Answer.record (h.record? now id)

/--
The row that the save of a run leaves where there was none, or an old one that is still open.
-/
def RunRow.renewed (r : Run) : Option RunRow → Option RunRow
  | none => some (.ofRun r)
  | some old => if old.isOpen then some (old.advance (.ofRun r)) else none

def RecordRow.renewed (r : Record) (old? : Option RecordRow) : Option RecordRow :=
  if takes r then
    match old? with
    | none => some (.ofRecord r)
    | some old => some (old.replace (.ofRecord r))
  else
    none

theorem runs_saveRun (s : Store) (r : Run) : (s.saveRun r).2.runs = s.runs.upsert r.id (RunRow.renewed r) := by
  unfold Store.saveRun Table.upsert RunRow.renewed
  cases s.runs.get? r.id with
  | none => rfl
  | some old => cases hopen : old.isOpen <;> simp [hopen]

theorem records_saveRecord (s : Store) (r : Record) :
    (s.saveRecord r).records = s.records.upsert r.id (RecordRow.renewed r) := by
  unfold Store.saveRecord Table.upsert RecordRow.renewed
  cases takes r with
  | true => cases s.records.get? r.id <;> rfl
  | false => rfl

/--
Whoever saves a run, its row keeps the tenant that it has.
-/
theorem RunRow.tenant_of_renewed {r : Run} {old? : Option RunRow} {row : RunRow} (h : renewed r old? = some row) :
    row.tenant = (old?.map (·.tenant)).getD r.tenant := by
  unfold renewed at h
  split at h
  . cases h
    rfl
  . split at h
    . cases h
      rfl
    . contradiction

theorem RecordRow.tenant_of_renewed {r : Record} {old? : Option RecordRow} {row : RecordRow}
    (h : renewed r old? = some row) : row.tenant = (old?.map (·.tenant)).getD r.tenant := by
  unfold renewed at h
  split at h
  . split at h
    . cases h
      rfl
    . cases h
      rfl
  . contradiction

theorem concerns_saveRun (tenant : String) (s : Store) (r : Run) (qs : List Request) :
    concerns tenant s (.saveRun r :: qs) (.saveRun r) =
      (((s.runs.get? r.id).map (·.tenant)).getD r.tenant == tenant) := by
  unfold concerns runOwner?
  cases h : s.runs.get? r.id <;> simp [h, beq_eq_decide]

theorem concerns_saveRecord (tenant : String) (s : Store) {r : Record} (h : takes r = true) (qs : List Request) :
    concerns tenant s (.saveRecord r :: qs) (.saveRecord r) =
      (((s.records.get? r.id).map (·.tenant)).getD r.tenant == tenant) := by
  unfold concerns recordOwner?
  cases hget : s.records.get? r.id <;> simp [h, hget, beq_eq_decide]

theorem Alike.saveRun (h : Alike tenant s u) (r : Run) (qs : List Request) :
    Alike tenant (s.saveRun r).2 (if concerns tenant s (.saveRun r :: qs) (.saveRun r) then (u.saveRun r).2 else u) := by
  rw [concerns_saveRun]
  constructor
  . rw [apply_ite Store.runs, runs_saveRun, runs_saveRun]
    apply h.runs.upsert
    . intro old hget
      simp [hget]
    . intro row hrow
      simp [RunRow.tenant_of_renewed hrow]
  . rw [apply_ite Store.records, records_saveRun, records_saveRun, ite_self]
    exact h.records

theorem Alike.saveRecord (h : Alike tenant s u) (r : Record) (qs : List Request) :
    Alike tenant (s.saveRecord r)
      (if concerns tenant s (.saveRecord r :: qs) (.saveRecord r) then u.saveRecord r else u) := by
  cases htakes : takes r with
  | false =>
    rw [saveRecord_of_refused s htakes, saveRecord_of_refused u htakes, ite_self]
    exact h
  | true =>
    rw [concerns_saveRecord tenant s htakes]
    constructor
    . rw [apply_ite Store.runs, runs_saveRecord, runs_saveRecord, ite_self]
      exact h.runs
    . rw [apply_ite Store.records, records_saveRecord, records_saveRecord]
      apply h.records.upsert
      . intro old hget
        simp [hget]
      . intro row hrow
        simp [RecordRow.tenant_of_renewed hrow]

/--
A request that concerns the tenant is served in both stores, and what else comes in the first one only.
-/
theorem Alike.serve (h : Alike tenant s u) (q : Request) (qs : List Request) :
    Alike tenant (s.serve q).2 (if concerns tenant s (q :: qs) q then (u.serve q).2 else u) := by
  cases q with
  | saveRun r => exact h.saveRun r qs
  | saveRecord r => exact h.saveRecord r qs
  | run? now id => exact h
  | runs? now owner ticket limit => exact h
  | record? now id owner => exact h

theorem concerns_of_reader? {q : Request} {qs : List Request} (h : q.reader? = some tenant) :
    concerns tenant s qs q = true := by
  cases q with
  | saveRun r => contradiction
  | saveRecord r => contradiction
  | run? now id => rfl
  | runs? now owner ticket limit => rfl
  | record? now id owner => rfl

theorem Alike.observed (h : Alike tenant s u) (qs : List Request) :
    s.observed tenant qs = u.observed tenant (qs.filter (concerns tenant s qs)) := by
  -- The owners of ids look at the requests to come, and stay the same when the first one is served.
  induction qs generalizing s u with
  | nil => rfl
  | cons q qs ih =>
    have hserved := h.serve q qs
    rw [List.filter_cons, ← concerns_serve tenant s q qs]
    rw [← concerns_serve] at hserved
    split
    . next hconcerns =>
      rw [if_pos hconcerns] at hserved
      unfold Store.observed
      dsimp only
      rw [ih hserved]
      split
      . next hreader => rw [h.answer hreader]
      . rfl
    . next hconcerns =>
      rw [if_neg hconcerns] at hserved
      rw [← ih hserved, Store.observed]
      apply if_neg
      intro hreader
      apply hconcerns
      rw [concerns_serve]
      exact concerns_of_reader? hreader

theorem filter_concerns_of_separate {qs : List Request} (h : s.Separate tenant qs) :
    qs.filter (concerns tenant s qs) = qs.filter (!·.isForeign tenant) :=
  List.filter_congr h

/--
What a tenant is answered depends on the saves under its own ids alone, by whomever they are. Saves of other tenants
play no part if no id is used by the tenant and another one. A record can be read by a tenant exactly if the id
belongs to the tenant, however often it has been saved.
-/
theorem observed_of_keyed (hkeyed : s.Keyed) (tenant : String) (qs : List Request) :
    s.observed tenant qs = s.observed tenant (qs.filter (concerns tenant s qs)) ∧
    (s.Separate tenant qs → s.observed tenant qs = s.observed tenant (qs.filter (!·.isForeign tenant))) ∧
    ∀ now id, ((s.after qs).record? now id tenant).isSome = true ↔ s.recordOwner? qs id = some tenant := by
  have hsame : Alike tenant s s := .refl hkeyed
  have hobserved := hsame.observed qs
  refine ⟨hobserved, ?_, ?_⟩
  . intro hseparate
    rw [← filter_concerns_of_separate hseparate]
    exact hobserved
  . intro now id
    rw [isSome_record?_iff, recordOwner?_after]

/--
A tenant reads its own record and none of another tenant, as long as their ids differ.
-/
theorem observed_of_keyed_apart :
    let mine := Record.ofAnalysis "x" "acme" "7" [("summary", .string "mine")] .epoch
    let other := Record.ofAnalysis "y" "globex" "7" [("summary", .string "other")] .epoch
    let reads : List Request := [.record? .epoch "x" "acme", .record? .epoch "y" "acme"]
    let qs := .saveRecord other :: .saveRecord mine :: reads
    empty.observed "acme" qs = empty.observed "acme" (.saveRecord mine :: reads) ∧
    ((empty.after qs).record? .epoch "x" "acme").isSome = true := by
  intro mine other reads qs
  obtain ⟨-, hseparate, hread⟩ := observed_of_keyed keyed_empty "acme" qs
  constructor
  . apply hseparate
    decide
  . rw [hread]
    rfl

/--
A record that was saved under the id of another tenant cannot be read by its own.
-/
theorem observed_ne_of_same_id :
    ¬ ∀ tenant qs, empty.observed tenant qs = empty.observed tenant (qs.filter (!·.isForeign tenant)) := by
  intro h
  let mine := Record.ofAnalysis "x" "acme" "7" [("summary", .string "mine")] .epoch
  let other := Record.ofAnalysis "x" "globex" "7" [("summary", .string "other")] .epoch
  have hread : [Answer.record none] = [.record (some _)] :=
    h "acme" [.saveRecord other, .saveRecord mine, .record? .epoch "x" "acme"]
  simp at hread

end Store
end Triage
