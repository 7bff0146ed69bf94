/-
  **Activity counts are kept** — what becomes of the calls of `record`, over runs of the recorder.

  An event that is taken waits in the buffer, or is joined with one that waits there; a flush that commits moves the buffer to the
  table, where an event becomes a row or is joined with one; retention deletes rows.  Nothing but moving and joining
  happens to events (`CaptureInv.madeOf`), so the counts add up and the times of a row are the first and the last of what was
  joined in it.

  A flush must be able to write everything that waits.  The events meet the checks of their table, and their own numbers are drawn;
  but an external number comes from the caller, and nobody looks whether it is taken.
-/
import PerPay.Audit.Recorder
import PerPay.Lib.Groups
import PerPay.Lib.Runs

namespace PerPay.Audit

open Txn Table
open Groups (MadeOf total)

/-! ## What is joined -/

/-- What joining changes of an event or a row. -/
structure Tally where
  first : Nat
  last : Nat
  count : Nat
  duration : Nat
  deriving DecidableEq, Repr

def Tally.add (a b : Tally) : Tally := ⟨min a.first b.first, max a.last b.last, a.count + b.count, a.duration + b.duration⟩

instance : Std.Associative Tally.add :=
  ⟨fun a b c => by simp only [Tally.add, min_assoc, max_assoc, Nat.add_assoc]⟩

def ActivityEvent.tally (event : ActivityEvent) : Tally :=
  ⟨event.firstOccurredAt, event.lastOccurredAt, event.eventCount, event.durationMs⟩

def ActivityEventRow.tally (row : ActivityEventRow) : Tally :=
  ⟨row.firstOccurredAt.getD row.occurredAt, row.lastOccurredAt, row.eventCount, row.durationMs⟩

/-- Totals in the range of safe integers. -/
def SafeTotals (parts : List Tally) : Prop :=
  (parts.map Tally.count).sum ≤ maxSafeInteger ∧ (parts.map Tally.duration).sum ≤ maxSafeInteger

instance (parts : List Tally) : Decidable (SafeTotals parts) := inferInstanceAs (Decidable (_ ∧ _))

/-- Two of the wholes stay in the range. -/
theorem SafeTotals.pair {a b : Tally} {wholes parts : List Tally} (h : SafeTotals parts)
    (hmade : MadeOf Tally.add (a :: b :: wholes) parts) :
    a.count + b.count ≤ maxSafeInteger ∧ a.duration + b.duration ≤ maxSafeInteger := by
  have hcount := hmade.sum_eq (m := Tally.count) fun _ _ => rfl
  have hduration := hmade.sum_eq (m := Tally.duration) fun _ _ => rfl
  rw [List.map_cons, List.map_cons, List.sum_cons, List.sum_cons] at hcount hduration
  have hsafe := h.1
  have hsafe' := h.2
  omega

theorem ActivityEventRow.tally_merge {row : ActivityEventRow} {event : ActivityEvent}
    (hcount : row.eventCount + event.eventCount ≤ maxSafeInteger) (hduration : row.durationMs + event.durationMs ≤ maxSafeInteger) :
    (row.merge event).tally = row.tally.add event.tally := by
  unfold ActivityEventRow.tally ActivityEventRow.merge ActivityEvent.tally Tally.add
  rw [min_eq_right hcount, min_eq_right hduration]
  rfl

theorem ActivityEvent.tally_absorb {existing event : ActivityEvent}
    (hcount : existing.eventCount + event.eventCount ≤ maxSafeInteger)
    (hduration : existing.durationMs + event.durationMs ≤ maxSafeInteger) :
    (existing.absorb event).tally = existing.tally.add event.tally := by
  unfold ActivityEvent.tally ActivityEvent.absorb Tally.add
  rw [min_eq_right hcount, min_eq_right hduration]

/-! ## Events that are made -/

variable {ν : Type} {pf : AuditPlatform ν}

theorem nonnegative_ok {value : JsNumber} {n : Nat} (h : nonnegative value = .ok n) :
    ∃ x, value = some x ∧ isSafeJs x = true ∧ 0 ≤ x.num ∧ n = x.num.toNat := by
  unfold nonnegative at h
  cases value with
  | none => exact nomatch h
  | some x =>
    dsimp only at h
    split at h
    · rename_i hx
      exact ⟨x, rfl, hx.1, hx.2, (Except.ok.inj h).symm⟩
    · exact nomatch h

/-- The count of an event is the count of its call. -/
theorem max_counted {count : Option JsNumber} {n : Nat} (h : (count.map nonnegative).getD (.ok 1) = .ok n) :
    max 1 n = counted count := by
  cases count with
  | none =>
    obtain rfl := Except.ok.inj h
    rfl
  | some value =>
    obtain ⟨x, rfl, hsafe, hsign, rfl⟩ := nonnegative_ok h
    unfold counted
    dsimp only
    by_cases hpos : 0 < x.num
    · rw [if_pos ⟨hsafe, hpos⟩]
      omega
    · rw [if_neg fun hx => hpos hx.2]
      omega

theorem statusOf_ok {value : Option JsNumber} {status : Option Nat} (h : statusOf value = .ok status) :
    status.all (fun status => 100 ≤ status && status ≤ 599) = true := by
  unfold statusOf at h
  split at h
  · obtain rfl := Except.ok.inj h
    rfl
  · split at h
    · rename_i hx
      obtain rfl := Except.ok.inj h
      simp only [Option.all_some, Bool.and_eq_true, decide_eq_true_eq]
      omega
    · exact nomatch h
  · exact nomatch h

theorem text_ok {value out : Option String} {maximum : Nat} (h : text value maximum = .ok out) : out = none ∨ out = value := by
  unfold text at h
  split at h
  · exact .inl (Except.ok.inj h).symm
  · split at h
    · exact nomatch h
    · obtain rfl := Except.ok.inj h
      unfold textOrNull
      split
      · exact .inl rfl
      · exact .inr rfl

theorem jsonValid_stringify (value : Json.Value ν) : jsonValid pf (String.ofList (Json.stringify pf.numbers value)) = true := by
  unfold jsonValid
  rw [String.toList_ofList, Json.parse_stringify]
  rfl

/-- What the recorder relies on in an event. -/
structure Made (pf : AuditPlatform ν) (call : RecordCall ν) (event : ActivityEvent) : Prop where
  eventId : event.eventId = call.draws.eventId
  first : event.firstOccurredAt = event.occurredAt
  last : event.lastOccurredAt = event.occurredAt
  count : event.eventCount = counted call.input.count
  external : event.externalEventId = none ∨ event.externalEventId = call.input.externalEventId
  checked : ∀ n, (event.row n).checked pf = true

theorem createActivityEvent_made {call : RecordCall ν} {event : ActivityEvent}
    (h : createActivityEvent pf call.input call.scope call.draws call.now = .ok event) : Made pf call event := by
  unfold createActivityEvent at h
  split at h
  · exact nomatch h
  obtain ⟨occurredAt, -, h⟩ := except_bind_ok.mp h
  obtain ⟨actorId, -, h⟩ := except_bind_ok.mp h
  obtain ⟨siteId, -, h⟩ := except_bind_ok.mp h
  obtain ⟨siteName, -, h⟩ := except_bind_ok.mp h
  obtain ⟨httpMethod, -, h⟩ := except_bind_ok.mp h
  obtain ⟨route, -, h⟩ := except_bind_ok.mp h
  obtain ⟨httpStatus, hstatus, h⟩ := except_bind_ok.mp h
  obtain ⟨subjectType, -, h⟩ := except_bind_ok.mp h
  obtain ⟨subjectId, -, h⟩ := except_bind_ok.mp h
  dsimp only at h
  split at h
  · exact nomatch h
  obtain ⟨activityId, -, h⟩ := except_bind_ok.mp h
  obtain ⟨requestId, -, h⟩ := except_bind_ok.mp h
  obtain ⟨durationMs, -, h⟩ := except_bind_ok.mp h
  obtain ⟨eventCount, hcount, h⟩ := except_bind_ok.mp h
  obtain ⟨externalEventId, hexternal, h⟩ := except_bind_ok.mp h
  obtain rfl := Except.ok.inj h
  refine ⟨rfl, rfl, rfl, max_counted hcount, text_ok hexternal, fun n => ?_⟩
  have hjson := @jsonValid_stringify _ pf (sanitizeActivityDetails call.input.details)
  unfold ActivityEventRow.checked ActivityEvent.row
  dsimp only
  rw [statusOf_ok hstatus, hjson, jsonValid_stringify]
  simp

/-! ## Writing the buffer -/

def externalIds (table : ActivityTable) (buffer : List ActivityEvent) : List String :=
  (table.rows.map (·.externalEventId) ++ buffer.map (·.externalEventId)).filterMap id

def eventIds (table : ActivityTable) (buffer : List ActivityEvent) : List String :=
  table.rows.map (·.eventId) ++ buffer.map (·.eventId)

/-- The table and the buffer, as a flush finds them: `rest` are the rows that were deleted, `parts` all that was ever taken. -/
structure Writable (pf : AuditPlatform ν) (table : ActivityTable) (buffer : List ActivityEvent) (rest parts : List Tally) : Prop where
  ordered : table.Ordered
  rows : ∀ row ∈ table.rows, row.checked pf = true
  events : ∀ event ∈ buffer, ∀ n, (event.row n).checked pf = true
  ids : (eventIds table buffer).Nodup
  external : (externalIds table buffer).Nodup
  made : MadeOf Tally.add (table.rows.map ActivityEventRow.tally ++ (buffer.map ActivityEvent.tally ++ rest)) parts

theorem checked_merge {row : ActivityEventRow} {event : ActivityEvent} {n : Nat} (hrow : row.checked pf = true)
    (hevent : (event.row n).checked pf = true) : (row.merge event).checked pf = true := by
  unfold ActivityEventRow.checked ActivityEvent.row at hevent
  unfold ActivityEventRow.checked at hrow ⊢
  unfold ActivityEventRow.merge
  simp only [Bool.and_eq_true, decide_eq_true_eq, Option.all_some] at hrow hevent ⊢
  have hmax : 1 ≤ maxSafeInteger := by decide
  refine ⟨⟨⟨⟨⟨?_, ?_⟩, hrow.1.1.1.2⟩, ?_⟩, hrow.1.2⟩, hrow.2⟩
  · cases hfirst : row.firstOccurredAt with
    | none =>
      rw [Option.getD_none]
      exact Nat.min_le_left _ _
    | some first =>
      have hle := hrow.1.1.1.1.1
      rw [hfirst, Option.all_some, decide_eq_true_eq] at hle
      rw [Option.getD_some]
      exact (Nat.min_le_left _ _).trans hle
  · exact hrow.1.1.1.1.2.trans (Nat.le_max_left _ _)
  · have hcount := hrow.1.1.2
    omega

theorem checked_absorb {existing event : ActivityEvent} {n : Nat} (hexisting : (existing.row n).checked pf = true)
    (hevent : (event.row n).checked pf = true) : ((existing.absorb event).row n).checked pf = true := by
  have hmerged := checked_merge hexisting hevent
  unfold ActivityEventRow.checked at hmerged ⊢
  exact hmerged

/-- An event that waits is written, as a row or into one. -/
theorem Writable.persist {table : ActivityTable} {event : ActivityEvent} {buffer : List ActivityEvent} {rest parts : List Tally}
    (h : Writable pf table (event :: buffer) rest parts) (hsafe : SafeTotals parts) :
    ∃ table', persistActivityEvent pf event table = .ok ((), table') ∧ Writable pf table' buffer rest parts := by
  have hchecked := h.events event List.mem_cons_self
  have hevents : ∀ e ∈ buffer, ∀ n, (e.row n).checked pf = true := fun e he => h.events e (List.mem_cons_of_mem event he)
  cases haggregate : table.aggregate event with
  | some existing =>
    obtain ⟨key, -, hfound⟩ := Option.bind_eq_some_iff.mp haggregate
    have hexisting := List.mem_of_find?_eq_some hfound
    have hmerged := checked_merge (h.rows existing hexisting) (hchecked 0)
    have hx : persistActivityEvent pf event table = .ok ((), { table with
        rows := updateWhere (fun row => row.sequence = existing.sequence) (·.merge event) table.rows }) := by
      unfold persistActivityEvent
      rw [readWith_bind]
      dsimp only [id]
      rw [require_bind_met (hchecked _), haggregate]
      dsimp only
      rw [require_bind_met hmerged]
      rfl
    have hone : decide (existing.sequence = existing.sequence) = true := decide_eq_true rfl
    have honly : ∀ row ∈ table.rows, decide (row.sequence = existing.sequence) = true → row.sequence = existing.sequence :=
      fun row _ hrow => of_decide_eq_true hrow
    have hids : (updateWhere (fun row : ActivityEventRow => row.sequence = existing.sequence) (·.merge event) table.rows).map
        (·.eventId) = table.rows.map (·.eventId) :=
      map_updateWhere (f := (·.merge event)) (g := ActivityEventRow.eventId) (fun _ _ => rfl) _
    have hexternal : (updateWhere (fun row : ActivityEventRow => row.sequence = existing.sequence) (·.merge event) table.rows).map
        (·.externalEventId) = table.rows.map (·.externalEventId) :=
      map_updateWhere (f := (·.merge event)) (g := ActivityEventRow.externalEventId) (fun _ _ => rfl) _
    refine ⟨_, hx, (persistActivityEvent_extends h.ordered hx).1, ?_, hevents, ?_, ?_, ?_⟩
    · intro row hrow
      rcases mem_updateWhere.mp hrow with ⟨r, hr, -, rfl⟩ | ⟨hr, -⟩
      · exact checked_merge (h.rows r hr) (hchecked 0)
      · exact h.rows row hr
    · refine h.ids.sublist ?_
      unfold eventIds
      rw [hids]
      exact (List.Sublist.refl _).append (List.sublist_cons_self _ _)
    · refine h.external.sublist ?_
      unfold externalIds
      rw [hexternal]
      exact ((List.Sublist.refl _).append (List.sublist_cons_self _ _)).filterMap id
    · -- the row and the event, side by side, and then joined
      have hperm := (h.ordered.unique.perm_cons hexisting hone honly).map ActivityEventRow.tally
      have hperm' := (h.ordered.unique.perm_updateWhere hexisting hone honly (·.merge event)).map ActivityEventRow.tally
      rw [List.map_cons] at hperm hperm'
      have hside : MadeOf Tally.add (existing.tally :: event.tally ::
          ((table.rows.filter fun row => !decide (row.sequence = existing.sequence)).map ActivityEventRow.tally ++
            (buffer.map ActivityEvent.tally ++ rest))) parts := by
        refine h.made.perm ?_ (.refl _)
        refine (hperm.append_right _).trans ?_
        rw [List.cons_append]
        exact List.Perm.cons _ List.perm_middle
      obtain ⟨hcount, hduration⟩ := hsafe.pair hside
      have hjoined := hside.join
      rw [← ActivityEventRow.tally_merge hcount hduration] at hjoined
      exact hjoined.perm (hperm'.symm.append_right _) (.refl _)
  | none =>
    have hids := List.nodup_append.mp h.ids
    have hfresh : ∀ row ∈ table.rows, row.eventId ≠ event.eventId ∧
        (event.externalEventId.isSome → row.externalEventId ≠ event.externalEventId) := by
      intro row hrow
      refine ⟨hids.2.2 _ (List.mem_map_of_mem hrow) _ List.mem_cons_self, fun hsome heq => ?_⟩
      obtain ⟨external, hexternal⟩ := Option.isSome_iff_exists.mp hsome
      have happart := h.external
      unfold externalIds at happart
      rw [List.filterMap_append] at happart
      refine (List.nodup_append.mp happart).2.2 external ?_ external ?_ rfl
      · exact List.mem_filterMap.mpr ⟨_, List.mem_map_of_mem hrow, heq.trans hexternal⟩
      · exact List.mem_filterMap.mpr ⟨_, List.mem_map_of_mem List.mem_cons_self, hexternal⟩
    have hx : persistActivityEvent pf event table = .ok ((),
        ⟨table.rows ++ [event.row (table.sqliteSequence + 1)], table.sqliteSequence + 1⟩) := by
      unfold persistActivityEvent
      rw [readWith_bind]
      dsimp only [id]
      rw [require_bind_met (hchecked _), haggregate]
      dsimp only
      rw [require_bind_met hfresh]
      rfl
    refine ⟨_, hx, (persistActivityEvent_extends h.ordered hx).1, forall_mem_append_singleton h.rows (hchecked _), hevents,
      ?_, ?_, ?_⟩
    · have heq : eventIds ⟨table.rows ++ [event.row (table.sqliteSequence + 1)], table.sqliteSequence + 1⟩ buffer =
          eventIds table (event :: buffer) := by
        unfold eventIds
        rw [List.map_append, List.append_assoc]
        rfl
      rw [heq]
      exact h.ids
    · have heq : externalIds ⟨table.rows ++ [event.row (table.sqliteSequence + 1)], table.sqliteSequence + 1⟩ buffer =
          externalIds table (event :: buffer) := by
        unfold externalIds
        rw [List.map_append, List.append_assoc]
        rfl
      rw [heq]
      exact h.external
    · have hmade := h.made
      rw [List.map_cons, List.cons_append] at hmade
      rw [List.map_append, List.append_assoc]
      exact hmade

/-- **Everything that waits can be written.** -/
theorem Writable.persistAll {rest parts : List Tally} : ∀ {buffer : List ActivityEvent} {table : ActivityTable},
    Writable pf table buffer rest parts → (buffer = [] ∨ SafeTotals parts) →
    ∃ table', forEach (persistActivityEvent pf) buffer table = .ok ((), table') ∧ Writable pf table' [] rest parts
  | [], table, h, _ => ⟨table, rfl, h⟩
  | event :: buffer, table, h, hsafe => by
    have hsafe : SafeTotals parts := hsafe.resolve_left (List.cons_ne_nil _ _)
    obtain ⟨table', hx, h'⟩ := h.persist hsafe
    obtain ⟨table'', hy, h''⟩ := h'.persistAll (.inr hsafe)
    refine ⟨table'', ?_, h''⟩
    unfold forEach
    rw [bind_of_ok hx]
    exact hy

/-! ## Runs -/

/-- The recorder of a process and its tables, with what has happened since the start. -/
structure CaptureState where
  recorder : Recorder
  db : CaptureDb
  /-- the tables and the count of drops that the process started with -/
  start : CaptureDb
  droppedAtStart : Nat
  /-- the counts of all the calls of `record` -/
  recorded : Nat
  /-- the events that were taken -/
  accepted : List ActivityEvent
  /-- the rows that were deleted -/
  deleted : List ActivityEventRow
  deriving DecidableEq, Repr

inductive CaptureStep (ν : Type)
  | record (call : RecordCall ν)
  | flush (reading : Recorder.FlushReading)
  | stop (reading : Recorder.FlushReading)
  | prune (now : Nat) (beforeCommit : Option Fault)
  | noteSpoolImport (time : Nat)
  | noteSpoolAvailable
  | noteSpoolFailure (code : String)
  | noteSpoolGap (count : Nat)

variable (pf)

/-- The event of a call that is not dropped. -/
def Recorder.accepts (r : Recorder) (call : RecordCall ν) : Option ActivityEvent :=
  if (r.record pf call).droppedEvents = r.droppedEvents then
    (createActivityEvent pf call.input call.scope call.draws call.now).toOption
  else none

/-- After a call of `record` that was taken as an event, or not. -/
def CaptureState.called (s : CaptureState) (recorder : Recorder) (count : Nat) (taken : Option ActivityEvent) : CaptureState :=
  { s with recorder, recorded := s.recorded + count, accepted := s.accepted ++ taken.toList }

/-- The rows of `written` that are not there any more. -/
def CaptureState.after (s : CaptureState) (written : ActivityTable) (next : Recorder × CaptureDb) : CaptureState :=
  { s with
    recorder := next.1
    db := next.2
    deleted := s.deleted ++ written.rows.filter fun row => row.sequence ∉ next.2.table.rows.map (·.sequence) }

def CaptureState.written (s : CaptureState) (reading : Recorder.FlushReading) : ActivityTable :=
  (committed (s.recorder.persistBuffer pf reading.now reading.beforeCommit) s.db).table

def CaptureStep.run (s : CaptureState) : CaptureStep ν → CaptureState
  | .record call => s.called (s.recorder.record pf call) (counted call.input.count) (s.recorder.accepts pf call)
  | .flush reading => s.after (s.written pf reading) (s.recorder.flush pf reading s.db)
  | .stop reading => s.after (s.written pf reading) (s.recorder.stop pf reading s.db)
  | .prune now beforeCommit => s.after s.db.table (s.recorder.prune now beforeCommit s.db)
  | .noteSpoolImport time => { s with recorder := s.recorder.noteSpoolImport time }
  | .noteSpoolAvailable => { s with recorder := s.recorder.noteSpoolAvailable }
  | .noteSpoolFailure code => { s with recorder := s.recorder.noteSpoolFailure code }
  | .noteSpoolGap count => { s with recorder := s.recorder.noteSpoolGap count }

/-- The constraints of the table. -/
structure ActivityTable.Constrained (table : ActivityTable) : Prop where
  ordered : table.Ordered
  rows : ∀ row ∈ table.rows, row.checked pf = true
  ids : (table.rows.map (·.eventId)).Nodup
  external : ((table.rows.map (·.externalEventId)).filterMap id).Nodup

/-- A process that starts on any tables. -/
def captureSystem : Runs.System CaptureState (CaptureStep ν) where
  init s := s.db.table.Constrained pf ∧ (∃ maximum gaps, s.recorder = Recorder.create maximum gaps s.db) ∧ s.start = s.db ∧
    s.droppedAtStart = s.recorder.droppedEvents ∧ s.recorded = 0 ∧ s.accepted = [] ∧ s.deleted = []
  step s step s' := s' = step.run pf s

variable {pf}

/-- What was taken, and the rows there were before. -/
def CaptureState.parts (s : CaptureState) : List Tally :=
  s.start.table.rows.map ActivityEventRow.tally ++ s.accepted.map ActivityEvent.tally

variable (pf)

/-- A call of `record` whose drawn number is new, whose external number is taken by no event of the table or the buffer, and that
    keeps the totals safe. -/
def CaptureStep.Fresh (s : CaptureState) : CaptureStep ν → Prop
  | .record call =>
    call.draws.eventId ∉ eventIds s.db.table s.recorder.buffer ∧
    (∀ external, call.input.externalEventId = some external → external ∉ externalIds s.db.table s.recorder.buffer) ∧
    SafeTotals (CaptureStep.run pf s (.record call)).parts
  | _ => True

variable {pf}

/-! ### One call -/

/-- What becomes of a call. -/
theorem Recorder.record_cases (r : Recorder) (call : RecordCall ν) :
    (∃ code, r.record pf call = r.drop code (counted call.input.count) ∧ r.accepts pf call = none) ∨
    ∃ event, createActivityEvent pf call.input call.scope call.draws call.now = .ok event ∧ r.accepts pf call = some event ∧
      ((∃ existing, r.aggregate event = some existing ∧ r.record pf call =
          { r with buffer := updateWhere (fun e => e.aggregationKey = event.aggregationKey) (·.absorb event) r.buffer }) ∨
        (r.aggregate event = none ∧ r.record pf call =
          { r with buffer := r.buffer ++ [event], bufferBytes := r.bufferBytes + event.bytes pf })) := by
  have hpositive : 0 < counted call.input.count := by
    unfold counted
    split
    · split <;> omega
    · exact Nat.one_pos
  have hdrop : ∀ code, r.record pf call = r.drop code (counted call.input.count) → r.accepts pf call = none := by
    intro code hcode
    unfold Recorder.accepts
    rw [hcode]
    exact if_neg (by show r.droppedEvents + _ ≠ _; omega)
  unfold Recorder.record at hdrop ⊢
  by_cases hstopped : r.stopped = true
  · rw [if_pos hstopped] at hdrop ⊢
    exact .inl ⟨_, rfl, hdrop _ rfl⟩
  rw [if_neg hstopped] at hdrop ⊢
  cases hevent : createActivityEvent pf call.input call.scope call.draws call.now with
  | error message =>
    rw [hevent] at hdrop
    exact .inl ⟨_, rfl, hdrop _ rfl⟩
  | ok event =>
    rw [hevent] at hdrop
    dsimp only at hdrop ⊢
    have htaken : ∀ r' : Recorder, r.record pf call = r' → r'.droppedEvents = r.droppedEvents → r.accepts pf call = some event := by
      intro r' hr' hsame
      unfold Recorder.accepts
      rw [hr', if_pos hsame, hevent]
      rfl
    unfold Recorder.record at htaken
    rw [if_neg hstopped, hevent] at htaken
    dsimp only at htaken
    cases haggregate : r.aggregate event with
    | some existing =>
      rw [haggregate] at htaken
      exact .inr ⟨event, rfl, htaken _ rfl rfl, .inl ⟨existing, haggregate, rfl⟩⟩
    | none =>
      rw [haggregate] at hdrop htaken
      dsimp only at hdrop htaken ⊢
      split at hdrop
      · rename_i hfull
        rw [if_pos hfull]
        have hcount := (createActivityEvent_made hevent).count
        rw [hcount] at hdrop ⊢
        exact .inl ⟨_, rfl, hdrop _ rfl⟩
      · rename_i hfull
        rw [if_neg hfull] at htaken ⊢
        exact .inr ⟨event, rfl, htaken _ rfl rfl, .inr ⟨haggregate, rfl⟩⟩

/-- A table some rows of which were deleted. -/
def Deletes (table table' : ActivityTable) : Prop :=
  ∃ p : ActivityEventRow → Bool, table' = { table with rows := table.rows.filter p }

theorem Deletes.refl (table : ActivityTable) : Deletes table table := ⟨fun _ => true, by rw [List.filter_true]⟩

theorem Recorder.prune_effect (now : Nat) (beforeCommit : Option Fault) (r : Recorder) (db : CaptureDb) :
    (r.prune now beforeCommit db).1.buffer = r.buffer ∧ (r.prune now beforeCommit db).1.droppedEvents = r.droppedEvents ∧
      Deletes db.table (r.prune now beforeCommit db).2.table := by
  unfold Recorder.prune
  cases beforeCommit with
  | some fault => exact ⟨rfl, rfl, .refl _⟩
  | none => exact ⟨rfl, rfl, _, rfl⟩

theorem Recorder.pruneIfDue_effect (reading : FlushReading) (r : Recorder) (db : CaptureDb) :
    (r.pruneIfDue reading db).1.buffer = r.buffer ∧ (r.pruneIfDue reading db).1.droppedEvents = r.droppedEvents ∧
      Deletes db.table (r.pruneIfDue reading db).2.table := by
  unfold Recorder.pruneIfDue
  split
  · exact Recorder.prune_effect _ _ _ _
  · exact ⟨rfl, rfl, .refl _⟩

/-- **A flush writes all of the buffer or nothing.** -/
theorem Recorder.flush_effect (reading : FlushReading) (r : Recorder) (db : CaptureDb) :
    ((∃ e, r.persistBuffer pf reading.now reading.beforeCommit db = .error e) ∧ (r.flush pf reading db).1.buffer = r.buffer ∧
      (r.flush pf reading db).1.droppedEvents = r.droppedEvents ∧ (r.flush pf reading db).2 = db) ∨
    ∃ db', r.persistBuffer pf reading.now reading.beforeCommit db = .ok ((), db') ∧ (r.flush pf reading db).1.buffer = [] ∧
      (r.flush pf reading db).1.droppedEvents = r.droppedEvents ∧ Deletes db'.table (r.flush pf reading db).2.table := by
  unfold Recorder.flush
  cases hx : r.persistBuffer pf reading.now reading.beforeCommit db with
  | error e => exact .inl ⟨⟨e, rfl⟩, rfl, rfl, rfl⟩
  | ok out =>
    obtain ⟨_, db'⟩ := out
    exact .inr ⟨db', rfl, Recorder.pruneIfDue_effect _ _ _⟩

theorem Recorder.persistBuffer_ok {r : Recorder} {now : Nat} {beforeCommit : Option Fault} {db db' : CaptureDb}
    (h : r.persistBuffer pf now beforeCommit db = .ok ((), db')) :
    beforeCommit = none ∧ forEach (persistActivityEvent pf) r.buffer db.table = .ok ((), db'.table) := by
  obtain ⟨_, m, hzoom, h⟩ := bind_ok.mp h
  obtain ⟨table, hx, rfl⟩ := zoom_ok.mp hzoom
  rw [update_bind_ok] at h
  cases beforeCommit with
  | some fault => exact (fail_ok.mp h).elim
  | none =>
    obtain ⟨-, rfl⟩ := pure_ok.mp h
    exact ⟨rfl, hx⟩

theorem Recorder.persistBuffer_of {r : Recorder} (now : Nat) {db : CaptureDb} {table : ActivityTable}
    (h : forEach (persistActivityEvent pf) r.buffer db.table = .ok ((), table)) :
    ∃ db', r.persistBuffer pf now none db = .ok ((), db') ∧ db'.table = table := by
  unfold Recorder.persistBuffer
  rw [bind_of_ok (zoom_of_ok h)]
  exact ⟨_, rfl, rfl⟩

/-! ### The invariant -/

/-- No two events of the buffer have one key. -/
def KeysApart (buffer : List ActivityEvent) : Prop :=
  ∀ a ∈ buffer, ∀ b ∈ buffer, a.aggregationKey.isSome → a.aggregationKey = b.aggregationKey → a = b

structure CaptureInv (pf : AuditPlatform ν) (s : CaptureState) : Prop where
  writable : Writable pf s.db.table s.recorder.buffer (s.deleted.map ActivityEventRow.tally) s.parts
  counts : s.recorder.droppedEvents + (s.accepted.map (·.eventCount)).sum = s.droppedAtStart + s.recorded
  keys : KeysApart s.recorder.buffer
  times : ∀ event ∈ s.accepted, event.firstOccurredAt = event.occurredAt ∧ event.lastOccurredAt = event.occurredAt
  safe : s.recorder.buffer = [] ∨ SafeTotals s.parts

theorem captureInv_init {s : CaptureState} (h : (captureSystem pf).init s) : CaptureInv pf s := by
  obtain ⟨hconstrained, ⟨maximum, gaps, hrecorder⟩, hstart, hdropped, hrecorded, haccepted, hdeleted⟩ := h
  have hbuffer : s.recorder.buffer = [] := by rw [hrecorder]; rfl
  refine ⟨⟨hconstrained.ordered, hconstrained.rows, ?_, ?_, ?_, ?_⟩, ?_, ?_, ?_, .inl hbuffer⟩
  · rw [hbuffer]
    exact fun _ h => absurd h List.not_mem_nil
  · unfold eventIds
    rw [hbuffer, List.map_nil, List.append_nil]
    exact hconstrained.ids
  · unfold externalIds
    rw [hbuffer, List.map_nil, List.append_nil]
    exact hconstrained.external
  · unfold CaptureState.parts
    rw [hbuffer, hdeleted, haccepted, hstart]
    exact .refl _
  · rw [haccepted, hdropped, hrecorded]
    rfl
  · rw [hbuffer]
    exact fun _ h => absurd h List.not_mem_nil
  · rw [haccepted]
    exact fun _ h => absurd h List.not_mem_nil

/-- What a step changes that does not touch events. -/
theorem CaptureInv.frame {s s' : CaptureState} (h : CaptureInv pf s) (hbuffer : s'.recorder.buffer = s.recorder.buffer)
    (hdropped : s'.recorder.droppedEvents = s.recorder.droppedEvents)
    (hrest : s' = { s with recorder := s'.recorder }) : CaptureInv pf s' := by
  rw [hrest]
  exact ⟨hbuffer ▸ h.writable, by show s'.recorder.droppedEvents + _ = _; rw [hdropped]; exact h.counts, hbuffer ▸ h.keys,
    h.times, hbuffer ▸ h.safe⟩

theorem Writable.delete {table table' : ActivityTable} {buffer : List ActivityEvent} {deleted : List ActivityEventRow}
    {parts : List Tally} (h : Writable pf table buffer (deleted.map ActivityEventRow.tally) parts) (hdeletes : Deletes table table') :
    Writable pf table' buffer
      ((deleted ++ table.rows.filter fun row => row.sequence ∉ table'.rows.map (·.sequence)).map ActivityEventRow.tally) parts := by
  obtain ⟨p, rfl⟩ := hdeletes
  have hremoved : (table.rows.filter fun row => row.sequence ∉ (table.rows.filter p).map (·.sequence)) =
      table.rows.filter fun row => !p row := by
    refine List.filter_congr fun row hrow => ?_
    rw [Bool.eq_iff_iff, decide_eq_true_eq, Bool.not_eq_true', ← Bool.not_eq_true]
    refine not_congr ⟨fun hmem => ?_, fun hp => List.mem_map_of_mem (List.mem_filter.mpr ⟨hrow, hp⟩)⟩
    obtain ⟨other, hother, heq⟩ := List.mem_map.mp hmem
    obtain ⟨hother, hp⟩ := List.mem_filter.mp hother
    obtain rfl := h.ordered.unique.eq hother hrow heq
    exact hp
  have hkept : ∀ {β : Type} (f : ActivityEventRow → β), ((table.rows.filter p).map f).Sublist (table.rows.map f) :=
    fun f => (List.filter_sublist).map f
  refine ⟨⟨h.ordered.sequenced.filter p, fun row hrow => h.ordered.bounded row (List.mem_filter.mp hrow).1⟩,
    fun row hrow => h.rows row (List.mem_filter.mp hrow).1, h.events, h.ids.sublist ((hkept _).append (.refl _)),
    h.external.sublist (((hkept _).append (.refl _)).filterMap id), ?_⟩
  rw [hremoved, List.map_append]
  refine h.made.perm ?_ (.refl _)
  have hsplit := ((List.filter_append_perm p table.rows).symm.map ActivityEventRow.tally)
  rw [List.map_append] at hsplit
  refine (hsplit.append_right _).trans ?_
  rw [List.append_assoc]
  refine List.Perm.append_left _ (List.perm_append_comm.trans ?_)
  rw [List.append_assoc]

/-- A step that writes and deletes. -/
theorem CaptureInv.after {s : CaptureState} (h : CaptureInv pf s) {written : ActivityTable} {next : Recorder × CaptureDb}
    (hwritable : Writable pf written next.1.buffer (s.deleted.map ActivityEventRow.tally) s.parts)
    (hbuffer : next.1.buffer = [] ∨ next.1.buffer = s.recorder.buffer)
    (hdropped : next.1.droppedEvents = s.recorder.droppedEvents) (hdeletes : Deletes written next.2.table) :
    CaptureInv pf (s.after written next) := by
  refine ⟨hwritable.delete hdeletes, ?_, ?_, h.times, ?_⟩
  · show next.1.droppedEvents + _ = _
    rw [hdropped]
    exact h.counts
  · show KeysApart next.1.buffer
    rcases hbuffer with hnil | hsame
    · rw [hnil]
      exact fun _ h => absurd h List.not_mem_nil
    · rw [hsame]
      exact h.keys
  · show next.1.buffer = [] ∨ _
    rcases hbuffer with hnil | hsame
    · exact .inl hnil
    · rw [hsame]
      exact h.safe

/-- A flush, and whatever is done to the recorder behind it. -/
theorem CaptureInv.flush {s : CaptureState} (h : CaptureInv pf s) (reading : Recorder.FlushReading) {next : Recorder × CaptureDb}
    (hbuffer : next.1.buffer = (s.recorder.flush pf reading s.db).1.buffer)
    (hdropped : next.1.droppedEvents = (s.recorder.flush pf reading s.db).1.droppedEvents)
    (hdb : next.2 = (s.recorder.flush pf reading s.db).2) : CaptureInv pf (s.after (s.written pf reading) next) := by
  rcases @Recorder.flush_effect _ pf reading s.recorder s.db with ⟨⟨e, hx⟩, hkept, hsame, hunchanged⟩ |
    ⟨db', hx, hempty, hsame, hdeletes⟩
  · have hwritten : s.written pf reading = s.db.table := congrArg CaptureDb.table (committed_of_error hx)
    refine h.after ?_ (.inr (hbuffer.trans hkept)) (hdropped.trans hsame) ?_
    · rw [hwritten, hbuffer, hkept]
      exact h.writable
    · rw [hwritten, hdb, hunchanged]
      exact .refl _
  · have hwritten : s.written pf reading = db'.table := congrArg CaptureDb.table (committed_of_ok hx)
    obtain ⟨table', hall, hwritable⟩ := h.writable.persistAll h.safe
    rw [(Recorder.persistBuffer_ok hx).2] at hall
    obtain rfl : db'.table = table' := congrArg Prod.snd (Except.ok.inj hall)
    refine h.after ?_ (.inl (hbuffer.trans hempty)) (hdropped.trans hsame) ?_
    · rw [hwritten, hbuffer, hempty]
      exact hwritable
    · rw [hwritten, hdb]
      exact hdeletes

/-! ### One call -/

theorem CaptureState.called_parts (s : CaptureState) (recorder : Recorder) (count : Nat) (taken : Option ActivityEvent) :
    (s.called recorder count taken).parts = s.parts ++ taken.toList.map ActivityEvent.tally := by
  unfold CaptureState.parts
  rw [List.append_assoc, ← List.map_append]
  rfl

/-- The event of a call, beside what was taken before. -/
theorem Writable.beside {table : ActivityTable} {buffer : List ActivityEvent} {rest parts : List Tally}
    (h : Writable pf table buffer rest parts) (event : ActivityEvent) :
    MadeOf Tally.add (event.tally :: (table.rows.map ActivityEventRow.tally ++ (buffer.map ActivityEvent.tally ++ rest)))
      (parts ++ [event.tally]) :=
  (h.made.cons event.tally).perm (.refl _) (List.perm_append_singleton _ _).symm

/-- An event that is joined with one that waits. -/
theorem Writable.absorb {table : ActivityTable} {buffer : List ActivityEvent} {rest parts : List Tally}
    (h : Writable pf table buffer rest parts) (hkeys : KeysApart buffer) {event existing : ActivityEvent}
    (hchecked : ∀ n, (event.row n).checked pf = true) (hexisting : existing ∈ buffer)
    (hkey : existing.aggregationKey = event.aggregationKey) (hkeyed : existing.aggregationKey.isSome)
    (hsafe : SafeTotals (parts ++ [event.tally])) :
    Writable pf table (updateWhere (fun e => e.aggregationKey = event.aggregationKey) (·.absorb event) buffer) rest
      (parts ++ [event.tally]) := by
  have hone : decide (existing.aggregationKey = event.aggregationKey) = true := decide_eq_true hkey
  have honly : ∀ e ∈ buffer, decide (e.aggregationKey = event.aggregationKey) = true → e.eventId = existing.eventId := by
    intro e he hsame
    have hsame : existing.aggregationKey = e.aggregationKey := hkey.trans (of_decide_eq_true hsame).symm
    rw [hkeys existing hexisting e he hkeyed hsame]
  have hunique : UniqueOn ActivityEvent.eventId buffer := (List.nodup_append.mp h.ids).2.1
  have hids : (updateWhere (fun e => e.aggregationKey = event.aggregationKey) (·.absorb event) buffer).map (·.eventId) =
      buffer.map (·.eventId) :=
    map_updateWhere (f := (·.absorb event)) (g := ActivityEvent.eventId) (fun _ _ => rfl) _
  have hexternals : (updateWhere (fun e => e.aggregationKey = event.aggregationKey) (·.absorb event) buffer).map
      (·.externalEventId) = buffer.map (·.externalEventId) :=
    map_updateWhere (f := (·.absorb event)) (g := ActivityEvent.externalEventId) (fun _ _ => rfl) _
  refine ⟨h.ordered, h.rows, ?_, ?_, ?_, ?_⟩
  · intro e he n
    rcases mem_updateWhere.mp he with ⟨e', he', -, rfl⟩ | ⟨he', -⟩
    · exact checked_absorb (h.events e' he' n) (hchecked n)
    · exact h.events e he' n
  · unfold eventIds
    rw [hids]
    exact h.ids
  · unfold externalIds
    rw [hexternals]
    exact h.external
  · have hperm := (hunique.perm_cons hexisting hone honly).map ActivityEvent.tally
    have hperm' := (hunique.perm_updateWhere hexisting hone honly (·.absorb event)).map ActivityEvent.tally
    rw [List.map_cons] at hperm hperm'
    have hside : MadeOf Tally.add (existing.tally :: event.tally :: (table.rows.map ActivityEventRow.tally ++
        ((buffer.filter fun e => !decide (e.aggregationKey = event.aggregationKey)).map ActivityEvent.tally ++ rest)))
        (parts ++ [event.tally]) := by
      refine (h.beside event).perm ?_ (.refl _)
      refine List.Perm.trans (List.Perm.cons _ ?_) (List.Perm.swap _ _ _)
      refine (List.Perm.append_left _ (hperm.append_right _)).trans ?_
      rw [List.cons_append]
      exact List.perm_middle
    obtain ⟨hcount, hduration⟩ := hsafe.pair hside
    have hjoined := hside.join
    rw [← ActivityEvent.tally_absorb hcount hduration] at hjoined
    refine hjoined.perm ?_ (.refl _)
    refine List.perm_middle.symm.trans (List.Perm.append_left _ ?_)
    rw [← List.cons_append]
    exact hperm'.symm.append_right _

theorem KeysApart.absorb {buffer : List ActivityEvent} (h : KeysApart buffer) (event : ActivityEvent) :
    KeysApart (updateWhere (fun e => e.aggregationKey = event.aggregationKey) (·.absorb event) buffer) := by
  intro a ha b hb hkeyed hsame
  rcases mem_updateWhere.mp ha with ⟨a', ha', hpa, rfl⟩ | ⟨ha', hpa⟩ <;>
    rcases mem_updateWhere.mp hb with ⟨b', hb', hpb, rfl⟩ | ⟨hb', hpb⟩
  · rw [h a' ha' b' hb' hkeyed hsame]
  · exact absurd (hsame.symm.trans (of_decide_eq_true hpa)) (of_decide_eq_false hpb)
  · exact absurd (hsame.trans (of_decide_eq_true hpb)) (of_decide_eq_false hpa)
  · exact h a ha' b hb' hkeyed hsame

/-- An event at the end of the buffer. -/
theorem Writable.push {table : ActivityTable} {buffer : List ActivityEvent} {rest parts : List Tally}
    (h : Writable pf table buffer rest parts) {event : ActivityEvent} (hchecked : ∀ n, (event.row n).checked pf = true)
    (hid : event.eventId ∉ eventIds table buffer)
    (hexternal : ∀ external, event.externalEventId = some external → external ∉ externalIds table buffer) :
    Writable pf table (buffer ++ [event]) rest (parts ++ [event.tally]) := by
  refine ⟨h.ordered, h.rows, forall_mem_append_singleton h.events hchecked, ?_, ?_, ?_⟩
  · unfold eventIds
    rw [List.map_append, ← List.append_assoc]
    refine List.nodup_append.mpr ⟨h.ids, List.nodup_singleton _, ?_⟩
    rintro x hx y hy rfl
    rw [List.mem_singleton.mp hy] at hx
    exact hid hx
  · unfold externalIds
    rw [List.map_append, ← List.append_assoc, List.filterMap_append]
    refine List.nodup_append.mpr ⟨h.external, ?_, ?_⟩
    · cases hnew : event.externalEventId <;> simp [hnew]
    · rintro x hx y hy rfl
      obtain ⟨_, hmem, hy⟩ := List.mem_filterMap.mp hy
      rw [List.mem_singleton.mp hmem] at hy
      exact hexternal x hy hx
  · rw [List.map_append, List.append_assoc]
    refine (h.beside event).perm ?_ (.refl _)
    refine List.perm_middle.symm.trans (List.Perm.append_left _ ?_)
    exact List.perm_middle.symm

theorem KeysApart.push {buffer : List ActivityEvent} (h : KeysApart buffer) {event : ActivityEvent}
    (hnew : ∀ e ∈ buffer, event.aggregationKey.isSome → e.aggregationKey ≠ event.aggregationKey) : KeysApart (buffer ++ [event]) := by
  intro a ha b hb hkeyed hsame
  rcases List.mem_append.mp ha with holdA | hnewA <;> rcases List.mem_append.mp hb with holdB | hnewB
  · exact h a holdA b holdB hkeyed hsame
  · obtain rfl := List.mem_singleton.mp hnewB
    exact absurd hsame (hnew a holdA (hsame ▸ hkeyed))
  · obtain rfl := List.mem_singleton.mp hnewA
    exact absurd hsame.symm (hnew b holdB hkeyed)
  · rw [List.mem_singleton.mp hnewA, List.mem_singleton.mp hnewB]

theorem CaptureInv.record {s : CaptureState} (h : CaptureInv pf s) {call : RecordCall ν}
    (hfresh : CaptureStep.Fresh pf s (.record call)) : CaptureInv pf (CaptureStep.run pf s (.record call)) := by
  obtain ⟨hid, hexternal, hsafe⟩ := hfresh
  have hcounts := h.counts
  unfold CaptureStep.run at hsafe ⊢
  dsimp only at hsafe ⊢
  rcases @Recorder.record_cases _ pf s.recorder call with ⟨code, hrecord, hnone⟩ |
    ⟨event, hcreate, hsome, ⟨existing, haggregate, hrecord⟩ | ⟨haggregate, hrecord⟩⟩
  · rw [hrecord, hnone] at hsafe ⊢
    have hparts := s.called_parts (s.recorder.drop code (counted call.input.count)) (counted call.input.count) none
    refine ⟨?_, ?_, h.keys, ?_, .inr hsafe⟩
    · rw [hparts, Option.toList_none, List.map_nil, List.append_nil]
      exact h.writable
    · show s.recorder.droppedEvents + _ + ((s.accepted ++ []).map _).sum = s.droppedAtStart + (s.recorded + _)
      rw [List.append_nil]
      omega
    · show ∀ event ∈ s.accepted ++ [], _
      rw [List.append_nil]
      exact h.times
  all_goals
    have hmade := createActivityEvent_made hcreate
    rw [hrecord, hsome] at hsafe ⊢
    rw [CaptureState.called_parts, Option.toList_some, List.map_singleton] at hsafe
    have hcounts' : s.recorder.droppedEvents + ((s.accepted ++ [event]).map (·.eventCount)).sum =
        s.droppedAtStart + (s.recorded + counted call.input.count) := by
      rw [List.map_append, List.sum_append, List.map_singleton, List.sum_singleton, hmade.count]
      omega
    have htimes := forall_mem_append_singleton h.times ⟨hmade.first, hmade.last⟩
  · obtain ⟨key, hkey, hfound⟩ := Option.bind_eq_some_iff.mp haggregate
    have hexistingKey : existing.aggregationKey = some key := of_decide_eq_true (List.find?_some hfound :)
    refine ⟨?_, hcounts', h.keys.absorb event, htimes, .inr (by rw [CaptureState.called_parts]; exact hsafe)⟩
    rw [CaptureState.called_parts]
    exact h.writable.absorb h.keys hmade.checked (List.mem_of_find?_eq_some hfound) (hexistingKey.trans hkey.symm)
      (by rw [hexistingKey]; rfl) hsafe
  · have hnew : ∀ e ∈ s.recorder.buffer, event.aggregationKey.isSome → e.aggregationKey ≠ event.aggregationKey := by
      intro e he hkeyed hsame
      obtain ⟨key, hkey⟩ := Option.isSome_iff_exists.mp hkeyed
      unfold Recorder.aggregate at haggregate
      rw [hkey, Option.bind_some] at haggregate
      exact List.find?_eq_none.mp haggregate e he (decide_eq_true (hsame.trans hkey))
    refine ⟨?_, hcounts', h.keys.push hnew, htimes, .inr (by rw [CaptureState.called_parts]; exact hsafe)⟩
    rw [CaptureState.called_parts]
    refine h.writable.push hmade.checked (hmade.eventId ▸ hid) fun external heq => ?_
    rcases hmade.external with hnone | hgiven
    · exact nomatch hnone.symm.trans heq
    · exact hexternal external (hgiven.symm.trans heq)

theorem CaptureInv.step {s s' : CaptureState} {step : CaptureStep ν} (h : CaptureInv pf s)
    (hs : ((captureSystem pf).restrict (CaptureStep.Fresh pf)).step s step s') : CaptureInv pf s' := by
  obtain ⟨hfresh, rfl⟩ := hs
  cases step with
  | record call => exact h.record hfresh
  | flush reading => exact h.flush reading rfl rfl rfl
  | stop reading => exact h.flush reading rfl rfl rfl
  | prune now beforeCommit =>
    obtain ⟨hbuffer, hdropped, hdeletes⟩ := Recorder.prune_effect now beforeCommit s.recorder s.db
    exact h.after (hbuffer ▸ h.writable) (.inr hbuffer) hdropped hdeletes
  | noteSpoolImport time => exact h.frame rfl rfl rfl
  | noteSpoolAvailable => exact h.frame rfl rfl rfl
  | noteSpoolFailure code => exact h.frame rfl rfl rfl
  | noteSpoolGap count => exact h.frame rfl rfl rfl

theorem sum_tallies (s : CaptureState) :
    ((s.db.table.rows.map ActivityEventRow.tally ++ (s.recorder.buffer.map ActivityEvent.tally ++
      s.deleted.map ActivityEventRow.tally)).map Tally.count).sum =
      (s.db.table.rows.map (·.eventCount)).sum + (s.recorder.buffered + (s.deleted.map (·.eventCount)).sum) := by
  rw [List.map_append, List.map_append, List.sum_append, List.sum_append, List.map_map, List.map_map, List.map_map]
  rfl

theorem emptyDigest_isDigest :
    isDigest "e3b0c44298fc1c149afbf4c8996fb92427ae41e4649b934ca495991b7852b855" = true := by decide

def constantPlatform : AuditPlatform Nat where
  sha256 _ := "e3b0c44298fc1c149afbf4c8996fb92427ae41e4649b934ca495991b7852b855"
  sha256_digest _ := emptyDigest_isDigest
  normalizeIpAddress := some
  publicUrl _ := none
  numbers := Json.decimal
  ofNat := id

def sampleInput (externalEventId : Option String) : ActivityEventInput Nat where
  action := "backup.run"
  outcome := none
  occurredAt := none
  sourceType := none
  activityId := none
  requestId := none
  actorType := none
  actorId := none
  subjectType := none
  subjectId := none
  siteId := none
  siteName := none
  sourceAddress := none
  userAgent := none
  httpMethod := none
  route := none
  httpStatus := none
  durationMs := none
  count := none
  aggregate := externalEventId.isNone
  details := []
  coreEventIds := none
  externalEventId := externalEventId

def emptyCapture : CaptureState where
  recorder := Recorder.create 2048 0 ⟨⟨[], 0⟩, none⟩
  db := ⟨⟨[], 0⟩, none⟩
  start := ⟨⟨[], 0⟩, none⟩
  droppedAtStart := 0
  recorded := 0
  accepted := []
  deleted := []

theorem emptyCapture_init (pf : AuditPlatform ν) : (captureSystem pf).init emptyCapture :=
  ⟨⟨⟨.nil, fun _ h => absurd h List.not_mem_nil⟩, fun _ h => absurd h List.not_mem_nil, .nil, .nil⟩, ⟨2048, 0, rfl⟩, rfl, rfl, rfl,
    rfl, rfl⟩

/-- A call at a time. -/
def sampleCallAt (externalEventId : Option String) (now : Nat) (draws : ActivityDraws) : RecordCall Nat :=
  ⟨sampleInput externalEventId, none, now, draws⟩

def sampleReading : Recorder.FlushReading := ⟨65_000, none, 65_000, none⟩

def sampleWaiting : CaptureState := CaptureStep.run constantPlatform emptyCapture (.record (sampleCallAt none 60_001 ⟨"a", "r"⟩))

def sampleJoined : CaptureState := CaptureStep.run constantPlatform sampleWaiting (.record (sampleCallAt none 60_002 ⟨"b", "s"⟩))

/-- Two calls of one minute, and a flush. -/
def sampleSaved : CaptureState := CaptureStep.run constantPlatform sampleJoined (.flush sampleReading)

/-- Two calls with one external number. -/
def sampleBlocked : CaptureState :=
  CaptureStep.run constantPlatform
    (CaptureStep.run constantPlatform emptyCapture (.record (sampleCallAt (some "x") 60_001 ⟨"a", "r"⟩)))
    (.record (sampleCallAt (some "x") 60_002 ⟨"b", "s"⟩))

theorem sampleBlocked_reachable : Runs.Reachable (captureSystem constantPlatform) sampleBlocked :=
  ⟨_, .next (.next (.start (emptyCapture_init constantPlatform)) rfl) rfl⟩

end PerPay.Audit
