/-
  **The audit chain commits to its contents.**

  A run is a sequence of transactions, each of which appends events and then commits or is rolled back.
  The invariant `AuditInv` says what the tables look like after it: the rows continue the chain from
  its root, the anchor is the last of them, every event has its context, and no hashed field contains
  the separator.  From it the two halves follow:

  1. the inspection finds nothing (`AuditInv.inspect`);
  2. contents that pass the checks and the inspection are the contents that were appended
     (`Continues.eq`).  The anchor fixes how many rows there are and the last hash; a hash fixes the
     fields of its row, the hash of the row before among them, and so on back to the root.

  The joined text of a row determines its fields although the other row may contain separators: the
  appended one does not, and the number of fields is the same.
-/
import PerPay.Audit.Model
import PerPay.Lib.Joined
import PerPay.Lib.Runs
import PerPay.Lib.Table

namespace PerPay.Audit

open Json (Value)
open Txn Table

variable {ν : Type} {pf : AuditPlatform ν}

/-! ## The joined text determines the hashed columns -/

/-- No field contains the separator. -/
def AuditEventHashInput.Clean (input : AuditEventHashInput) : Prop := ∀ f ∈ input.fields, '\x00' ∉ f

/-- A column that is null or holds something. -/
def Filled (column : Option String) : Prop := column ≠ some ""

theorem filled_of_short {column : Option String} (h : shortColumn column = true) : Filled column := by
  rintro rfl
  exact absurd h (by decide)

theorem filled_of_digest {column : Option String} (h : column.all digestColumn = true) : Filled column := by
  rintro rfl
  exact absurd h (by decide)

theorem getD_injective {a b : Option String} (ha : Filled a) (hb : Filled b) (h : a.getD "" = b.getD "") : a = b := by
  cases a with
  | none =>
    cases b with
    | none => rfl
    | some t => exact absurd (congrArg some h).symm hb
  | some s =>
    cases b with
    | none => exact absurd (congrArg some h) ha
    | some t => exact congrArg some h

/-- What the checks of the schema say about the nullable columns. -/
structure AuditEventHashInput.Nullables (input : AuditEventHashInput) : Prop where
  actorId : Filled input.actorId
  subjectType : Filled input.subjectType
  subjectId : Filled input.subjectId
  requestId : Filled input.requestId
  remoteAddressHash : Filled input.remoteAddressHash
  previousHash : Filled input.previousHash

theorem AuditEventRow.nullables {row : AuditEventRow} (h : row.checked pf = true) : row.hashInput.Nullables := by
  unfold AuditEventRow.checked at h
  simp only [Bool.and_eq_true] at h
  obtain ⟨⟨⟨⟨⟨⟨⟨⟨⟨⟨⟨⟨⟨⟨-, -⟩, -⟩, hactor⟩, -⟩, -⟩, -⟩, htype⟩, hsubject⟩, hrequest⟩, hremote⟩, -⟩, -⟩, hprevious⟩, -⟩ := h
  exact ⟨filled_of_short hactor, filled_of_short htype, filled_of_short hsubject, filled_of_short hrequest,
    filled_of_digest hremote, filled_of_digest hprevious⟩

/-- Equal fields are equal columns. -/
theorem AuditEventHashInput.eq_of_fields {a b : AuditEventHashInput} (ha : a.Nullables) (hb : b.Nullables)
    (h : a.fields = b.fields) : a = b := by
  unfold fields at h
  have hinj : Function.Injective String.toList := fun _ _ => String.toList_inj.mp
  have h' := List.map_injective_iff.mpr hinj h
  simp only [List.cons.injEq, and_true, true_and] at h'
  obtain ⟨h1, h2, h3, h4, h5, h6, h7, h8, h9, h10, h11, h12⟩ := h'
  have e2 : a.occurredAt = b.occurredAt := Json.intText_injective (String.ofList_inj.mp h2)
  cases a
  cases b
  simp only [AuditEventHashInput.mk.injEq]
  exact ⟨h1, e2, h3, getD_injective ha.actorId hb.actorId h4, h5, h6, getD_injective ha.subjectType hb.subjectType h7,
    getD_injective ha.subjectId hb.subjectId h8, getD_injective ha.requestId hb.requestId h9,
    getD_injective ha.remoteAddressHash hb.remoteAddressHash h10, h11,
    getD_injective ha.previousHash hb.previousHash h12⟩

/-- The joined text of a row. -/
def AuditEventRow.payload (row : AuditEventRow) : String := String.ofList (List.intercalate ['\x00'] row.hashInput.fields)

/-- **The joined text of an appended row determines its hashed columns.** -/
theorem AuditEventRow.hashInput_eq {row row' : AuditEventRow} (hclean : row.hashInput.Clean)
    (h : row.hashInput.Nullables) (h' : row'.hashInput.Nullables) (he : row.payload = row'.payload) :
    row.hashInput = row'.hashInput := by
  refine AuditEventHashInput.eq_of_fields h h' ?_
  refine Joined.eq_of_intercalate_eq '\x00' rfl hclean ?_
  exact String.ofList_inj.mp he

theorem AuditEventRow.hash_eq (row : AuditEventRow) : calculateAuditEventHash pf row.hashInput = pf.sha256 row.payload := rfl

/-! ## The chain -/

/-- The last hash of some rows, and their last number. -/
def headHash (rows : List AuditEventRow) : Option String := rows.getLast?.map (·.eventHash)

def headSequence (rows : List AuditEventRow) : Option Int := rows.getLast?.map (·.sequence)

/-- A row continues a chain of `n` rows whose last hash is `previous`. -/
structure ContinuesRow (pf : AuditPlatform ν) (n : Int) (previous : Option String) (row : AuditEventRow) : Prop where
  sequence : row.sequence = n + 1
  safe : isSafeInt row.sequence = true
  previousHash : row.previousHash = previous
  occurredAt : isSafeInt row.occurredAt = true ∧ 0 ≤ row.occurredAt
  eventHash : row.eventHash = pf.sha256 row.payload

/-- The rows continue a chain of `n` rows whose last hash is `previous`, one after another. -/
def Continues (pf : AuditPlatform ν) : Int → Option String → List AuditEventRow → Prop
  | _, _, [] => True
  | n, previous, row :: rows => ContinuesRow pf n previous row ∧ Continues pf (n + 1) (some row.eventHash) rows

theorem headHash_append (rows : List AuditEventRow) (row : AuditEventRow) :
    headHash (rows ++ [row]) = some row.eventHash := by
  unfold headHash
  rw [List.getLast?_concat]
  rfl

theorem headSequence_append (rows : List AuditEventRow) (row : AuditEventRow) :
    headSequence (rows ++ [row]) = some row.sequence := by
  unfold headSequence
  rw [List.getLast?_concat]
  rfl

theorem headHash_cons (row : AuditEventRow) (rows : List AuditEventRow) :
    headHash (row :: rows) = (headHash rows).or (some row.eventHash) := by
  unfold headHash
  rw [List.getLast?_cons]
  cases rows.getLast? <;> rfl

theorem headSequence_cons (row : AuditEventRow) (rows : List AuditEventRow) :
    headSequence (row :: rows) = (headSequence rows).or (some row.sequence) := by
  unfold headSequence
  rw [List.getLast?_cons]
  cases rows.getLast? <;> rfl

theorem continues_append {row : AuditEventRow} : ∀ {rows : List AuditEventRow} {n : Int} {previous : Option String},
    Continues pf n previous (rows ++ [row]) ↔
      Continues pf n previous rows ∧ ContinuesRow pf (n + rows.length) ((headHash rows).or previous) row
  | [], n, previous => by
    show ContinuesRow pf n previous row ∧ True ↔ True ∧ ContinuesRow pf (n + 0) previous row
    rw [Int.add_zero, and_true, true_and]
  | r :: rows, n, previous => by
    show ContinuesRow pf n previous r ∧ Continues pf (n + 1) (some r.eventHash) (rows ++ [row]) ↔
      (ContinuesRow pf n previous r ∧ Continues pf (n + 1) (some r.eventHash) rows) ∧
        ContinuesRow pf (n + (r :: rows).length) ((headHash (r :: rows)).or previous) row
    rw [continues_append, and_assoc, headHash_cons, Option.or_assoc, Option.some_or, List.length_cons]
    have : n + 1 + (rows.length : Int) = n + ((rows.length + 1 : Nat) : Int) := by omega
    rw [this]

/-- **A chain commits to its rows.** Two chains of as many rows with the same last hash are the same,
    when the rows of one are clean and no two of their texts collide. -/
theorem Continues.eq {rows : List AuditEventRow} : ∀ {rows' : List AuditEventRow}, Continues pf 0 none rows →
    Continues pf 0 none rows' → rows.length = rows'.length → headHash rows = headHash rows' →
    (∀ row ∈ rows, row.hashInput.Clean) → (∀ row ∈ rows, row.hashInput.Nullables) →
    (∀ row ∈ rows', row.hashInput.Nullables) →
    (∀ row ∈ rows, ∀ row' ∈ rows', pf.sha256 row.payload = pf.sha256 row'.payload → row.payload = row'.payload) →
    rows = rows' := by
  induction rows using List.reverseRecOn with
  | nil =>
    intro rows' _ _ hlen _ _ _ _ _
    exact (List.eq_nil_of_length_eq_zero hlen.symm).symm
  | append_singleton rows row ih =>
    intro rows' h h' hlen hlast hclean hnull hnull' hsha
    rcases List.eq_nil_or_concat' rows' with rfl | ⟨rows', row', rfl⟩
    · simp at hlen
    obtain ⟨hrows, hrow⟩ := continues_append.mp h
    obtain ⟨hrows', hrow'⟩ := continues_append.mp h'
    have hlen' : rows.length = rows'.length := by simpa using hlen
    -- the last hashes are equal, so the last rows are
    rw [headHash_append, headHash_append, Option.some_inj] at hlast
    have hmem : row ∈ rows ++ [row] := List.mem_append_right _ List.mem_cons_self
    have hmem' : row' ∈ rows' ++ [row'] := List.mem_append_right _ List.mem_cons_self
    have hpayload := hsha row hmem row' hmem' (by rw [← hrow.eventHash, ← hrow'.eventHash, hlast])
    have hinput := AuditEventRow.hashInput_eq (hclean row hmem) (hnull row hmem) (hnull' row' hmem') hpayload
    -- and with them the hashes of the rows before
    have hprevious : headHash rows = headHash rows' := by
      have := congrArg AuditEventHashInput.previousHash hinput
      have hp : row.previousHash = row'.previousHash := this
      rwa [hrow.previousHash, hrow'.previousHash, Option.or_none, Option.or_none] at hp
    have hrest := ih hrows hrows' hlen' hprevious (fun r hr => hclean r (List.mem_append_left _ hr))
      (fun r hr => hnull r (List.mem_append_left _ hr)) (fun r hr => hnull' r (List.mem_append_left _ hr))
      (fun r hr r' hr' => hsha r (List.mem_append_left _ hr) r' (List.mem_append_left _ hr'))
    have hsequence : row.sequence = row'.sequence := by rw [hrow.sequence, hrow'.sequence, hlen']
    have heq : row = row' := by
      cases row
      cases row'
      simp only [AuditEventRow.hashInput, AuditEventHashInput.mk.injEq] at hinput
      simp only [AuditEventRow.mk.injEq]
      obtain ⟨h1, h2, h3, h4, h5, h6, h7, h8, h9, h10, h11, h12⟩ := hinput
      exact ⟨hsequence, h1, h2, h3, h4, h5, h6, h7, h8, h9, h10, h11, h12, hlast⟩
    rw [hrest, heq]

/-! ## What the loop of the inspection finds -/

theorem linkViolationsOf_eq_zero {n : Int} {previous : Option String} {row : AuditEventRow} :
    linkViolationsOf n previous row = 0 ↔ isSafeInt row.sequence = true ∧ row.sequence = n ∧ row.previousHash = previous := by
  unfold linkViolationsOf
  by_cases hs : isSafeInt row.sequence = true <;> by_cases hn : row.sequence = n <;>
    by_cases hp : row.previousHash = previous <;> simp [hs, hn, hp]

theorem hashViolationsOf_eq_zero {row : AuditEventRow} :
    hashViolationsOf pf row = 0 ↔
      (isSafeInt row.occurredAt = true ∧ 0 ≤ row.occurredAt) ∧ row.eventHash = pf.sha256 row.payload := by
  unfold hashViolationsOf
  rw [AuditEventRow.hash_eq]
  by_cases hs : isSafeInt row.occurredAt = true <;> by_cases hn : 0 ≤ row.occurredAt <;>
    by_cases hh : row.eventHash = pf.sha256 row.payload <;> simp [hs, hn, hh, Int.not_le.mp]

theorem row_violations {n : Int} {previous : Option String} {row : AuditEventRow} :
    linkViolationsOf (n + 1) previous row + hashViolationsOf pf row = 0 ↔ ContinuesRow pf n previous row := by
  rw [Nat.add_eq_zero_iff, linkViolationsOf_eq_zero, hashViolationsOf_eq_zero]
  constructor
  · rintro ⟨⟨hs, hn, hp⟩, ho, hh⟩
    exact ⟨hn, hs, hp, ho, hh⟩
  · intro h
    exact ⟨⟨h.safe, h.sequence, h.previousHash⟩, h.occurredAt, h.eventHash⟩

/-- The loop counts the rows, keeps the last hash, and adds to its violations unless the rows continue
    the chain. -/
theorem foldl_scanRow : ∀ (rows : List AuditEventRow) (scan : ChainScan),
    (rows.foldl (scanRow pf) scan).eventCount = scan.eventCount + rows.length ∧
    (rows.foldl (scanRow pf) scan).previousHash = (headHash rows).or scan.previousHash ∧
    ((rows.foldl (scanRow pf) scan).linkViolations + (rows.foldl (scanRow pf) scan).hashViolations = 0 ↔
      scan.linkViolations + scan.hashViolations = 0 ∧ Continues pf scan.eventCount scan.previousHash rows)
  | [], scan => by
    refine ⟨(Int.add_zero _).symm, rfl, ?_⟩
    show _ ↔ _ ∧ True
    rw [and_true]
    rfl
  | row :: rows, scan => by
    obtain ⟨hcount, hprevious, hviolations⟩ := foldl_scanRow rows (scanRow pf scan row)
    refine ⟨?_, ?_, ?_⟩
    · rw [List.foldl_cons, hcount]
      show scan.eventCount + 1 + (rows.length : Int) = scan.eventCount + ((rows.length + 1 : Nat) : Int)
      omega
    · rw [List.foldl_cons, hprevious, headHash_cons, Option.or_assoc, Option.some_or]
      rfl
    · rw [List.foldl_cons, hviolations]
      show scan.linkViolations + linkViolationsOf (scan.eventCount + 1) scan.previousHash row +
          (scan.hashViolations + hashViolationsOf pf row) = 0 ∧
          Continues pf (scan.eventCount + 1) (some row.eventHash) rows ↔
        scan.linkViolations + scan.hashViolations = 0 ∧
          ContinuesRow pf scan.eventCount scan.previousHash row ∧
            Continues pf (scan.eventCount + 1) (some row.eventHash) rows
      rw [← row_violations, ← and_assoc]
      refine and_congr_left fun _ => ?_
      omega

/-- The last number the loop has seen, when every row has a safe one. -/
theorem foldl_lastSequence : ∀ {rows : List AuditEventRow} {scan : ChainScan},
    Continues pf scan.eventCount scan.previousHash rows →
    (rows.foldl (scanRow pf) scan).lastSequence = (headSequence rows).or scan.lastSequence
  | [], scan, _ => rfl
  | row :: rows, scan, h => by
    rw [List.foldl_cons, @foldl_lastSequence rows (scanRow pf scan row) h.2, headSequence_cons, Option.or_assoc,
      Option.some_or]
    congr 1
    exact if_pos h.1.safe

/-! ## What an appended event is -/

/-- The anchor of some rows. -/
def anchorOf (rows : List AuditEventRow) : AuditChainState := ⟨rows.length, headSequence rows, headHash rows⟩

/-- What `INSERT INTO audit_events` has checked, and what it leaves. -/
structure InsertedEvent (pf : AuditPlatform ν) (db : AuditDb) (row : AuditEventRow) (db' : AuditDb) : Prop where
  bounded : db.auditEvents.length < sqliteMaximumRows
  extendsChain : extendsChain db.auditEvents row.previousHash = true
  checked : row.checked pf = true
  unique : ∀ r ∈ db.auditEvents, r.eventId ≠ row.eventId
  stored : ∃ old, db.auditChainState = some old ∧
    db' = { db with auditEvents := db.auditEvents ++ [row], sqliteSequence := row.sequence,
                    auditChainState := some ⟨old.eventCount + 1, some row.sequence, some row.eventHash⟩ }

theorem insertAuditEvent_ok {row : AuditEventRow} {db db' : AuditDb} {u : Unit}
    (h : insertAuditEvent pf row db = .ok (u, db')) : InsertedEvent pf db row db' := by
  unfold insertAuditEvent at h
  rw [readWith_bind_ok, require_bind_ok, require_bind_ok, require_bind_ok, require_bind_ok, update_bind_ok] at h
  obtain ⟨hbounded, hextends, hchecked, hunique, h⟩ := h
  unfold advanceChainState at h
  rw [readWith_bind_ok, orFail_bind_ok] at h
  obtain ⟨old, hold, h⟩ := h
  rw [readWith_bind_ok, require_bind_ok, require_bind_ok] at h
  obtain ⟨-, -, h⟩ := h
  exact ⟨hbounded, hextends, hchecked, fun r hr => (hunique r hr).1, old, hold, update_eq.mp h⟩

structure InsertedContext (pf : AuditPlatform ν) (db : AuditDb) (row : AuditEventContextRow) (db' : AuditDb) : Prop where
  unique : ∀ c ∈ db.auditEventContext, c.eventId ≠ row.eventId
  stored : db' = { db with auditEventContext := db.auditEventContext ++ [row] }

theorem insertAuditEventContext_ok {row : AuditEventContextRow} {db db' : AuditDb} {u : Unit}
    (h : insertAuditEventContext pf row db = .ok (u, db')) : InsertedContext pf db row db' := by
  unfold insertAuditEventContext at h
  rw [readWith_bind_ok, require_bind_ok, require_bind_ok, require_bind_ok] at h
  obtain ⟨-, hunique, -, h⟩ := h
  exact ⟨hunique, update_eq.mp h⟩

/-- A call of `appendAuditEvent` that succeeded. -/
structure Appended (pf : AuditPlatform ν) (db : AuditDb) (call : AppendCall ν) (row : AuditEventRow)
    (context : StoredAuditContext ν) (db' : AuditDb) : Prop where
  valid : validateAuditInput call.input = .ok ()
  stored : serializeAuditContext pf call.scope call.contextInput = .ok context
  details : serializeAuditDetails pf (withFingerprint call.input.details
    (contextRow pf call.eventId.text context).contextFingerprint) = .ok row.detailsJson
  built : row = call.row pf (db.sqliteSequence + 1) row.detailsJson (headHash db.auditEvents)
  event : ∃ m, InsertedEvent pf db row m ∧ InsertedContext pf m (contextRow pf call.eventId.text context) db'

theorem appendAuditEvent_ok {call : AppendCall ν} {db db' : AuditDb} {u : Unit}
    (h : appendAuditEvent pf call db = .ok (u, db')) : ∃ row context, Appended pf db call row context db' := by
  unfold appendAuditEvent at h
  rw [valueOf_bind_ok] at h
  obtain ⟨_, hvalid, h⟩ := h
  rw [valueOf_bind_ok] at h
  obtain ⟨context, hcontext, h⟩ := h
  rw [valueOf_bind_ok] at h
  obtain ⟨details, hdetails, h⟩ := h
  rw [readWith_bind_ok] at h
  obtain ⟨_, m, hevent, h⟩ := bind_ok.mp h
  exact ⟨call.row pf (db.sqliteSequence + 1) details (headHash db.auditEvents), context, hvalid, hcontext, hdetails,
    rfl, m, insertAuditEvent_ok hevent, insertAuditEventContext_ok h⟩

/-! ### Its fields are clean -/

/-- A text without the separator. -/
def Plain (text : String) : Prop := '\x00' ∉ text.toList

theorem plain_of_forall {text : String} (h : ∀ c ∈ text.toList, ¬ c.toNat < 32) : Plain text :=
  fun hmem => h _ hmem (by decide)

theorem plain_of_digest {text : String} (h : isDigest text = true) : Plain text := by
  unfold isDigest at h
  simp only [Bool.and_eq_true, List.all_eq_true] at h
  intro hmem
  exact absurd (h.2 _ hmem) (by decide)

theorem plain_of_action {text : String} (h : validAction text = true) : Plain text := by
  intro hmem
  unfold validAction at h
  split at h
  · rename_i heq; rw [heq] at hmem; exact absurd hmem List.not_mem_nil
  · rename_i c cs heq
    simp only [Bool.and_eq_true, List.all_eq_true] at h
    rw [heq] at hmem
    rcases List.mem_cons.mp hmem with rfl | hmem
    · exact absurd h.1.1 (by decide)
    · exact absurd (h.2 _ hmem) (by decide)

theorem plain_of_text {text : String} (h : validAuditText text = true) : Plain text := by
  unfold validAuditText hasControl at h
  simp only [Bool.and_eq_true, Bool.not_eq_true', List.any_eq_false] at h
  intro hmem
  exact h.2 _ hmem (by decide)

theorem plain_getD {column : Option String} (h : ∀ text ∈ column, Plain text) : Plain (column.getD "") := by
  cases column with
  | none => exact List.not_mem_nil
  | some text => exact h text rfl

theorem mem_trim {c : Char} {text : String} (h : c ∈ (Ledger.trim text).toList) : c ∈ text.toList := by
  unfold Ledger.trim at h
  rw [String.toList_ofList, List.mem_reverse] at h
  have h1 := (List.dropWhile_sublist _).mem h
  exact (List.dropWhile_sublist _).mem (List.mem_reverse.mp h1)

theorem mem_utf16Take {c : Char} : ∀ {n : Nat} {cs : List Char}, c ∈ utf16Take n cs → c ∈ cs ∨ c = '\uFFFD'
  | 0, [], h => absurd h List.not_mem_nil
  | n + 1, [], h => absurd h List.not_mem_nil
  | 0, d :: cs, h => absurd h List.not_mem_nil
  | n + 1, d :: cs, h => by
    unfold utf16Take at h
    split at h
    · rcases List.mem_cons.mp h with rfl | h
      · exact .inl List.mem_cons_self
      · exact (mem_utf16Take h).imp_left (List.mem_cons_of_mem d)
    · split at h
      · exact .inr (List.mem_singleton.mp h)
      · rcases List.mem_cons.mp h with rfl | h
        · exact .inl List.mem_cons_self
        · exact (mem_utf16Take h).imp_left (List.mem_cons_of_mem d)

theorem plain_of_bounded {value : Option String} {maximum : Nat} {text : String}
    (h : boundedText value maximum = some text) : Plain text := by
  unfold boundedText textOrNull at h
  cases value with
  | none => cases h
  | some v =>
    simp only at h
    split at h
    · cases h
    · rename_i hcontrol
      split at h
      · cases h
      · obtain rfl := Option.some.inj h
        intro hmem
        rw [String.toList_ofList] at hmem
        rcases mem_utf16Take hmem with hmem | hmem
        · exact hcontrol (List.any_eq_true.mpr ⟨_, mem_trim hmem, by decide⟩)
        · exact absurd hmem (by decide)

theorem plain_of_intText (n : Int) : Plain (String.ofList (Json.intText n)) := by
  unfold Plain Json.intText
  rw [String.toList_ofList]
  intro hmem
  split at hmem
  · rcases List.mem_cons.mp hmem with h | h
    · exact absurd h (by decide)
    · exact absurd (Json.natText_isDigit _ h) (by decide)
  · exact absurd (Json.natText_isDigit _ hmem) (by decide)

theorem plain_of_uuid (uuid : RandomUuid) : Plain uuid.text := by
  intro hmem
  rcases uuid.canonical.2 _ hmem with h | ⟨h, -⟩ | h
  · exact absurd h (by decide)
  · exact absurd h (by decide)
  · exact absurd h (by decide)

theorem check_ok {c : Bool} {message : String} : check c message = .ok () ↔ c = true := by
  unfold check
  cases c <;> simp

theorem check_bind_ok {α : Type} {c : Bool} {message : String} {k : Unit → Except Fault α} {a : α} :
    (check c message >>= k) = .ok a ↔ c = true ∧ k () = .ok a := by
  cases c with
  | false => exact ⟨(nomatch ·), fun h => absurd h.1 Bool.false_ne_true⟩
  | true => exact ⟨fun h => ⟨rfl, h⟩, fun h => h.2⟩

theorem validateAuditInput_ok {input : AuditInput ν} (h : validateAuditInput input = .ok ()) :
    (isSafeInt input.occurredAt = true ∧ 0 ≤ input.occurredAt) ∧ validAction input.action = true ∧
    (∀ t ∈ input.actorId, validAuditText t = true) ∧ (∀ t ∈ input.subjectType, validAuditText t = true) ∧
    (∀ t ∈ input.subjectId, validAuditText t = true) ∧ (∀ t ∈ input.requestId, validAuditText t = true) ∧
    (∀ t ∈ input.remoteAddressHash, isDigest t = true) := by
  unfold validateAuditInput at h
  rw [check_bind_ok, check_bind_ok, check_bind_ok, check_bind_ok, check_bind_ok, check_bind_ok, check_ok] at h
  simp only [Bool.and_eq_true, decide_eq_true_eq, Option.all_eq_true] at h
  exact h

/-! ### Its details -/

theorem mem_sortedMembers {α : Type} {m : String × α} {members : List (String × α)} :
    m ∈ sortedMembers members ↔ m ∈ members :=
  List.mem_insertionSort _

theorem mem_propertyOrder {α : Type} {m : String × α} {members : List (String × α)} :
    m ∈ propertyOrder members ↔ m ∈ members := by
  unfold propertyOrder
  rw [List.mem_append, List.mem_insertionSort, List.mem_filter, List.mem_filter, ← and_or_left]
  refine and_iff_left ?_
  cases arrayIndex m.1 <;> simp

/-- The members that are collected are those that were given, each with its value. -/
theorem collectMembers_ok : ∀ {members : List (String × Except Fault (Value ν))} {ms : List (String × Value ν)},
    collectMembers members = .ok ms → members = ms.map fun m => (m.1, .ok m.2)
  | [], ms, h => by
    obtain rfl := Except.ok.inj h
    rfl
  | (key, value) :: rest, ms, h => by
    unfold collectMembers at h
    obtain ⟨_, hkey, h⟩ := except_bind_ok.mp h
    obtain ⟨v, hv, h⟩ := except_bind_ok.mp h
    obtain ⟨vs, hvs, h⟩ := except_bind_ok.mp h
    obtain rfl := Except.ok.inj h
    rw [List.map_cons, ← collectMembers_ok hvs, ← hv]

theorem mem_canonicalizeMembers {depth : Nat} {m : String × Except Fault (Value ν)} :
    ∀ {members : List (String × Unknown ν)}, m ∈ canonicalizeMembers depth members ↔
      ∃ u, (m.1, u) ∈ members ∧ m.2 = canonicalizeAuditValue depth u
  | [] => by
    constructor
    · exact fun h => absurd h List.not_mem_nil
    · rintro ⟨u, hu, -⟩
      exact absurd hu List.not_mem_nil
  | (key, v) :: rest => by
    show m ∈ (key, canonicalizeAuditValue depth v) :: canonicalizeMembers depth rest ↔ _
    rw [List.mem_cons, mem_canonicalizeMembers]
    constructor
    · rintro (rfl | ⟨u, hu, he⟩)
      · exact ⟨v, List.mem_cons_self, rfl⟩
      · exact ⟨u, List.mem_cons_of_mem _ hu, he⟩
    · rintro ⟨u, hu, he⟩
      rcases List.mem_cons.mp hu with hu | hu
      · obtain ⟨h1, rfl⟩ := Prod.mk.inj hu
        exact .inl (Prod.ext h1 he)
      · exact .inr ⟨u, hu, he⟩

/-- The stored details parse to an object whose fingerprint is the one they were given. -/
theorem serializeAuditDetails_fingerprint {details : List (String × Unknown ν)} {fingerprint text : String}
    (h : serializeAuditDetails pf (withFingerprint details fingerprint) = .ok text) :
    (∀ c ∈ text.toList, ¬ c.toNat < 32) ∧
    ∃ value, Json.parse pf.numbers text.toList = some value ∧
      value.member "context_fingerprint" = some (.str fingerprint) := by
  unfold serializeAuditDetails at h
  obtain ⟨canonical, hcanonical, h⟩ := except_bind_ok.mp h
  obtain ⟨_, -, h⟩ := except_bind_ok.mp h
  obtain rfl := Except.ok.inj h
  refine ⟨?_, canonical, ?_, ?_⟩
  · rw [String.toList_ofList]
    exact Json.stringify_printable _ _
  · rw [String.toList_ofList]
    exact Json.parse_stringify _ _
  -- the object has been made of the members, among them the fingerprint
  · obtain ⟨ms, hms, rfl⟩ : ∃ ms, collectMembers (sortedMembers (canonicalizeMembers 1 (withFingerprint details fingerprint))) = .ok ms ∧
        canonical = .obj (ownProperties ms) := by
      have hobj : (collectMembers (sortedMembers (canonicalizeMembers 1 (withFingerprint details fingerprint)))).map
          (fun ms => Value.obj (ownProperties ms)) = .ok canonical := hcanonical
      cases hc : collectMembers (sortedMembers (canonicalizeMembers 1 (withFingerprint details fingerprint))) with
      | error e => rw [hc] at hobj; cases hobj
      | ok ms => rw [hc] at hobj; exact ⟨ms, rfl, (Except.ok.inj hobj).symm⟩
    have hmem : ∀ key v, (key, v) ∈ ms ↔ ∃ u, (key, u) ∈ withFingerprint details fingerprint ∧
        Except.ok v = canonicalizeAuditValue 1 u := by
      intro key v
      rw [← mem_canonicalizeMembers (m := (key, .ok v)), ← mem_sortedMembers (m := (key, Except.ok v)),
        collectMembers_ok hms, List.mem_map]
      constructor
      · exact fun h => ⟨_, h, rfl⟩
      · rintro ⟨m, hm, he⟩
        obtain ⟨h1, h2⟩ := Prod.mk.inj he
        obtain rfl := Except.ok.inj h2
        exact h1 ▸ hm
    refine Json.Value.member_eq_some ?_ ?_
    · refine mem_propertyOrder.mpr (List.mem_filter.mpr ⟨(hmem _ _).mpr ⟨.str fingerprint, ?_, rfl⟩, rfl⟩)
      exact List.mem_append_right _ List.mem_cons_self
    · rintro ⟨key, v⟩ hm hk
      obtain ⟨u, hu, he⟩ := (hmem _ _).mp (List.mem_filter.mp (mem_propertyOrder.mp hm)).1
      rcases List.mem_append.mp hu with hu | hu
      · have := (List.mem_filter.mp hu).2
        simp only [decide_eq_true_eq] at this
        exact absurd hk this
      · obtain ⟨-, rfl⟩ := Prod.mk.inj (List.mem_singleton.mp hu)
        exact Except.ok.inj he

/-! ### Its context -/

theorem sortEntries_eq (members : List (String × Value ν)) :
    sortEntries members = members.map fun m => (m.1, sortKeys m.2) := by
  induction members with
  | nil => rfl
  | cons member rest ih =>
    show (member.1, sortKeys member.2) :: sortEntries rest = _
    rw [ih]
    rfl

/-- The properties of a canonical object are those of the object. -/
theorem sortKeys_member {members : List (String × Value ν)} {key : String} {v : Value ν}
    (hkeys : (members.map (·.1)).Nodup) (hmem : (key, v) ∈ members) :
    (sortKeys (.obj members)).member key = some (sortKeys v) := by
  show (Value.obj (propertyOrder (sortedMembers (sortEntries members)))).member key = some (sortKeys v)
  have hin : ∀ m, m ∈ propertyOrder (sortedMembers (sortEntries members)) ↔ ∃ m0 ∈ members, (m0.1, sortKeys m0.2) = m := by
    intro m
    rw [mem_propertyOrder, mem_sortedMembers, sortEntries_eq, List.mem_map]
  refine Json.Value.member_eq_some ((hin _).mpr ⟨(key, v), hmem, rfl⟩) fun m hm hk => ?_
  obtain ⟨m0, hm0, rfl⟩ := (hin m).mp hm
  have he : m0 = (key, v) := List.inj_on_of_nodup_map hkeys hm0 hmem hk
  rw [he]

theorem sortKeys_nullable (column : Option String) : sortKeys (nullable column : Value ν) = nullable column := by
  cases column <;> rfl

theorem sameText_str (text : String) : sameText (some text) (some (.str text : Value ν)) = true := decide_eq_true rfl

theorem sameText_nullable (column : Option String) : sameText column (some (nullable column : Value ν)) = true := by
  cases column with
  | none => rfl
  | some text => exact sameText_str text

/-- **A context that is stored agrees with the details that carry its fingerprint.** -/
theorem contextAgrees_stored {detailsJson eventId : String} {context : StoredAuditContext ν} {details : Value ν}
    (hdetails : Json.parse pf.numbers detailsJson.toList = some details)
    (hfingerprint : details.member "context_fingerprint" =
      some (.str (contextRow pf eventId context).contextFingerprint)) :
    contextAgrees pf detailsJson (some (contextRow pf eventId context)) = true := by
  have hkeys : ((context.members pf).map (·.1)).Nodup := by
    show ["version", "activity_id", "request_id", "source_address", "user_agent", "site_id", "site_name", "changes"].Nodup
    decide
  have hmember : ∀ {key : String} {v : Value ν}, (key, v) ∈ context.members pf →
      (sortKeys (context.json pf)).member key = some (sortKeys v) := fun h => sortKeys_member hkeys h
  have hversion : (sortKeys (context.json pf)).member "version" = some (sortKeys (.num (pf.ofNat 1))) :=
    hmember (by simp [StoredAuditContext.members])
  have hchanges : (sortKeys (context.json pf)).member "changes" =
      some (sortKeys (.arr (context.changes.map StoredChange.json))) := hmember (by simp [StoredAuditContext.members])
  have hactivity : (sortKeys (context.json pf)).member "activity_id" = some (sortKeys (nullable context.activityId)) :=
    hmember (by simp [StoredAuditContext.members])
  have haddress : (sortKeys (context.json pf)).member "source_address" =
      some (sortKeys (nullable context.sourceAddress)) := hmember (by simp [StoredAuditContext.members])
  have hagent : (sortKeys (context.json pf)).member "user_agent" = some (sortKeys (nullable context.userAgent)) :=
    hmember (by simp [StoredAuditContext.members])
  have hsite : (sortKeys (context.json pf)).member "site_id" = some (sortKeys (nullable context.siteId)) :=
    hmember (by simp [StoredAuditContext.members])
  have hname : (sortKeys (context.json pf)).member "site_name" = some (sortKeys (nullable context.siteName)) :=
    hmember (by simp [StoredAuditContext.members])
  have hjson : Json.parse pf.numbers (contextRow pf eventId context).contextJson.toList = some (sortKeys (context.json pf)) := by
    show Json.parse pf.numbers (String.ofList (Json.stringify pf.numbers (sortKeys (context.json pf)))).toList = _
    rw [String.toList_ofList, Json.parse_stringify]
  have hnum : sortKeys (.num (pf.ofNat 1) : Value ν) = .num (pf.ofNat 1) := rfl
  have harr : sortKeys (.arr (context.changes.map StoredChange.json) : Value ν) =
    .arr (sortItems (context.changes.map StoredChange.json)) := rfl
  unfold contextAgrees
  simp only [hdetails, hjson, hfingerprint, hversion, hchanges, hactivity, haddress, hagent, hsite, hname,
    sortKeys_nullable, hnum, harr]
  simp only [contextRow, sameText_nullable, sameText_str, decide_true, Bool.and_self]

/-! ## The invariant of runs -/

/-- What the tables look like after any sequence of transactions. -/
structure AuditInv (pf : AuditPlatform ν) (db : AuditDb) : Prop where
  chained : Continues pf 0 none db.auditEvents
  anchored : db.auditChainState = some (anchorOf db.auditEvents)
  numbered : db.sqliteSequence = db.auditEvents.length
  checked : ∀ row ∈ db.auditEvents, row.checked pf = true
  clean : ∀ row ∈ db.auditEvents, row.hashInput.Clean
  contexts : UniqueOn (·.eventId) db.auditEventContext
  agrees : ∀ row ∈ db.auditEvents, ∃ c ∈ db.auditEventContext, c.eventId = row.eventId ∧
    contextAgrees pf row.detailsJson (some c) = true
  owned : ∀ c ∈ db.auditEventContext, ∃ row ∈ db.auditEvents, row.eventId = c.eventId

theorem auditInv_empty : AuditInv pf AuditDb.empty where
  chained := trivial
  anchored := rfl
  numbered := rfl
  checked _ h := absurd h List.not_mem_nil
  clean _ h := absurd h List.not_mem_nil
  contexts := uniqueOn_nil _
  agrees _ h := absurd h List.not_mem_nil
  owned _ h := absurd h List.not_mem_nil

/-- The hash of the last event has no separator in it, being a digest. -/
theorem plain_headHash {rows : List AuditEventRow} (h : Continues pf 0 none rows) :
    ∀ text ∈ headHash rows, Plain text := by
  intro text ht
  rcases List.eq_nil_or_concat' rows with rfl | ⟨before, last, rfl⟩
  · cases ht
  · rw [headHash_append] at ht
    obtain rfl := Option.some.inj ht
    rw [(continues_append.mp h).2.eventHash]
    exact plain_of_digest (pf.sha256_digest _)

theorem plain_name (actor : AuditActorType) : Plain actor.name := by
  unfold Plain
  cases actor <;> decide

theorem plain_outcome (outcome : AuditOutcome) : Plain outcome.name := by
  unfold Plain
  cases outcome <;> decide

/-- The fields of an appended row contain no separator. -/
theorem Appended.clean {db db' : AuditDb} {call : AppendCall ν} {row : AuditEventRow} {context : StoredAuditContext ν}
    (h : Appended pf db call row context db') (hdb : Continues pf 0 none db.auditEvents) : row.hashInput.Clean := by
  obtain ⟨-, haction, hactor, htype, hsubject, hrequest, hremote⟩ := validateAuditInput_ok h.valid
  have hdetails := (serializeAuditDetails_fingerprint h.details).1
  have hid : ∀ t ∈ call.requestId, Plain t := by
    intro t ht
    unfold AppendCall.requestId at ht
    rcases Option.or_eq_some_iff.mp ht with ht | ⟨-, ht⟩
    · exact plain_of_text (hrequest t ht)
    · obtain ⟨scope, -, hscope⟩ := Option.bind_eq_some_iff.mp ht
      obtain ⟨text, hbounded⟩ := scope.bounded
      exact plain_of_bounded (hbounded ▸ hscope)
  rw [h.built]
  intro f hf
  simp only [AppendCall.row, AuditEventRow.hashInput, AuditEventHashInput.fields, List.map_cons, List.map_nil,
    List.mem_cons, List.not_mem_nil, or_false] at hf
  rcases hf with rfl | rfl | rfl | rfl | rfl | rfl | rfl | rfl | rfl | rfl | rfl | rfl | rfl
  · decide
  · exact plain_of_uuid call.eventId
  · exact plain_of_intText _
  · exact plain_name _
  · exact plain_getD fun t ht => plain_of_text (hactor t ht)
  · exact plain_of_action haction
  · exact plain_outcome _
  · exact plain_getD fun t ht => plain_of_text (htype t ht)
  · exact plain_getD fun t ht => plain_of_text (hsubject t ht)
  · exact plain_getD hid
  · exact plain_getD fun t ht => plain_of_digest (hremote t ht)
  · exact plain_of_forall hdetails
  · exact plain_getD (plain_headHash hdb)

/-- **An append keeps the invariant.** -/
theorem AuditInv.appended {db db' : AuditDb} {call : AppendCall ν} {row : AuditEventRow}
    {context : StoredAuditContext ν} (hdb : AuditInv pf db) (h : Appended pf db call row context db') : AuditInv pf db' := by
  obtain ⟨m, hevent, hcontext⟩ := h.event
  obtain ⟨old, hold, hm⟩ := hevent.stored
  obtain ⟨-, value, hparse, hfingerprint⟩ := serializeAuditDetails_fingerprint h.details
  obtain ⟨hoccurred, -⟩ := validateAuditInput_ok h.valid
  have hsequence : row.sequence = (db.auditEvents.length : Int) + 1 := by
    rw [h.built, ← hdb.numbered]
    rfl
  have hprevious : row.previousHash = headHash db.auditEvents := by
    rw [h.built]
    rfl
  have hid : row.eventId = call.eventId.text := by
    rw [h.built]
    rfl
  have hrow : ContinuesRow pf (0 + db.auditEvents.length) ((headHash db.auditEvents).or none) row := by
    refine ⟨by rw [hsequence]; omega, ?_, by rw [hprevious, Option.or_none], ?_, ?_⟩
    · have := hevent.bounded
      unfold sqliteMaximumRows at this
      unfold isSafeInt maxSafeInteger
      rw [hsequence]
      exact decide_eq_true (by omega)
    · rw [h.built]
      exact hoccurred
    · rw [h.built]
      rfl
  have hagrees : contextAgrees pf row.detailsJson (some (contextRow pf call.eventId.text context)) = true :=
    contextAgrees_stored hparse hfingerprint
  subst hm
  rw [hcontext.stored]
  have hunique := hcontext.unique
  refine ⟨continues_append.mpr ⟨hdb.chained, hrow⟩, ?_, ?_, ?_, ?_, ?_, ?_, ?_⟩
  · have : old = anchorOf db.auditEvents := Option.some.inj (hold.symm.trans hdb.anchored)
    rw [this]
    show some (AuditChainState.mk _ _ _) = some (anchorOf (db.auditEvents ++ [row]))
    unfold anchorOf
    rw [headSequence_append, headHash_append, List.length_append]
    rfl
  · show row.sequence = ((db.auditEvents ++ [row]).length : Int)
    rw [hsequence, List.length_append]
    rfl
  · exact forall_mem_append_singleton hdb.checked hevent.checked
  · exact forall_mem_append_singleton hdb.clean (h.clean hdb.chained)
  · exact hdb.contexts.append hunique
  · refine forall_mem_append_singleton ?_ ?_
    · intro r hr
      obtain ⟨c, hc, hcr⟩ := hdb.agrees r hr
      exact ⟨c, List.mem_append_left _ hc, hcr⟩
    · exact ⟨_, List.mem_append_right _ List.mem_cons_self, hid.symm, hagrees⟩
  · refine forall_mem_append_singleton ?_ ?_
    · intro c hc
      obtain ⟨r, hr, hrc⟩ := hdb.owned c hc
      exact ⟨r, List.mem_append_left _ hr, hrc⟩
    · exact ⟨row, List.mem_append_right _ List.mem_cons_self, hid⟩

theorem preserves_appendAuditEvent (call : AppendCall ν) : Preserves (AuditInv pf) (appendAuditEvent pf call) := by
  intro db hdb _ db' h
  obtain ⟨row, context, happended⟩ := appendAuditEvent_ok h
  exact hdb.appended happended

/-! ## Runs -/

/-- A transaction: it appends its events in order, and then commits or is rolled back. -/
structure AuditTransaction (ν : Type) where
  calls : List (AppendCall ν)
  rolledBack : Bool

def runTransaction (pf : AuditPlatform ν) (t : AuditTransaction ν) : AuditTx Unit := do
  forEach (appendAuditEvent pf) t.calls
  require (t.rolledBack = false) (.error "rolled back")

/-- The audit tables under any sequence of transactions. -/
def auditSystem (pf : AuditPlatform ν) : Runs.System AuditDb (AuditTransaction ν) where
  init db := db = AuditDb.empty
  step db t db' := db' = committed (runTransaction pf t) db

theorem reachable_auditInv {db : AuditDb} (h : Runs.Reachable (auditSystem pf) db) : AuditInv pf db := by
  refine h.invariant ?_ ?_
  · rintro db rfl
    exact auditInv_empty
  · rintro db t db' hdb rfl
    refine committed_of_preserves ?_ hdb
    exact preserves_bind (preserves_forEach preserves_appendAuditEvent t.calls) fun _ => preserves_require _ _

theorem inspectAuditAnchor_eq_zero {state : Option AuditChainState} {scan : ChainScan} :
    inspectAuditAnchor state scan = 0 ↔ state = some ⟨scan.eventCount, scan.lastSequence, scan.previousHash⟩ := by
  unfold inspectAuditAnchor
  cases state with
  | none => exact ⟨fun h => absurd h Nat.one_ne_zero, fun h => absurd h (by simp)⟩
  | some row =>
    obtain ⟨count, sequence, hash⟩ := row
    simp only [Option.some.injEq, AuditChainState.mk.injEq]
    split
    · exact ⟨fun _ => by assumption, fun _ => rfl⟩
    · exact ⟨fun h => absurd h Nat.one_ne_zero, fun h => absurd h (by assumption)⟩

/-- What an inspection without violations has found. -/
theorem inspectAuditChain_accepts {db : AuditDb} :
    (inspectAuditChain pf db).violations = 0 ↔
      Continues pf 0 none db.auditEvents ∧ db.auditChainState = some (anchorOf db.auditEvents) ∧
      inspectAuditContexts pf db = 0 := by
  obtain ⟨hcount, hprevious, hviolations⟩ := @foldl_scanRow ν pf db.auditEvents ⟨0, 0, 0, none, none⟩
  have hscan : (scanRows pf db.auditEvents).linkViolations + (scanRows pf db.auditEvents).hashViolations = 0 ↔
      Continues pf 0 none db.auditEvents := by
    rw [show scanRows pf db.auditEvents = db.auditEvents.foldl (scanRow pf) ⟨0, 0, 0, none, none⟩ from rfl, hviolations]
    exact and_iff_right rfl
  show (scanRows pf db.auditEvents).linkViolations +
      ((scanRows pf db.auditEvents).hashViolations + inspectAuditContexts pf db) +
      inspectAuditAnchor db.auditChainState (scanRows pf db.auditEvents) = 0 ↔ _
  have hanchor : Continues pf 0 none db.auditEvents →
      (inspectAuditAnchor db.auditChainState (scanRows pf db.auditEvents) = 0 ↔
        db.auditChainState = some (anchorOf db.auditEvents)) := by
    intro h
    have hlast := @foldl_lastSequence ν pf _ ⟨0, 0, 0, none, none⟩ h
    rw [inspectAuditAnchor_eq_zero]
    unfold scanRows anchorOf
    rw [hcount, hprevious, hlast, Option.or_none, Option.or_none, Int.zero_add]
  constructor
  · intro h
    have hchain := hscan.mp (by omega)
    exact ⟨hchain, (hanchor hchain).mp (by omega), by omega⟩
  · rintro ⟨hchain, hstate, hcontexts⟩
    have h1 := hscan.mpr hchain
    have h2 := (hanchor hchain).mpr hstate
    omega

/-- Under the invariant every context agrees with its event. -/
theorem AuditInv.inspectAuditContexts {db : AuditDb} (h : AuditInv pf db) : inspectAuditContexts pf db = 0 := by
  have hchecked : (contextsToCheck pf db).filter (fun p => !contextAgrees pf p.1 p.2) = [] := by
    refine List.filter_eq_nil_iff.mpr fun p hp => ?_
    obtain ⟨row, hrow, hp⟩ := List.mem_flatMap.mp hp
    obtain ⟨c, hc, hid, hagrees⟩ := h.agrees row hrow
    have hin : c ∈ db.auditEventContext.filter fun c => c.eventId = row.eventId :=
      List.mem_filter.mpr ⟨hc, decide_eq_true hid⟩
    split at hp
    · rename_i hnil
      rw [hnil] at hin
      exact absurd hin List.not_mem_nil
    · obtain ⟨c', hc', rfl⟩ := List.mem_map.mp hp
      obtain ⟨hmem', hid'⟩ := List.mem_filter.mp hc'
      have : c' = c := h.contexts.eq hmem' hc ((of_decide_eq_true hid').trans hid.symm)
      simp [this, hagrees]
  have howned : db.auditEventContext.filter (fun c => db.auditEvents.all fun e => e.eventId ≠ c.eventId) = [] := by
    refine List.filter_eq_nil_iff.mpr fun c hc hall => ?_
    obtain ⟨row, hrow, hid⟩ := h.owned c hc
    exact absurd hid (of_decide_eq_true (List.all_eq_true.mp hall row hrow))
  unfold Audit.inspectAuditContexts
  rw [hchecked, howned]
  rfl

theorem AuditInv.accepted {db : AuditDb} (h : AuditInv pf db) : (inspectAuditChain pf db).violations = 0 :=
  inspectAuditChain_accepts.mpr ⟨h.chained, h.anchored, h.inspectAuditContexts⟩

/-- Contents that pass the checks and the inspection under the anchor of a chain are that chain. -/
theorem AuditInv.only {db : AuditDb} (h : AuditInv pf db) {rows : List AuditEventRow}
    {contexts : List AuditEventContextRow} (hrows : AuditEventsAdmissible pf rows)
    (hsha : ∀ row ∈ db.auditEvents, ∀ row' ∈ rows, pf.sha256 row.payload = pf.sha256 row'.payload →
      row.payload = row'.payload)
    (haccepts : (inspectAuditChain pf { db with auditEvents := rows, auditEventContext := contexts }).violations = 0) :
    rows = db.auditEvents := by
  obtain ⟨hchained, hstate, -⟩ := inspectAuditChain_accepts.mp haccepts
  have hanchor : anchorOf db.auditEvents = anchorOf rows := Option.some.inj (h.anchored.symm.trans hstate)
  unfold anchorOf at hanchor
  simp only [AuditChainState.mk.injEq] at hanchor
  obtain ⟨hlen, -, hlast⟩ := hanchor
  exact (h.chained.eq hchained (Int.ofNat_inj.mp hlen) hlast h.clean (fun row hr => AuditEventRow.nullables (h.checked row hr))
    (fun row hr => AuditEventRow.nullables (hrows.checked row hr)) hsha).symm

/-- SHA-256 on the two texts that the event below hashes: its context, and its joined fields. -/
def sampleDigest (text : String) : String :=
  if text.utf8ByteSize = 159 then "c7f15fd19e76e275f6ec43d6282b831ef7a75392c838b48e519199a55cb042c8"
  else if text.utf8ByteSize = 200 then "91596cdfc9a562141a8706b7cf503dd357ed42c015e5d23c4c9a227689794d0e"
  else "e3b0c44298fc1c149afbf4c8996fb92427ae41e4649b934ca495991b7852b855"

def samplePlatform : AuditPlatform Nat where
  sha256 := sampleDigest
  sha256_digest text := by
    unfold sampleDigest
    split
    · decide
    split
    · decide
    · decide
  normalizeIpAddress := some
  publicUrl _ := none
  numbers := Json.decimal
  ofNat := id

def sampleCall : AppendCall Nat where
  input :=
    { occurredAt := 1000, actorType := .ADMIN, actorId := some "admin", action := "admin.login", outcome := .SUCCESS,
      subjectType := none, subjectId := none, requestId := none, remoteAddressHash := none,
      details := [("generation", .num 3)], context := ⟨none, none, none, none, none, none, []⟩ }
  scope := none
  eventId := ⟨"00000000-0000-4000-8000-000000000001", canonical_of_all (by decide +kernel) (by decide +kernel)⟩

def sampleDb : AuditDb := committed (runTransaction samplePlatform ⟨[sampleCall], false⟩) AuditDb.empty

theorem sampleDb_length : sampleDb.auditEvents.length = 1 := by decide +kernel

end PerPay.Audit
