/-
  **What a cursor carries** — every cursor that a page issues is accepted for the same filters and the same page size, and
  brings back the snapshot and the position.

  A cursor is JSON of texts and small numbers, in UTF-8 and in base64 for addresses; each of the three is read back as it
  was written (`Json.parse_stringify`, `Bytes.ofUtf8_utf8`, `Base64Url.decode_encode`).  What is left to show is that the text
  is short enough, and that the numbers pass the checks of the reader.
-/
import PerPay.Audit.Pages
import PerPay.Security.Targets

namespace PerPay.Audit

open Json (Value natText stringify quoted escape escapeChar)

/-! ## Short texts -/

/-- At most `n` characters, all of ASCII. -/
def Short (n : Nat) (cs : List Char) : Prop := (∀ c ∈ cs, c.toNat < 128) ∧ cs.length ≤ n

instance (n : Nat) (cs : List Char) : Decidable (Short n cs) := inferInstanceAs (Decidable (_ ∧ _))

theorem Short.append {m n : Nat} {cs ds : List Char} (h : Short m cs) (h' : Short n ds) : Short (m + n) (cs ++ ds) := by
  refine ⟨fun c hc => ?_, ?_⟩
  · rcases List.mem_append.mp hc with hc | hc
    · exact h.1 c hc
    · exact h'.1 c hc
  · rw [List.length_append]
    exact Nat.add_le_add h.2 h'.2

theorem Short.cons {n : Nat} {c : Char} {cs : List Char} (hc : c.toNat < 128) (h : Short n cs) : Short (n + 1) (c :: cs) := by
  refine ⟨fun d hd => ?_, Nat.succ_le_succ h.2⟩
  rcases List.mem_cons.mp hd with rfl | hd
  · exact hc
  · exact h.1 d hd

theorem short_of_all {n : Nat} {cs : List Char} (h : (cs.all fun c => c.toNat < 128) = true) (hlength : cs.length ≤ n) :
    Short n cs := ⟨fun c hc => of_decide_eq_true (List.all_eq_true.mp h c hc), hlength⟩

theorem Short.mono {m n : Nat} {cs : List Char} (h : Short m cs) (hle : m ≤ n) : Short n cs := ⟨h.1, h.2.trans hle⟩

theorem short_natText {n : Nat} (h : n ≤ maxSafeInteger) : Short 16 (natText n) := by
  refine ⟨fun c hc => ?_, ?_⟩
  · have hdigit := Json.natText_isDigit c hc
    simp only [Char.isDigit, Bool.and_eq_true, decide_eq_true_eq, UInt32.le_iff_toNat_le] at hdigit
    have : c.toNat ≤ 57 := hdigit.2
    omega
  · refine (Nat.length_toDigits_le_iff (by decide) (by decide)).mpr ?_
    unfold maxSafeInteger at h
    omega

/-- Six more characters for each that is escaped. -/
theorem short_quoted {n : Nat} {s : String} (h : ∀ c ∈ s.toList, escapeChar c = [c] ∧ c.toNat < 128) (hlength : s.toList.length ≤ n) :
    Short (n + 2) (quoted s) := by
  have hescape : escape s.toList = s.toList := by
    unfold escape
    rw [List.flatMap_def, List.map_congr_left fun c hc => (h c hc).1, ← List.flatMap_def, List.flatMap_singleton']
  unfold quoted
  rw [hescape]
  refine Short.cons (by decide) (Short.append (n := 1) ⟨fun c hc => (h c hc).2, hlength⟩ ⟨?_, le_refl _⟩)
  intro c hc
  rw [List.mem_singleton.mp hc]
  decide

theorem short_digest {text : String} (h : isDigest text = true) : Short 66 (quoted text) := by
  unfold isDigest at h
  simp only [Bool.and_eq_true, List.all_eq_true, Bool.or_eq_true, decide_eq_true_eq] at h
  refine short_quoted (n := 64) (fun c hc => ?_) h.1.le
  have hrange : 48 ≤ c.toNat ∧ c.toNat ≤ 57 ∨ 97 ≤ c.toNat ∧ c.toNat ≤ 102 := by
    rcases h.2 c hc with hdigit | ⟨hlow, hhigh⟩
    · simp only [Char.isDigit, Bool.and_eq_true, decide_eq_true_eq, UInt32.le_iff_toNat_le] at hdigit
      exact .inl hdigit
    · exact .inr ⟨hlow, hhigh⟩
  refine ⟨?_, by omega⟩
  have hq : c ≠ '"' := by rintro rfl; revert hrange; decide
  have hb : c ≠ '\\' := by rintro rfl; revert hrange; decide
  unfold escapeChar
  rw [if_neg hq, if_neg hb, if_neg (by omega), if_neg (by omega), if_neg (by omega), if_neg (by omega), if_neg (by omega),
    if_neg (by omega)]

theorem size_of_short {n : Nat} {cs : List Char} (h : Short n cs) : (Bytes.utf8 (String.ofList cs)).length ≤ n := by
  rw [Bytes.length_utf8, Security.utf8ByteSize_ofList h.1]
  exact h.2

/-! ## Reading a cursor -/

/-- What the reader of a cursor checks. -/
structure AuditCursor.Valid (cursor : AuditCursor) : Prop where
  core : cursor.snapshot.coreSequence ≤ maxSafeInteger
  activity : cursor.snapshot.activitySequence ≤ maxSafeInteger
  captured : cursor.snapshot.capturedAt ≤ maxDateMilliseconds
  occurred : cursor.position.occurredAt ≤ maxDateMilliseconds
  positive : 1 ≤ cursor.position.sequence
  within : cursor.position.sequence ≤ cursor.snapshot.sequence cursor.position.source

theorem AuditCursor.Valid.sequence_le {cursor : AuditCursor} (h : cursor.Valid) : cursor.position.sequence ≤ maxSafeInteger := by
  have hwithin := h.within
  cases hsource : cursor.position.source with
  | core =>
    rw [hsource] at hwithin
    exact le_trans hwithin h.core
  | activity =>
    rw [hsource] at hwithin
    exact le_trans hwithin h.activity

variable {ν : Type} {pf : AuditPlatform ν}

/-- Integers are written in decimal. -/
def WritesNaturals (pf : AuditPlatform ν) : Prop := ∀ n ≤ maxSafeInteger, pf.numbers.text (pf.ofNat n) = natText n

theorem naturalOf_num (hnumbers : WritesNaturals pf) {n : Nat} (h : n ≤ maxSafeInteger) : naturalOf pf (.num (pf.ofNat n)) = some n := by
  unfold naturalOf
  dsimp only
  rw [hnumbers n h, Json.ofDigitChars_natText]
  have hdigits : (natText n).all Char.isDigit = true := List.all_eq_true.mpr Json.natText_isDigit
  simp [hdigits, h]

theorem sourceOf_name (source : AuditSource) : sourceOf (.str source.name : Value ν) = some source := by
  cases source <;> rfl

theorem naturalOf_le {value : Value ν} {n : Nat} (h : naturalOf pf value = some n) : n ≤ maxSafeInteger := by
  unfold naturalOf at h
  split at h
  · dsimp only at h
    split at h
    · rename_i hcheck
      simp only [Bool.and_eq_true, decide_eq_true_eq] at hcheck
      obtain rfl := Option.some.inj h
      exact hcheck.2
    · exact nomatch h
  · exact nomatch h

theorem readCursor_cursorValue (hnumbers : WritesNaturals pf) {cursor : AuditCursor} (h : cursor.Valid) (filters : AuditFilters)
    (limit : Nat) : readCursor pf filters limit (cursorValue pf cursor filters limit) = some cursor := by
  have hdate : maxDateMilliseconds ≤ maxSafeInteger := by decide
  have hchecks : ¬ (maxDateMilliseconds < cursor.snapshot.capturedAt ∨ maxDateMilliseconds < cursor.position.occurredAt ∨
      cursor.position.sequence < 1 ∨ cursor.snapshot.sequence cursor.position.source < cursor.position.sequence) := by
    have := h.captured
    have := h.occurred
    have := h.positive
    have := h.within
    omega
  unfold readCursor cursorValue
  dsimp only
  rw [if_neg (by simp), naturalOf_num hnumbers h.core, naturalOf_num hnumbers h.activity,
    naturalOf_num hnumbers (h.captured.trans hdate), naturalOf_num hnumbers (h.occurred.trans hdate),
    naturalOf_num hnumbers h.sequence_le, sourceOf_name]
  simp only [Option.bind_eq_bind, Option.bind_some]
  rw [if_neg hchecks]

/-- **What is accepted is valid.** -/
theorem valid_of_readCursor {filters : AuditFilters} {limit : Nat} {parts : Value ν} {cursor : AuditCursor}
    (h : readCursor pf filters limit parts = some cursor) : cursor.Valid := by
  unfold readCursor at h
  split at h
  · split at h
    · exact nomatch h
    · obtain ⟨coreSequence, hcore, h⟩ := Option.bind_eq_some_iff.mp h
      obtain ⟨activitySequence, hactivity, h⟩ := Option.bind_eq_some_iff.mp h
      obtain ⟨capturedAt, hcaptured, h⟩ := Option.bind_eq_some_iff.mp h
      obtain ⟨occurredAt, hoccurred, h⟩ := Option.bind_eq_some_iff.mp h
      obtain ⟨sequence, hsequence, h⟩ := Option.bind_eq_some_iff.mp h
      obtain ⟨source, hsource, h⟩ := Option.bind_eq_some_iff.mp h
      dsimp only at h
      split at h
      · exact nomatch h
      · rename_i hchecks
        obtain rfl := Option.some.inj h
        exact ⟨naturalOf_le hcore, naturalOf_le hactivity, by dsimp only; omega, by dsimp only; omega, by dsimp only; omega,
          by dsimp only; omega⟩
  · exact nomatch h

theorem valid_of_decodeCursor {value : String} {filters : AuditFilters} {limit : Nat} {cursor : AuditCursor}
    (h : decodeCursor pf value filters limit = .ok cursor) : cursor.Valid := by
  unfold decodeCursor at h
  dsimp only at h
  split at h
  · split at h
    · rename_i hread
      obtain rfl := Except.ok.inj h
      obtain ⟨parts, -, hparts⟩ := Option.bind_eq_some_iff.mp hread
      exact valid_of_readCursor hparts
    · exact nomatch h
  · exact nomatch h

theorem short_item {m n : Nat} {value : Value ν} {values : List (Value ν)} (h : Short m (stringify pf.numbers value))
    (h' : Short n (Json.moreItems pf.numbers values)) : Short (m + n + 1) (Json.moreItems pf.numbers (value :: values)) :=
  (h.append h').cons (by decide)

/-- The text of a cursor is short. -/
theorem short_cursorValue (hnumbers : WritesNaturals pf) {cursor : AuditCursor} (h : cursor.Valid) (filters : AuditFilters)
    (limit : Nat) : Short 300 (stringify pf.numbers (cursorValue pf cursor filters limit)) := by
  have hdate : maxDateMilliseconds ≤ maxSafeInteger := by decide
  have hnum : ∀ n ≤ maxSafeInteger, Short 16 (stringify pf.numbers (.num (pf.ofNat n))) := by
    intro n hn
    show Short 16 (pf.numbers.text (pf.ofNat n))
    rw [hnumbers n hn]
    exact short_natText hn
  have hsource : Short 10 (stringify pf.numbers (.str cursor.position.source.name : Value ν)) := by
    show Short 10 (quoted cursor.position.source.name)
    cases cursor.position.source <;> exact short_of_all (by decide) (by decide)
  have hhead : Short 17 (quoted cursorPrefix) := short_of_all (by decide) (by decide)
  have hend : Short 1 (Json.moreItems pf.numbers ([] : List (Value ν))) := short_of_all rfl (le_refl _)
  have hfingerprint : Short 66 (stringify pf.numbers (.str (queryFingerprint pf filters limit))) := by
    show Short 66 (quoted (queryFingerprint pf filters limit))
    exact short_digest (pf.sha256_digest _)
  have hitems := short_item hfingerprint
    (short_item (hnum _ h.core) (short_item (hnum _ h.activity) (short_item (hnum _ (h.captured.trans hdate))
      (short_item (hnum _ (h.occurred.trans hdate)) (short_item hsource (short_item (hnum _ h.sequence_le) hend))))))
  exact ((hhead.append hitems).cons (by decide)).mono (by omega)

/-- **A cursor brings back what it was made of.** -/
theorem decodeCursor_encodeCursor (hnumbers : WritesNaturals pf) {cursor : AuditCursor} (h : cursor.Valid)
    (filters : AuditFilters) (limit : Nat) :
    decodeCursor pf (encodeCursor pf cursor filters limit) filters limit = .ok cursor := by
  have hhead : ∃ cs, stringify pf.numbers (cursorValue pf cursor filters limit) = '[' :: cs := ⟨_, rfl⟩
  obtain ⟨cs, hcs⟩ := hhead
  have hbytes : Bytes.utf8 (String.ofList (stringify pf.numbers (cursorValue pf cursor filters limit))) ≠ [] := by
    rw [Ne, Bytes.utf8_eq_nil, hcs]
    intro heq
    have := congrArg String.toList heq
    rw [String.toList_ofList] at this
    exact nomatch this
  have hlength := Base64Url.length_le (Bytes.utf8 (String.ofList (stringify pf.numbers (cursorValue pf cursor filters limit))))
  have hsize := size_of_short (short_cursorValue hnumbers h filters limit)
  have hdecoded : decodeUtf8 (Bytes.utf8 (String.ofList (stringify pf.numbers (cursorValue pf cursor filters limit)))) =
      some (String.ofList (stringify pf.numbers (cursorValue pf cursor filters limit))) := by
    unfold decodeUtf8
    rw [Bytes.ofUtf8_utf8, Option.map_some, String.toList_ofList, hcs]
    rfl
  unfold decodeCursor encodeCursor
  simp only [String.toList_ofList, Base64Url.decode_encode]
  rw [if_pos ⟨Base64Url.encode_ne_nil hbytes, by omega, List.all_eq_true.mpr fun c hc => Base64Url.isUrlChar_encode hc, trivial⟩,
    hdecoded, Option.bind_some, String.toList_ofList, Json.parse_stringify, Option.bind_some,
    readCursor_cursorValue hnumbers h]

/-- **Cursors in links.**  What any text is read as is a valid cursor, every valid cursor is what its own text is read as,
    and no two have one text. -/
theorem audit_cursor_round_trip (hnumbers : WritesNaturals pf) (filters : AuditFilters) (limit : Nat) (cursor : AuditCursor) :
    (cursor.Valid ↔ ∃ value, decodeCursor pf value filters limit = .ok cursor) ∧
    (cursor.Valid → decodeCursor pf (encodeCursor pf cursor filters limit) filters limit = .ok cursor ∧
      ∀ cursor' : AuditCursor, cursor'.Valid → encodeCursor pf cursor' filters limit = encodeCursor pf cursor filters limit →
        cursor' = cursor) := by
  have hread : cursor.Valid → decodeCursor pf (encodeCursor pf cursor filters limit) filters limit = .ok cursor :=
    fun h => decodeCursor_encodeCursor hnumbers h filters limit
  refine ⟨⟨fun h => ⟨_, hread h⟩, fun ⟨_, hvalue⟩ => valid_of_decodeCursor hvalue⟩, fun h => ⟨hread h, ?_⟩⟩
  intro cursor' h' hsame
  have hread' := decodeCursor_encodeCursor hnumbers h' filters limit
  rw [hsame, hread h] at hread'
  exact (Except.ok.inj hread').symm

/-- The second row of three, at the time of the snapshot. -/
theorem audit_cursor_round_trip_second :
    decodeCursor samplePlatform
        (encodeCursor samplePlatform ⟨⟨3, 0, 1000⟩, ⟨1000, .core, 2⟩⟩ ⟨none, none, none, none, none, none, none, none, none, none, rfl⟩ 20)
        ⟨none, none, none, none, none, none, none, none, none, none, rfl⟩ 20 =
      .ok ⟨⟨3, 0, 1000⟩, ⟨1000, .core, 2⟩⟩ := by
  have hvalid : AuditCursor.Valid ⟨⟨3, 0, 1000⟩, ⟨1000, .core, 2⟩⟩ :=
    ⟨by decide, by decide, by decide, by decide, by decide, by decide⟩
  have hnumbers : WritesNaturals samplePlatform := fun _ _ => rfl
  exact ((audit_cursor_round_trip hnumbers _ 20 _).2 hvalid).1

end PerPay.Audit
