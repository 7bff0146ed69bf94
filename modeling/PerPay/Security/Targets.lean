/-
  **Canonical request targets.**

  A target is a path, or a path and a query.  `canonicalizeApiRequestTarget` succeeds exactly on the readings
  of at most 8192 bytes, and its result is the encoding of what was read.  The encoding is never longer than
  the target, so it is accepted itself and unchanged; and it is the same for two targets exactly when they
  decode to the same segments and the same set of pairs.
-/
import PerPay.Security.Queries

namespace PerPay.Security

open Bytes Checks
open Joined (cutAt cutAt_of_not_mem cutAt_append eq_of_cutAt)

section Readings

variable {normalizeNFC : String → String}

/-! ## Targets -/

/-- The raw target stands for the decoded segments and, with a query, for the decoded pairs. -/
inductive TargetReading (normalizeNFC : String → String) :
    List Char → List String → Option (List (String × String)) → Prop
  | path {rawPath : List Char} {segments : List String} (hpath : PathReading normalizeNFC rawPath segments) :
      TargetReading normalizeNFC rawPath segments none
  | query {rawPath rawQuery : List Char} {segments : List String} {pairs : List (String × String)}
      (hpath : PathReading normalizeNFC rawPath segments) (hquery : QueryReading normalizeNFC rawQuery pairs) :
      TargetReading normalizeNFC (rawPath ++ '?' :: rawQuery) segments (some pairs)

def encodeTarget (segments : List String) : Option (List (String × String)) → List Char
  | none => encodePath segments
  | some pairs => encodePath segments ++ '?' :: encodeQuery pairs

theorem PathReading.starts {raw : List Char} {segments : List String} (h : PathReading normalizeNFC raw segments) :
    ∃ rest, raw = '/' :: rest ∧ ¬ ['/'].isPrefixOf rest = true := by
  cases h with
  | root => exact ⟨[], rfl, by decide⟩
  | @segments raws _ hne hread =>
    refine ⟨_, rfl, ?_⟩
    match raws, hne, hread with
    | raw :: raws, _, hread =>
      have hraw := forall₂_left (fun _ _ h => And.intro h.ne_nil h.no_slash) hread raw List.mem_cons_self
      obtain ⟨c, cs, rfl⟩ := List.exists_cons_of_ne_nil hraw.1
      have hc : ¬ '/' = c := fun heq => hraw.2 (heq ▸ List.mem_cons_self)
      cases raws with
      | nil => simpa using hc
      | cons raw' raws => simpa [List.intercalate_cons_cons] using hc

theorem PathReading.no_question {raw : List Char} {segments : List String} (h : PathReading normalizeNFC raw segments) :
    '?' ∉ raw := by
  intro hmem
  rcases h.characters '?' hmem with heq | hc
  · exact absurd heq (by decide)
  · exact absurd hc (by decide)

theorem TargetReading.characters {raw : List Char} {segments : List String} {query : Option (List (String × String))}
    (h : TargetReading normalizeNFC raw segments query) :
    ∀ c ∈ raw, c = '/' ∨ c = '?' ∨ pathSegmentCharacter c = true := by
  have hofPath : ∀ {raw}, PathReading normalizeNFC raw segments → ∀ c ∈ raw,
      c = '/' ∨ c = '?' ∨ pathSegmentCharacter c = true :=
    fun hpath c hc => (hpath.characters c hc).imp_right .inr
  cases h with
  | path hpath => exact hofPath hpath
  | query hpath hquery =>
    intro c hc
    rcases List.mem_append.mp hc with hc | hc
    · exact hofPath hpath c hc
    rcases List.mem_cons.mp hc with rfl | hc
    · exact .inr (.inl rfl)
    · exact .inr (.inr (hquery.characters c hc))

theorem TargetReading.ascii {raw : List Char} {segments : List String} {query : Option (List (String × String))}
    (h : TargetReading normalizeNFC raw segments query) : ∀ c ∈ raw, c.toNat < 128 ∧ c ≠ '#' := by
  intro c hc
  rcases h.characters c hc with rfl | rfl | hc
  · exact ⟨by decide, by decide⟩
  · exact ⟨by decide, by decide⟩
  · refine ⟨pathSegmentCharacter_ascii hc, ?_⟩
    rintro rfl
    exact absurd hc (by decide)

theorem TargetReading.starts {raw : List Char} {segments : List String} {query : Option (List (String × String))}
    (h : TargetReading normalizeNFC raw segments query) :
    ∃ rest, raw = '/' :: rest ∧ ¬ ['/'].isPrefixOf rest = true := by
  cases h with
  | path hpath => exact hpath.starts
  | query hpath hquery =>
    obtain ⟨rest, rfl, hrest⟩ := hpath.starts
    refine ⟨rest ++ '?' :: _, rfl, ?_⟩
    cases rest with
    | nil => simp
    | cons c cs => simpa using hrest

/-- **The canonical target stands for the same segments and, in the order of their encodings, the same
    pairs.** -/
theorem TargetReading.encode {raw : List Char} {segments : List String} {query : Option (List (String × String))}
    (h : TargetReading normalizeNFC raw segments query) :
    TargetReading normalizeNFC (encodeTarget segments query) segments (query.map sortDecoded) := by
  cases h with
  | path hpath => exact .path hpath.encode
  | query hpath hquery => exact .query hpath.encode hquery.encode

theorem TargetReading.length_encode_le {raw : List Char} {segments : List String}
    {query : Option (List (String × String))} (h : TargetReading normalizeNFC raw segments query) :
    (encodeTarget segments query).length ≤ raw.length := by
  cases h with
  | path hpath => exact hpath.length_encode_le
  | query hpath hquery =>
    have hp := hpath.length_encode_le
    have hq := hquery.length_encode_le
    simp only [encodeTarget, List.length_append, List.length_cons]
    omega

/-- Encoding again changes nothing: the pairs are sorted. -/
theorem encodeTarget_sorted (segments : List String) (query : Option (List (String × String))) :
    encodeTarget segments (query.map sortDecoded) = encodeTarget segments query := by
  cases query with
  | none => rfl
  | some pairs =>
    show encodePath segments ++ '?' :: encodeQuery (sortDecoded pairs) = _
    rw [encodeQuery_of_perm (sortDecoded_perm pairs)]
    rfl

theorem canonicalizeOriginForm_ok {raw canonical : List Char} (hstart : ['/'].isPrefixOf raw = true) :
    canonicalizeOriginForm normalizeNFC (cutAt '?' raw) = .ok canonical ↔
      ∃ segments query, TargetReading normalizeNFC raw segments query ∧ encodeTarget segments query = canonical := by
  have hpathStart : ∀ {before : List Char} {after : Option (List Char)}, cutAt '?' raw = (before, after) →
      ∃ rest, before = '/' :: rest := by
    intro before after hcut
    match raw, hstart with
    | c :: raw, hstart =>
      have hc : '/' = c := by simpa using hstart
      subst hc
      rw [cutAt, if_neg (by decide)] at hcut
      exact ⟨_, (Prod.mk.inj hcut).1.symm⟩
  constructor
  · intro h
    rcases hcut : cutAt '?' raw with ⟨rawPath, _ | rawQuery⟩
    · obtain ⟨-, hraw⟩ := eq_of_cutAt hcut
      dsimp only at hraw
      subst hraw
      obtain ⟨rest, rfl⟩ := hpathStart hcut
      rw [hcut] at h
      obtain ⟨segments, hpath, hcanonical⟩ := canonicalizePath_ok.mp h
      exact ⟨segments, none, .path hpath, hcanonical⟩
    · obtain ⟨-, hraw⟩ := eq_of_cutAt hcut
      dsimp only at hraw
      obtain ⟨rest, rfl⟩ := hpathStart hcut
      rw [hcut] at h
      unfold canonicalizeOriginForm at h
      rw [bind_ok] at h
      obtain ⟨canonicalPath, hpathOk, h⟩ := h
      rw [refuse_bind_ok, bind_ok] at h
      obtain ⟨-, canonicalQuery, hqueryOk, hcanonical⟩ := h
      obtain ⟨segments, hpath, rfl⟩ := canonicalizePath_ok.mp hpathOk
      obtain ⟨pairs, hquery, rfl⟩ := canonicalizeQuery_ok.mp hqueryOk
      subst hraw
      exact ⟨segments, some pairs, .query hpath hquery, pure_ok.mp hcanonical⟩
  · rintro ⟨segments, query, hread, rfl⟩
    cases hread with
    | path hpath =>
      obtain ⟨rest, rfl, -⟩ := hpath.starts
      rw [cutAt_of_not_mem hpath.no_question]
      exact canonicalizePath_ok.mpr ⟨segments, hpath, rfl⟩
    | query hpath hquery =>
      have hquestion := hpath.no_question
      obtain ⟨rest, rfl, -⟩ := hpath.starts
      rw [cutAt_append hquestion]
      unfold canonicalizeOriginForm
      rw [bind_ok]
      refine ⟨_, canonicalizePath_ok.mpr ⟨segments, hpath, rfl⟩, ?_⟩
      rw [refuse_bind_ok, bind_ok]
      exact ⟨List.isEmpty_eq_false_iff.mpr hquery.ne_nil, _, canonicalizeQuery_ok.mpr ⟨_, hquery, rfl⟩, rfl⟩

theorem utf8ByteSize_ofList {cs : List Char} (h : ∀ c ∈ cs, c.toNat < 128) :
    (String.ofList cs).utf8ByteSize = cs.length := by
  induction cs with
  | nil => rfl
  | cons c cs ih =>
    have hc : c.utf8Size = 1 := Char.utf8Size_eq_one_iff.mpr (by
      have := h c List.mem_cons_self
      rw [UInt32.le_iff_toNat_le]
      show c.toNat ≤ 127
      omega)
    have ih := ih fun d hd => h d (List.mem_cons_of_mem _ hd)
    rw [String.ofList_cons, String.utf8ByteSize_append, ih, String.utf8ByteSize_singleton, hc, List.length_cons]
    omega

/-- `canonicalizeApiRequestTarget` succeeds on the readings of at most 8192 bytes. -/
theorem canonicalizeApiRequestTarget_ok {target canonical : String} :
    canonicalizeApiRequestTarget normalizeNFC target = .ok canonical ↔
      target.utf8ByteSize ≤ maxTargetBytes ∧
      ∃ segments query, TargetReading normalizeNFC target.toList segments query ∧
        String.ofList (encodeTarget segments query) = canonical := by
  unfold canonicalizeApiRequestTarget
  simp only [refuse_bind_ok, decide_eq_false_iff_not, not_lt, gt_iff_lt]
  constructor
  · rintro ⟨-, hsize, hstart, -, h⟩
    have hstart := (Bool.or_eq_false_iff.mp hstart).1
    rw [Bool.not_eq_false'] at hstart
    obtain ⟨cs, hcs, hcanonical⟩ := bind_ok.mp h
    obtain ⟨segments, query, hread, rfl⟩ := (canonicalizeOriginForm_ok hstart).mp hcs
    exact ⟨hsize, segments, query, hread, pure_ok.mp hcanonical⟩
  · rintro ⟨hsize, segments, query, hread, hcanonical⟩
    obtain ⟨rest, htarget, hslash⟩ := hread.starts
    have hstart : ['/'].isPrefixOf target.toList = true := by
      rw [htarget]
      rfl
    refine ⟨?_, hsize, ?_, ?_, ?_⟩
    · rintro rfl
      cases htarget
    · rw [hstart, htarget]
      exact Bool.eq_false_iff.mpr hslash
    · rw [Bool.or_eq_false_iff, Bool.not_eq_false', List.all_eq_true]
      refine ⟨?_, fun c hc => decide_eq_true (hread.ascii c hc).1⟩
      exact Bool.eq_false_iff.mpr fun hmem => (hread.ascii '#' (List.contains_iff_mem.mp hmem)).2 rfl
    · exact bind_ok.mpr ⟨_, (canonicalizeOriginForm_ok hstart).mpr ⟨segments, query, hread, rfl⟩, pure_ok.mpr hcanonical⟩

/-- **Canonical targets are canonical**: the result is accepted and unchanged. -/
theorem canonicalizeApiRequestTarget_idempotent {target canonical : String}
    (h : canonicalizeApiRequestTarget normalizeNFC target = .ok canonical) :
    canonicalizeApiRequestTarget normalizeNFC canonical = .ok canonical := by
  obtain ⟨hsize, segments, query, hread, rfl⟩ := canonicalizeApiRequestTarget_ok.mp h
  have hencode := hread.encode
  have hlength := hread.length_encode_le
  have hraw : target.utf8ByteSize = target.toList.length := by
    rw [← utf8ByteSize_ofList fun c hc => (hread.ascii c hc).1, String.ofList_toList]
  refine canonicalizeApiRequestTarget_ok.mpr ⟨?_, segments, query.map sortDecoded, ?_, ?_⟩
  · rw [utf8ByteSize_ofList fun c hc => (hencode.ascii c hc).1]
    omega
  · rwa [String.toList_ofList]
  · rw [encodeTarget_sorted]

/-! ## Decoded targets -/

/-- The decoded segments and query pairs of a target. -/
def decodeTarget (target : String) : Option (List String × List (String × String)) :=
  match cutAt '?' target.toList with
  | (rawPath, none) => (decodePath rawPath).map (·, [])
  | (rawPath, some rawQuery) => do
    let segments ← decodePath rawPath
    let pairs ← decodeQuery rawQuery
    pure (segments, pairs)

/-- The targets decode to the same list of segments and the same set of pairs. -/
def SameTarget (target target' : String) : Prop :=
  ∃ segments pairs pairs', decodeTarget target = some (segments, pairs) ∧
    decodeTarget target' = some (segments, pairs') ∧ ∀ p, p ∈ pairs ↔ p ∈ pairs'

theorem TargetReading.decode_eq {target : String} {segments : List String} {query : Option (List (String × String))}
    (h : TargetReading normalizeNFC target.toList segments query) :
    decodeTarget target = some (segments, query.getD []) := by
  unfold decodeTarget
  generalize target.toList = raw at h
  cases h with
  | path hpath =>
    rw [cutAt_of_not_mem hpath.no_question]
    simp only [hpath.decode_eq, Option.map_some, Option.getD_none]
  | query hpath hquery =>
    rw [cutAt_append hpath.no_question]
    simp only [hpath.decode_eq, hquery.decode_eq, Option.bind_eq_bind, Option.bind_some, Option.getD_some]
    rfl

theorem mem_sortDecoded {query : Option (List (String × String))} {p : String × String} :
    p ∈ (query.map sortDecoded).getD [] ↔ p ∈ query.getD [] := by
  cases query with
  | none => exact Iff.rfl
  | some pairs => exact (sortDecoded_perm pairs).mem_iff

theorem QueryReading.decoded_ne_nil {rawQuery : List Char} {decoded : List (String × String)}
    (h : QueryReading normalizeNFC rawQuery decoded) : decoded ≠ [] := by
  cases h with
  | mk hne hcount hread hnames =>
    rintro rfl
    exact hne (List.forall₂_nil_right_iff.mp hread)

/-- The same segments and pairs are written in the same way; a query has pairs, so none is not the empty
    set of them. -/
theorem encodeTarget_congr {raw raw' : List Char} {segments : List String}
    {query query' : Option (List (String × String))} (h : TargetReading normalizeNFC raw segments query)
    (h' : TargetReading normalizeNFC raw' segments query') (hset : ∀ p, p ∈ query.getD [] ↔ p ∈ query'.getD []) :
    encodeTarget segments query = encodeTarget segments query' := by
  cases h with
  | path hpath =>
    cases h' with
    | path hpath' => rfl
    | query hpath' hquery' =>
      obtain ⟨p, hp⟩ := List.exists_mem_of_ne_nil _ hquery'.decoded_ne_nil
      exact absurd ((hset p).mpr hp) List.not_mem_nil
  | query hpath hquery =>
    cases h' with
    | path hpath' =>
      obtain ⟨p, hp⟩ := List.exists_mem_of_ne_nil _ hquery.decoded_ne_nil
      exact absurd ((hset p).mp hp) List.not_mem_nil
    | query hpath' hquery' =>
      show encodePath segments ++ '?' :: encodeQuery _ = encodePath segments ++ '?' :: encodeQuery _
      rw [(hquery.encode_eq_iff hquery').mpr hset]

/-- **Canonical targets are equal exactly when the decoded targets are the same.** -/
theorem canonicalTarget_eq_iff {target target' canonical canonical' : String}
    (h : canonicalizeApiRequestTarget normalizeNFC target = .ok canonical)
    (h' : canonicalizeApiRequestTarget normalizeNFC target' = .ok canonical') :
    canonical = canonical' ↔ SameTarget target target' := by
  obtain ⟨-, segments, query, hread, rfl⟩ := canonicalizeApiRequestTarget_ok.mp h
  obtain ⟨-, segments', query', hread', rfl⟩ := canonicalizeApiRequestTarget_ok.mp h'
  constructor
  · intro heq
    have hencode := hread.encode
    have hencode' := hread'.encode
    rw [← String.toList_ofList (l := encodeTarget segments query)] at hencode
    rw [← String.toList_ofList (l := encodeTarget segments' query'), ← heq] at hencode'
    have hboth := hencode.decode_eq
    rw [hencode'.decode_eq] at hboth
    obtain ⟨hsegments, hpairs⟩ := Prod.mk.inj (Option.some.inj hboth)
    subst hsegments
    refine ⟨segments', query.getD [], query'.getD [], hread.decode_eq, hread'.decode_eq, fun p => ?_⟩
    rw [← mem_sortDecoded, ← hpairs, mem_sortDecoded]
  · rintro ⟨ds, ps, qs, hd, hd', hset⟩
    rw [hread.decode_eq] at hd
    rw [hread'.decode_eq] at hd'
    obtain ⟨rfl, rfl⟩ := Prod.mk.inj (Option.some.inj hd)
    obtain ⟨rfl, rfl⟩ := Prod.mk.inj (Option.some.inj hd')
    rw [encodeTarget_congr hread hread' hset]

end Readings

end PerPay.Security
