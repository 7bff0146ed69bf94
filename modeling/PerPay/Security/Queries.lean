/-
  **Canonical queries.**

  A `PairReading` and a `QueryReading` say which raw text stands for which decoded pairs.  The canonical
  query writes the pairs in the order of their encodings, so it stands for the same pairs in that order, and
  two of them are equal exactly when the pairs are the same set: names differ, so a set has one list in
  order.
-/
import PerPay.Security.Paths

namespace PerPay.Security

open Bytes Checks
open Joined (cutAt cutAt_append eq_of_cutAt)

section Readings

variable {normalizeNFC : String → String}

/-! ## Query pairs -/

/-- The raw pair stands for the decoded name and value. -/
inductive PairReading (normalizeNFC : String → String) : List Char → String × String → Prop
  | mk {rawName rawValue : List Char} {name value : String} (hne : rawName ≠ [])
      (nameCharacters : queryComponentPattern rawName = true) (valueCharacters : queryComponentPattern rawValue = true)
      (nameComponent : Component normalizeNFC rawName name) (valueComponent : Component normalizeNFC rawValue value) :
      PairReading normalizeNFC (rawName ++ '=' :: rawValue) (name, value)

def encodePair (decoded : String × String) : List Char × List Char :=
  (percentEncode decoded.1 unreservedBytes, percentEncode decoded.2 unreservedBytes)

theorem encodePair_injective {p q : String × String} (h : encodePair p = encodePair q) : p = q := by
  obtain ⟨hname, hvalue⟩ := Prod.mk.inj h
  exact Prod.ext (percentEncode_injective unreservedBytes_literal hname)
    (percentEncode_injective unreservedBytes_literal hvalue)

theorem queryComponentPattern_encode (d : String) : queryComponentPattern (percentEncode d unreservedBytes) = true :=
  List.all_eq_true.mpr (queryComponentCharacter_encode _)

/-- A query component holds no delimiter. -/
theorem not_mem_of_pattern {raw : List Char} {c : Char} (h : queryComponentPattern raw = true)
    (hc : queryComponentCharacter c = false) : c ∉ raw :=
  fun hmem => Bool.false_ne_true (hc.symm.trans (List.all_eq_true.mp h c hmem))

theorem separatePair_eq_some {raw rawName rawValue : List Char} (hname : '=' ∉ rawName) (hvalue : '=' ∉ rawValue)
    (hne : rawName ≠ []) (hraw : raw = rawName ++ '=' :: rawValue) : separatePair raw = some (rawName, rawValue) := by
  subst hraw
  unfold separatePair
  rw [cutAt_append hname]
  have hcheck : (rawName.isEmpty || rawValue.contains '=') = false := by
    rw [Bool.or_eq_false_iff, List.isEmpty_eq_false_iff]
    exact ⟨hne, Bool.eq_false_iff.mpr fun hmem => hvalue (List.contains_iff_mem.mp hmem)⟩
  simp only [hcheck, Bool.false_eq_true, if_false]

theorem of_separatePair {raw rawName rawValue : List Char} (h : separatePair raw = some (rawName, rawValue)) :
    raw = rawName ++ '=' :: rawValue ∧ rawName ≠ [] := by
  unfold separatePair at h
  split at h
  next => cases h
  next hcut =>
    split at h
    next => cases h
    next hcheck =>
      obtain ⟨rfl, rfl⟩ := Prod.mk.inj (Option.some.inj h)
      refine ⟨(eq_of_cutAt hcut).2, ?_⟩
      rintro rfl
      exact hcheck rfl

theorem canonicalizePair_ok {raw : List Char} {canonical : List Char × List Char} :
    canonicalizePair normalizeNFC raw = .ok canonical ↔
      ∃ decoded, PairReading normalizeNFC raw decoded ∧ encodePair decoded = canonical := by
  unfold canonicalizePair
  simp only [required_bind_ok, refuse_bind_ok, decodePercentEncoded_bind_ok, pure_ok, Bool.or_eq_false_iff,
    Bool.not_eq_false']
  constructor
  · rintro ⟨⟨rawName, rawValue⟩, hseparate, ⟨hname, hvalue⟩, name, hcname, value, hcvalue, hcanonical⟩
    obtain ⟨rfl, hne⟩ := of_separatePair hseparate
    exact ⟨(name, value), .mk hne hname hvalue hcname hcvalue, hcanonical⟩
  · rintro ⟨decoded, hread, hcanonical⟩
    cases hread with
    | @mk rawName rawValue name value hne hname hvalue hcname hcvalue =>
      refine ⟨(rawName, rawValue), ?_, ⟨hname, hvalue⟩, name, hcname, value, hcvalue, hcanonical⟩
      exact separatePair_eq_some (not_mem_of_pattern hname rfl) (not_mem_of_pattern hvalue rfl) hne rfl

/-- **The canonical pair stands for the same decoded pair.** -/
theorem PairReading.encode {raw : List Char} {decoded : String × String} (h : PairReading normalizeNFC raw decoded) :
    PairReading normalizeNFC (writePair (encodePair decoded)) decoded := by
  cases h with
  | mk hne hname hvalue hcname hcvalue =>
    exact .mk (hcname.encode_ne_nil hne _) (queryComponentPattern_encode _) (queryComponentPattern_encode _)
      (hcname.encode unreservedBytes_literal) (hcvalue.encode unreservedBytes_literal)

/-- The decoded name and value of a raw pair. -/
def decodePair (rawPair : List Char) : Option (String × String) :=
  match cutAt '=' rawPair with
  | (rawName, some rawValue) => do
    let name ← decodeURIComponent rawName
    let value ← decodeURIComponent rawValue
    pure (name, value)
  | (_, none) => none

theorem PairReading.decode_eq {raw : List Char} {decoded : String × String} (h : PairReading normalizeNFC raw decoded) :
    decodePair raw = some decoded := by
  cases h with
  | mk hne hname hvalue hcname hcvalue =>
    unfold decodePair
    rw [cutAt_append (not_mem_of_pattern hname rfl)]
    simp only [decodeURIComponent_eq_some.mpr hcname.reads, decodeURIComponent_eq_some.mpr hcvalue.reads,
      Option.bind_eq_bind, Option.bind_some]
    rfl

theorem PairReading.characters {raw : List Char} {decoded : String × String} (h : PairReading normalizeNFC raw decoded) :
    ∀ c ∈ raw, c = '=' ∨ queryComponentCharacter c = true := by
  cases h with
  | mk hne hname hvalue hcname hcvalue =>
    intro c hc
    rcases List.mem_append.mp hc with hc | hc
    · exact .inr (List.all_eq_true.mp hname c hc)
    rcases List.mem_cons.mp hc with rfl | hc
    · exact .inl rfl
    · exact .inr (List.all_eq_true.mp hvalue c hc)

theorem PairReading.no_ampersand {raw : List Char} {decoded : String × String}
    (h : PairReading normalizeNFC raw decoded) : '&' ∉ raw := by
  intro hmem
  rcases h.characters '&' hmem with heq | hc
  · exact absurd heq (by decide)
  · exact absurd hc (by decide)

theorem PairReading.ne_nil {raw : List Char} {decoded : String × String} (h : PairReading normalizeNFC raw decoded) :
    raw ≠ [] := by
  cases h with
  | mk hne hname hvalue hcname hcvalue => simp

theorem Component.length_query_le {raw : List Char} {d : String} (h : Component normalizeNFC raw d)
    (hpattern : queryComponentPattern raw = true) : (percentEncode d unreservedBytes).length ≤ raw.length := by
  refine h.reads.length_encode_le fun c hc hne => ?_
  have hcharacter := List.all_eq_true.mp hpattern c hc
  exact unreservedBytes_of_character (pathSegmentCharacter_ascii (pathSegmentCharacter_of_query hcharacter)) hcharacter hne

theorem PairReading.length_encode_le {raw : List Char} {decoded : String × String}
    (h : PairReading normalizeNFC raw decoded) : (writePair (encodePair decoded)).length ≤ raw.length := by
  cases h with
  | mk hne hname hvalue hcname hcvalue =>
    have hn := hcname.length_query_le hname
    have hv := hcvalue.length_query_le hvalue
    simp only [writePair, encodePair, List.length_append, List.length_cons]
    omega

/-! ## Queries -/

/-- The comparison is the lexicographic order of names and values. -/
theorem pairLE_iff {left right : List Char × List Char} : pairLE left right = true ↔ toLex left ≤ toLex right := by
  rw [Prod.Lex.toLex_le_toLex]
  unfold pairLE
  by_cases heq : left.1 = right.1
  · rw [if_neg (not_not_intro heq), Bool.or_eq_true, decide_eq_true_eq, decide_eq_true_eq]
    constructor
    · rintro (h | h)
      · exact .inr ⟨heq, le_of_eq h⟩
      · exact .inr ⟨heq, le_of_lt h⟩
    · rintro (h | ⟨-, h⟩)
      · exact absurd heq (ne_of_lt h)
      · exact h.eq_or_lt
  · rw [if_pos heq, decide_eq_true_eq]
    constructor
    · exact .inl
    · rintro (h | ⟨h, -⟩)
      · exact h
      · exact absurd h heq

instance : Std.Total fun left right : List Char × List Char => pairLE left right = true where
  total left right := by
    rw [pairLE_iff, pairLE_iff]
    exact le_total _ _

instance : IsTrans (List Char × List Char) fun left right => pairLE left right = true where
  trans left middle right := by
    rw [pairLE_iff, pairLE_iff, pairLE_iff]
    exact le_trans

instance : Std.Antisymm fun left right : List Char × List Char => pairLE left right = true where
  antisymm left right := by
    rw [pairLE_iff, pairLE_iff]
    exact fun h h' => toLex.injective (le_antisymm h h')

def sortPairs (pairs : List (List Char × List Char)) : List (List Char × List Char) := pairs.insertionSort (pairLE · ·)

theorem sortPairs_of_perm {ps qs : List (List Char × List Char)} (h : ps.Perm qs) : sortPairs ps = sortPairs qs := by
  have hperm : (sortPairs ps).Perm (sortPairs qs) :=
    ((List.perm_insertionSort _ ps).trans h).trans (List.perm_insertionSort _ qs).symm
  exact hperm.eq_of_pairwise' (List.pairwise_insertionSort _ ps) (List.pairwise_insertionSort _ qs)

/-- The canonical query of decoded pairs. -/
def encodeQuery (decoded : List (String × String)) : List Char :=
  ['&'].intercalate ((sortPairs (decoded.map encodePair)).map writePair)

theorem encodeQuery_of_perm {ps qs : List (String × String)} (h : ps.Perm qs) : encodeQuery ps = encodeQuery qs := by
  unfold encodeQuery
  rw [sortPairs_of_perm (h.map encodePair)]

/-- The raw query stands for the decoded pairs, whose names differ. -/
inductive QueryReading (normalizeNFC : String → String) : List Char → List (String × String) → Prop
  | mk {raws : List (List Char)} {decoded : List (String × String)} (hne : raws ≠ [])
      (hcount : raws.length ≤ maxQueryParameters)
      (hread : List.Forall₂ (PairReading normalizeNFC) raws decoded) (hnames : (decoded.map Prod.fst).Nodup) :
      QueryReading normalizeNFC (['&'].intercalate raws) decoded

theorem canonicalizePairs_ok {seenNames : List (List Char)} {raws : List (List Char)}
    {canonical : List (List Char × List Char)} :
    canonicalizePairs normalizeNFC seenNames raws = .ok canonical ↔
      (∃ decoded, List.Forall₂ (PairReading normalizeNFC) raws decoded ∧ decoded.map encodePair = canonical) ∧
      (canonical.map Prod.fst).Nodup ∧ ∀ name ∈ canonical.map Prod.fst, name ∉ seenNames := by
  induction raws generalizing seenNames canonical with
  | nil =>
    unfold canonicalizePairs
    constructor
    · intro h
      obtain rfl := Except.ok.inj h
      exact ⟨⟨[], .nil, rfl⟩, List.nodup_nil, by simp⟩
    · rintro ⟨⟨decoded, hread, rfl⟩, -⟩
      obtain rfl := List.forall₂_nil_left_iff.mp hread
      rfl
  | cons raw raws ih =>
    have hcons : canonicalizePairs normalizeNFC seenNames (raw :: raws) = .ok canonical ↔
        ∃ pair, canonicalizePair normalizeNFC raw = .ok pair ∧ seenNames.contains pair.1 = false ∧
          ∃ pairs, canonicalizePairs normalizeNFC (pair.1 :: seenNames) raws = .ok pairs ∧ pair :: pairs = canonical := by
      rw [canonicalizePairs, bind_ok]
      simp only [refuse_bind_ok]
      simp only [bind_ok, pure_ok]
    rw [hcons]
    simp only [canonicalizePair_ok, ih]
    constructor
    · rintro ⟨_, ⟨p, hp, rfl⟩, hseen, _, ⟨⟨ps, hps, rfl⟩, hnodup, hfresh⟩, rfl⟩
      refine ⟨⟨p :: ps, .cons hp hps, rfl⟩, ?_, ?_⟩
      · rw [List.map_cons, List.nodup_cons]
        exact ⟨fun hmem => hfresh _ hmem List.mem_cons_self, hnodup⟩
      · intro name hname
        rw [List.map_cons] at hname
        rcases List.mem_cons.mp hname with rfl | hname
        · exact fun hmem => Bool.false_ne_true (hseen.symm.trans (List.contains_iff_mem.mpr hmem))
        · exact fun hmem => hfresh name hname (List.mem_cons_of_mem _ hmem)
    · rintro ⟨⟨decoded, hread, rfl⟩, hnodup, hfresh⟩
      obtain ⟨p, ps, hp, hps, rfl⟩ := List.forall₂_cons_left_iff.mp hread
      rw [List.map_cons, List.map_cons] at hnodup hfresh
      rw [List.nodup_cons] at hnodup
      refine ⟨_, ⟨p, hp, rfl⟩, ?_, _, ⟨⟨ps, hps, rfl⟩, hnodup.2, ?_⟩, rfl⟩
      · exact Bool.eq_false_iff.mpr fun hmem => hfresh _ List.mem_cons_self (List.contains_iff_mem.mp hmem)
      · intro name hname hmem
        rcases List.mem_cons.mp hmem with rfl | hmem
        · exact hnodup.1 hname
        · exact hfresh name (List.mem_cons_of_mem _ hname) hmem

/-- Encoded names differ exactly when the decoded ones do. -/
theorem nodup_encoded {decoded : List (String × String)} :
    ((decoded.map encodePair).map Prod.fst).Nodup ↔ (decoded.map Prod.fst).Nodup := by
  have hnames : (decoded.map encodePair).map Prod.fst =
      (decoded.map Prod.fst).map fun name => percentEncode name unreservedBytes := by
    rw [List.map_map, List.map_map]
    rfl
  rw [hnames]
  exact List.nodup_map_iff fun _ _ h => percentEncode_injective unreservedBytes_literal h

theorem canonicalizeQuery_ok {rawQuery canonical : List Char} :
    canonicalizeQuery normalizeNFC rawQuery = .ok canonical ↔
      ∃ decoded, QueryReading normalizeNFC rawQuery decoded ∧ encodeQuery decoded = canonical := by
  have hcheck : canonicalizeQuery normalizeNFC rawQuery = .ok canonical ↔
      (rawQuery.splitOn '&').length ≤ maxQueryParameters ∧ (rawQuery.splitOn '&').any List.isEmpty = false ∧
      ∃ pairs, canonicalizePairs normalizeNFC [] (rawQuery.splitOn '&') = .ok pairs ∧
        ['&'].intercalate ((sortPairs pairs).map writePair) = canonical := by
    unfold canonicalizeQuery canonicalizeRawPairs
    simp only [refuse_bind_ok, decide_eq_false_iff_not, not_lt]
    simp only [bind_ok, pure_ok, sortPairs]
  rw [hcheck]
  simp only [canonicalizePairs_ok]
  constructor
  · rintro ⟨hcount, -, _, ⟨⟨decoded, hread, rfl⟩, hnodup, -⟩, hcanonical⟩
    refine ⟨decoded, ?_, hcanonical⟩
    have hreading := QueryReading.mk (List.splitOn_ne_nil '&' rawQuery) hcount hread (nodup_encoded.mp hnodup)
    rwa [List.intercalate_splitOn] at hreading
  · rintro ⟨decoded, hreading, hcanonical⟩
    cases hreading with
    | mk hne hcount hread hnames =>
      have hampersand := forall₂_left (fun _ _ h => h.no_ampersand) hread
      rw [List.splitOn_intercalate '&' hampersand hne]
      refine ⟨hcount, ?_, _, ⟨⟨decoded, hread, rfl⟩, nodup_encoded.mpr hnames, by simp⟩, hcanonical⟩
      rw [List.any_eq_false]
      intro raw hraw
      rw [List.isEmpty_iff]
      exact forall₂_left (fun _ _ h => h.ne_nil) hread raw hraw

/-- The decoded pairs of a raw query. -/
def decodeQuery (rawQuery : List Char) : Option (List (String × String)) := (rawQuery.splitOn '&').mapM decodePair

theorem QueryReading.decode_eq {rawQuery : List Char} {decoded : List (String × String)}
    (h : QueryReading normalizeNFC rawQuery decoded) : decodeQuery rawQuery = some decoded := by
  cases h with
  | mk hne hcount hread hnames =>
    unfold decodeQuery
    rw [List.splitOn_intercalate '&' (forall₂_left (fun _ _ h => h.no_ampersand) hread) hne]
    exact mapM_eq_some (hread.imp fun _ _ h => h.decode_eq)

/-- The decoded pairs in the order of their encodings. -/
def sortDecoded (decoded : List (String × String)) : List (String × String) :=
  decoded.insertionSort fun p q => pairLE (encodePair p) (encodePair q) = true

theorem map_sortDecoded (decoded : List (String × String)) :
    (sortDecoded decoded).map encodePair = sortPairs (decoded.map encodePair) :=
  List.map_insertionSort _ _ encodePair decoded fun _ _ _ _ => Iff.rfl

theorem sortDecoded_perm (decoded : List (String × String)) : (sortDecoded decoded).Perm decoded :=
  List.perm_insertionSort _ decoded

/-- **The canonical query stands for the same decoded pairs**, in the order of their encodings. -/
theorem QueryReading.encode {rawQuery : List Char} {decoded : List (String × String)}
    (h : QueryReading normalizeNFC rawQuery decoded) :
    QueryReading normalizeNFC (encodeQuery decoded) (sortDecoded decoded) := by
  cases h with
  | @mk raws _ hne hcount hread hnames =>
    have hpairs : ∀ p ∈ sortDecoded decoded, ∃ raw, PairReading normalizeNFC raw p := by
      intro p hp
      obtain ⟨i, hi, rfl⟩ := List.mem_iff_getElem.mp ((sortDecoded_perm decoded).mem_iff.mp hp)
      exact ⟨_, (List.forall₂_iff_get.mp hread).2 i (hread.length_eq ▸ hi) hi⟩
    have hencoded : ∀ ps : List (String × String), (∀ p ∈ ps, ∃ raw, PairReading normalizeNFC raw p) →
        List.Forall₂ (PairReading normalizeNFC) ((ps.map encodePair).map writePair) ps := by
      intro ps hps
      induction ps with
      | nil => exact .nil
      | cons p ps ih =>
        obtain ⟨raw, hraw⟩ := hps p List.mem_cons_self
        exact .cons hraw.encode (ih fun q hq => hps q (List.mem_cons_of_mem _ hq))
    have hreading := hencoded _ hpairs
    unfold encodeQuery
    rw [← map_sortDecoded]
    have hlength := hreading.length_eq.trans ((sortDecoded_perm decoded).length_eq.trans hread.length_eq.symm)
    refine .mk ?_ (hlength ▸ hcount) hreading ?_
    · intro hnil
      rw [hnil] at hlength
      exact hne (List.length_eq_zero_iff.mp hlength.symm)
    · exact ((sortDecoded_perm decoded).map Prod.fst).nodup_iff.mpr hnames

/-- **Canonical queries are equal exactly when the decoded pairs are the same set.** -/
theorem QueryReading.encode_eq_iff {rawQuery rawQuery' : List Char} {ps qs : List (String × String)}
    (hp : QueryReading normalizeNFC rawQuery ps) (hq : QueryReading normalizeNFC rawQuery' qs) :
    encodeQuery ps = encodeQuery qs ↔ ∀ p, p ∈ ps ↔ p ∈ qs := by
  have hnodup : ∀ {raw ps}, QueryReading normalizeNFC raw ps → ps.Nodup := by
    intro raw ps h
    cases h with
    | mk _ _ _ hnames => exact List.Nodup.of_map _ hnames
  constructor
  · intro heq
    have hsorted := hp.encode.decode_eq
    rw [heq, hq.encode.decode_eq] at hsorted
    have hperm := (sortDecoded_perm qs).symm.trans ((Option.some.inj hsorted) ▸ sortDecoded_perm ps)
    exact fun p => hperm.mem_iff.symm
  · intro hset
    exact encodeQuery_of_perm ((List.perm_ext_iff_of_nodup (hnodup hp) (hnodup hq)).mpr hset)

theorem QueryReading.length_encode_le {rawQuery : List Char} {decoded : List (String × String)}
    (h : QueryReading normalizeNFC rawQuery decoded) : (encodeQuery decoded).length ≤ rawQuery.length := by
  have hsum : ∀ {raws : List (List Char)} {decoded : List (String × String)},
      List.Forall₂ (PairReading normalizeNFC) raws decoded →
      (decoded.map fun p => (writePair (encodePair p)).length).sum ≤ (raws.map List.length).sum := by
    intro raws decoded hread
    induction hread with
    | nil => exact Nat.le_refl 0
    | cons hR _ ih =>
      have hone := hR.length_encode_le
      simp only [List.map_cons, List.sum_cons]
      omega
  have hjoined : ∀ {xs : List (List Char)}, xs ≠ [] →
      (['&'].intercalate xs).length + 1 = xs.length + (xs.map List.length).sum := by
    intro xs hxs
    cases xs with
    | nil => exact absurd rfl hxs
    | cons x xs =>
      rw [Joined.length_intercalate, List.length_cons]
      omega
  have hencoded := h.encode
  cases h with
  | @mk raws _ hne hcount hread hnames =>
    have hperm := (sortDecoded_perm decoded).map fun p => (writePair (encodePair p)).length
    have hsorted : (((sortPairs (decoded.map encodePair)).map writePair).map List.length).sum =
        (decoded.map fun p => (writePair (encodePair p)).length).sum := by
      rw [← map_sortDecoded, List.map_map, List.map_map]
      exact hperm.sum_eq
    have hcountEq : ((sortPairs (decoded.map encodePair)).map writePair).length = raws.length := by
      rw [← map_sortDecoded, List.length_map, List.length_map, (sortDecoded_perm decoded).length_eq, hread.length_eq]
    have hnonempty : (sortPairs (decoded.map encodePair)).map writePair ≠ [] := by
      intro hnil
      rw [hnil] at hcountEq
      exact hne (List.length_eq_zero_iff.mp hcountEq.symm)
    have hleft := hjoined hnonempty
    have hright := hjoined hne
    have hle := hsum hread
    unfold encodeQuery
    omega

theorem QueryReading.characters {rawQuery : List Char} {decoded : List (String × String)}
    (h : QueryReading normalizeNFC rawQuery decoded) : ∀ c ∈ rawQuery, pathSegmentCharacter c = true := by
  cases h with
  | mk hne hcount hread hnames =>
    intro c hc
    rcases Joined.mem_intercalate hc with rfl | ⟨raw, hraw, hc⟩
    · rfl
    · rcases forall₂_left (fun _ _ h => h.characters) hread raw hraw c hc with rfl | hc
      · rfl
      · exact pathSegmentCharacter_of_query hc

theorem QueryReading.ne_nil {rawQuery : List Char} {decoded : List (String × String)}
    (h : QueryReading normalizeNFC rawQuery decoded) : rawQuery ≠ [] := by
  cases h with
  | mk hne hcount hread hnames =>
    exact Joined.intercalate_ne_nil hne (forall₂_left (fun _ _ h => h.ne_nil) hread)

end Readings

end PerPay.Security
