/-
  **What the parser reads.**

  Each pair that is not empty becomes one parameter, in order; all of them are valid and no name occurs twice
  (`parse_ok`).  What `URLSearchParams` reads from the same query is the same (`lenient_eq`), and what it
  writes is read back (`parse_written`).
-/
import PerPay.Epay.Signing

namespace PerPay.Epay

open Bytes Checks

/-! ## Names -/

def names (ps : EpayParameters) : List String := ps.map Prod.fst

theorem names_append (ps qs : EpayParameters) : names (ps ++ qs) = names ps ++ names qs := List.map_append

theorem hasOwn_eq_false {ps : EpayParameters} {name : String} : hasOwn ps name = false ↔ name ∉ names ps := by
  unfold hasOwn names
  rw [List.any_eq_false, List.mem_map]
  constructor
  · rintro h ⟨p, hp, rfl⟩
    exact h p hp (decide_eq_true rfl)
  · intro h p hp heq
    exact h ⟨p, hp, of_decide_eq_true heq⟩

theorem property_of_mem {ps : EpayParameters} {p : String × String} (hnames : (names ps).Nodup) (h : p ∈ ps) :
    property p.1 ps = some p.2 := by
  induction ps with
  | nil => exact absurd h List.not_mem_nil
  | cons q ps ih =>
    obtain ⟨hq, hrest⟩ := List.nodup_cons.mp hnames
    unfold property
    rcases List.mem_cons.mp h with rfl | hmem
    · rw [List.find?_cons_of_pos (by simp), Option.map_some]
    · have hne : q.1 ≠ p.1 := fun heq => hq (heq ▸ List.mem_map_of_mem hmem)
      rw [List.find?_cons_of_neg (by simpa using hne)]
      exact ih hrest hmem

theorem mem_of_property {ps : EpayParameters} {name value : String} (h : property name ps = some value) :
    (name, value) ∈ ps := by
  obtain ⟨p, hp, rfl⟩ := Option.map_eq_some_iff.mp h
  have hname : p.1 = name := by simpa using List.find?_some hp
  subst hname
  exact List.mem_of_find?_eq_some hp

theorem property_iff {ps : EpayParameters} (hnames : (names ps).Nodup) {name value : String} :
    property name ps = some value ↔ (name, value) ∈ ps :=
  ⟨mem_of_property, fun h => property_of_mem hnames h⟩

/-! ## The parser -/

/-- The pair decodes to the parameter. -/
def PairReads (pair : List Char) (p : String × String) : Prop :=
  decodeComponent (separatePair pair).1 = .ok p.1 ∧ decodeComponent (separatePair pair).2 = .ok p.2

theorem addPair_ok {ps rs : EpayParameters} {pair : List Char} :
    addPair ps pair = .ok rs ↔ ∃ p, PairReads pair p ∧ ValidField p ∧ p.1 ∉ names ps ∧ rs = ps ++ [p] := by
  unfold addPair
  simp only [bind_ok, refuse_ok, hasOwn_eq_false, pure_ok]
  constructor
  · rintro ⟨key, hkey, value, hvalue, _, hvalid, _, hnew, rfl⟩
    exact ⟨(key, value), ⟨hkey, hvalue⟩, validateField_ok.mp hvalid, hnew, rfl⟩
  · rintro ⟨p, ⟨hkey, hvalue⟩, hvalid, hnew, rfl⟩
    exact ⟨p.1, hkey, p.2, hvalue, (), validateField_ok.mpr hvalid, (), hnew, rfl⟩

theorem addPairs_ok {ps rs : EpayParameters} {pairs : List (List Char)} (hnames : (names ps).Nodup) :
    addPairs ps pairs = .ok rs ↔
      ∃ qs, List.Forall₂ PairReads pairs qs ∧ (∀ q ∈ qs, ValidField q) ∧ (names (ps ++ qs)).Nodup ∧ rs = ps ++ qs := by
  induction pairs generalizing ps with
  | nil =>
    rw [addPairs, Except.ok.injEq]
    constructor
    · rintro rfl
      refine ⟨[], .nil, by simp, ?_, (List.append_nil ps).symm⟩
      rwa [List.append_nil]
    · rintro ⟨qs, hqs, -, -, rfl⟩
      rw [List.forall₂_nil_left_iff.mp hqs, List.append_nil]
  | cons pair pairs ih =>
    rw [addPairs, bind_ok]
    simp only [addPair_ok]
    constructor
    · rintro ⟨_, ⟨p, hreads, hvalid, hnew, rfl⟩, hrest⟩
      have hnames' : (names (ps ++ [p])).Nodup := by
        rw [names_append, List.nodup_append]
        refine ⟨hnames, List.nodup_singleton _, fun a ha b hb heq => hnew ?_⟩
        rw [← List.mem_singleton.mp hb, ← heq]
        exact ha
      obtain ⟨qs, hqs, hvalids, hnodup, rfl⟩ := (ih hnames').mp hrest
      rw [List.append_assoc, List.singleton_append] at hnodup
      exact ⟨p :: qs, .cons hreads hqs, List.forall_mem_cons.mpr ⟨hvalid, hvalids⟩, hnodup,
        by rw [List.append_assoc, List.singleton_append]⟩
    · rintro ⟨_, hall, hvalids, hnodup, rfl⟩
      obtain ⟨p, qs, hreads, hqs, rfl⟩ := List.forall₂_cons_left_iff.mp hall
      obtain ⟨hvalid, hvalids⟩ := List.forall_mem_cons.mp hvalids
      have hsplit : ps ++ p :: qs = (ps ++ [p]) ++ qs := by rw [List.append_assoc, List.singleton_append]
      rw [hsplit] at hnodup
      have hnames' : (names (ps ++ [p])).Nodup := by
        rw [names_append] at hnodup
        exact (List.nodup_append.mp hnodup).1
      refine ⟨ps ++ [p], ⟨p, hreads, hvalid, ?_, rfl⟩, (ih hnames').mpr ⟨_, hqs, hvalids, hnodup, hsplit⟩⟩
      intro hmem
      rw [names_append] at hnames'
      exact (List.nodup_append.mp hnames').2.2 p.1 hmem p.1 (List.mem_singleton_self p.1) rfl

/-- What the parser returns: valid parameters under distinct names. -/
structure Parsed (ps : EpayParameters) : Prop where
  valid : ∀ p ∈ ps, ValidField p
  nodup : (names ps).Nodup

theorem addPairs_nil_ok {ps : EpayParameters} {pairs : List (List Char)} :
    addPairs [] pairs = .ok ps ↔ List.Forall₂ PairReads pairs ps ∧ Parsed ps := by
  have hnames : (names []).Nodup := List.nodup_nil
  rw [addPairs_ok hnames]
  constructor
  · rintro ⟨_, hreads, hvalid, hnodup, rfl⟩
    exact ⟨hreads, hvalid, hnodup⟩
  · rintro ⟨hreads, hvalid, hnodup⟩
    exact ⟨ps, hreads, hvalid, hnodup, rfl⟩

/-- **The parser without a body.** -/
theorem parse_ok {query : String} {ps : EpayParameters} :
    parseEpayParameters query .absent = .ok ps ↔
      query.utf8ByteSize ≤ maxFormBytes ∧ List.Forall₂ PairReads (pairsOf (withoutMark query)) ps ∧ Parsed ps := by
  unfold parseEpayParameters
  rw [decodeBody, required_bind_ok]
  have hempty : ("" : String).utf8ByteSize = 0 := rfl
  have hnone : pairsOf ("" : String).toList = [] := rfl
  simp only [Option.some.injEq, exists_eq_left', refuse_bind_ok, decide_eq_false_iff_not, hempty, hnone,
    List.append_nil, Nat.add_zero, not_lt, addPairs_nil_ok]

theorem parsed_of_parse {query : String} {body : FormBody} {ps : EpayParameters}
    (h : parseEpayParameters query body = .ok ps) : Parsed ps := by
  unfold parseEpayParameters at h
  obtain ⟨_, -, h⟩ := required_bind_ok.mp h
  obtain ⟨-, h⟩ := refuse_bind_ok.mp h
  exact (addPairs_nil_ok.mp h).2

/-! ## The two readers of a query -/

theorem decodeComponent_ok {value : List Char} {s : String} :
    decodeComponent value = .ok s ↔ Percent.decodeText (value.map Form.plusToSpace) = some s := by
  unfold decodeComponent required
  cases Percent.decodeText (value.map Form.plusToSpace) with
  | none => simp
  | some t => simp

theorem decodeComponent_nil {s : String} : decodeComponent [] = .ok s ↔ s = "" := by
  have hnil : Percent.decodeText (([] : List Char).map Form.plusToSpace) = some "" := by decide +kernel
  rw [decodeComponent_ok, hnil, Option.some.injEq]
  exact eq_comm

variable (replaced : List UInt8 → String)

theorem readPair_of_reads {pair : List Char} {p : String × String} (hascii : ∀ c ∈ pair, c.toNat < 128)
    (h : PairReads pair p) : Form.readPair replaced pair = p := by
  obtain ⟨hkey, hvalue⟩ := h
  unfold separatePair at hkey hvalue
  unfold Form.readPair
  cases hcut : Joined.cutAt '=' pair with
  | mk key value? =>
    have hpair := (Joined.eq_of_cutAt hcut).2
    rw [hcut] at hkey hvalue
    cases value? with
    | none =>
      dsimp only at hpair hkey hvalue ⊢
      subst hpair
      rw [Form.decodeComponent_eq replaced hascii (decodeComponent_ok.mp hkey), ← decodeComponent_nil.mp hvalue]
    | some value =>
      dsimp only at hpair hkey hvalue ⊢
      subst hpair
      have hkeyAscii : ∀ c ∈ key, c.toNat < 128 := fun c hc => hascii c (List.mem_append_left _ hc)
      have hvalueAscii : ∀ c ∈ value, c.toNat < 128 :=
        fun c hc => hascii c (List.mem_append_right _ (List.mem_cons_of_mem _ hc))
      rw [Form.decodeComponent_eq replaced hkeyAscii (decodeComponent_ok.mp hkey),
        Form.decodeComponent_eq replaced hvalueAscii (decodeComponent_ok.mp hvalue)]

theorem mem_of_splitOn {cs pair : List Char} (h : pair ∈ cs.splitOn '&') : ∀ c ∈ pair, c ∈ cs := by
  intro c hc
  have hjoin : ['&'].intercalate (cs.splitOn '&') = cs := List.intercalate_splitOn '&'
  rw [← hjoin]
  exact Joined.mem_intercalate_of_mem hc h

/-- **Where the parser succeeds, `URLSearchParams` reads the same.** -/
theorem lenient_eq {source : List Char} (hascii : ∀ c ∈ source, c.toNat < 128) {ps : EpayParameters}
    (h : List.Forall₂ PairReads (pairsOf source) ps) : Form.parse replaced source = ps := by
  have hpairs : ∀ pair ∈ pairsOf source, ∀ c ∈ pair, c.toNat < 128 := by
    intro pair hpair c hc
    exact hascii c (mem_of_splitOn (List.mem_filter.mp hpair).1 c hc)
  show (pairsOf source).map (Form.readPair replaced) = ps
  generalize pairsOf source = pairs at h hpairs
  induction h with
  | nil => rfl
  | cons hreads _ ih =>
    obtain ⟨hpair, hrest⟩ := List.forall_mem_cons.mp hpairs
    rw [List.map_cons, readPair_of_reads replaced hpair hreads, ih hrest]

theorem pairReads_writePair (p : String × String) : PairReads (Form.writePair p) p := by
  unfold PairReads separatePair
  rw [Form.cutAt_writePair]
  exact ⟨decodeComponent_ok.mpr (Form.decodeText_encodeComponent p.1),
    decodeComponent_ok.mpr (Form.decodeText_encodeComponent p.2)⟩

theorem pairsOf_serialize {ps : EpayParameters} (hne : ps ≠ []) :
    pairsOf (Form.serialize ps) = ps.map Form.writePair := by
  unfold pairsOf
  rw [Form.splitOn_serialize hne, List.filter_eq_self]
  intro pair hpair
  obtain ⟨p, -, rfl⟩ := List.mem_map.mp hpair
  rw [Bool.not_eq_true', List.isEmpty_eq_false_iff]
  exact Form.writePair_ne_nil p

/-- **What `URLSearchParams` writes is read back**, as far as the parser reads. -/
theorem parse_written {ps : EpayParameters} (hne : ps ≠ []) (hps : Parsed ps) :
    parseEpayParameters (String.ofList ('?' :: Form.serialize ps)) .absent = .ok ps ↔
      (String.ofList ('?' :: Form.serialize ps)).utf8ByteSize ≤ maxFormBytes := by
  have hmark : withoutMark (String.ofList ('?' :: Form.serialize ps)) = Form.serialize ps := by
    unfold withoutMark
    rw [String.toList_ofList]
    exact if_pos rfl
  rw [parse_ok, hmark, pairsOf_serialize hne]
  refine and_iff_left ⟨?_, hps⟩
  rw [List.forall₂_map_left_iff, List.forall₂_same]
  exact fun p _ => pairReads_writePair p

end PerPay.Epay
