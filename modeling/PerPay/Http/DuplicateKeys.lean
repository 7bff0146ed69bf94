/-
  **The second scan stays in step with the first.**

  Every loop of the scanner is compared with the reader that went over the same text: from an index at
  which the reader took a value, the scanner either ends where the reader ended, or refuses a repeated name
  or a depth beyond the maximum, and does so exactly when the tree has one (`scan_reads`).  The scanner
  takes a number or a word up to the next delimiter, so the comparison asks that the reader stopped at one;
  inside arrays and objects and at the end of the text it did.
-/
import PerPay.Http.StrictJson

namespace PerPay.Http

open JsonText

variable {text : Text} {maximumDepth : Nat}

/-! ## Positions -/

/-- What is left of the text at the index, which is not past the end. -/
structure At (text : Text) (index : Nat) (rest : Text) : Prop where
  drop : text.drop index = rest
  le : index ≤ text.length

theorem At.get {index : Nat} {rest : Text} (h : At text index rest) : text[index]? = rest.head? := by
  rw [← h.drop, List.head?_drop]

theorem At.advance {index : Nat} {used rest : Text} (h : At text index (used ++ rest)) :
    At text (index + used.length) rest := by
  constructor
  · rw [← List.drop_drop, h.drop, List.drop_left]
  · have hlength := congrArg List.length h.drop
    rw [List.length_drop, List.length_append] at hlength
    have := h.le
    omega

theorem At.step {index : Nat} {c : CodeUnit} {rest : Text} (h : At text index (c :: rest)) : At text (index + 1) rest := by
  have happend : At text index ([c] ++ rest) := h
  exact happend.advance

theorem At.end_eq {index : Nat} (h : At text index []) : index = text.length := by
  have hle := List.drop_eq_nil_iff.mp h.drop
  have := h.le
  omega

theorem At.skip {index : Nat} {rest : Text} (h : At text index rest) :
    At text (skipWhitespace text index) (JsonText.skip rest) := by
  unfold skipWhitespace
  rw [h.drop]
  refine At.advance ?_
  rw [JsonText.skip, List.takeWhile_append_dropWhile]
  exact h

/-- The first unit of what is left after white space. -/
theorem At.head_skip {index : Nat} {rest : Text} (h : At text index rest) :
    text[skipWhitespace text index]? = (JsonText.skip rest).head? := h.skip.get

theorem cons_of_head {c : CodeUnit} {rest : Text} (h : rest.head? = some c) : rest = c :: rest.tail :=
  (List.cons_head?_tail h).symm

/-- The unit that was expected is stepped over. -/
theorem At.expect {index : Nat} {c : CodeUnit} {rest after : Text} (h : At text index rest)
    (hexpect : JsonText.expect c rest = some after) : At text (index + 1) after := by
  rw [eq_of_expect hexpect] at h
  exact h.step

/-! ## Delimiters -/

/-- Nothing is left, or a delimiter comes first. -/
def Delimited (rest : Text) : Prop := ∀ c ∈ rest.head?, isDelimiter c = true

theorem isDelimiter_of_whitespace {c : CodeUnit} (h : isWhitespace c = true) : isDelimiter c = true := by
  unfold isDelimiter
  rw [h, Bool.or_true]

/-- What comes first is white space, or what comes first after it. -/
theorem delimited_of_skip {rest : Text} (h : Delimited (JsonText.skip rest)) : Delimited rest := by
  cases rest with
  | nil => exact h
  | cons c rest =>
    intro d hd
    obtain rfl : c = d := Option.some.inj hd
    by_cases hc : isWhitespace c = true
    · exact isDelimiter_of_whitespace hc
    · refine h c ?_
      rw [JsonText.skip, List.dropWhile_cons_of_neg hc]
      rfl

theorem delimited_of_head {c : CodeUnit} {rest : Text} (h : (JsonText.skip rest).head? = some c)
    (hc : isDelimiter c = true) : Delimited rest := by
  refine delimited_of_skip fun d hd => ?_
  rw [h] at hd
  obtain rfl := Option.some.inj hd
  exact hc

theorem delimited_of_expect {c : CodeUnit} {rest after : Text} (h : JsonText.expect c (JsonText.skip rest) = some after)
    (hc : isDelimiter c = true) : Delimited rest := by
  refine delimited_of_head ?_ hc
  rw [eq_of_expect h]
  rfl

theorem delimited_of_skip_nil {rest : Text} (h : JsonText.skip rest = []) : Delimited rest := by
  refine delimited_of_skip ?_
  rw [h]
  intro c hc
  cases hc

/-- A token up to a delimiter is what `scanPrimitive` steps over. -/
theorem At.scanPrimitive {index : Nat} {used rest : Text} (h : At text index (used ++ rest))
    (hused : ∀ c ∈ used, isDelimiter c = false) (hrest : Delimited rest) :
    At text (scanPrimitive text index) rest := by
  have htake : (used ++ rest).takeWhile (fun c => !isDelimiter c) = used := by
    rw [List.takeWhile_append_of_pos fun c hc => by rw [hused c hc]; rfl]
    cases rest with
    | nil => exact List.append_nil used
    | cons c rest =>
      rw [List.takeWhile_cons_of_neg, List.append_nil]
      rw [hrest c rfl]
      decide
  unfold Http.scanPrimitive
  rw [h.drop, htake]
  exact h.advance

/-! ## Strings -/

theorem hexUnit_plain {c : CodeUnit} {n : Nat} (h : hexUnit c = some n) : c ≠ unit '"' ∧ c ≠ unit '\\' := by
  constructor
  · rintro rfl
    cases h
  · rintro rfl
    cases h

theorem stringEnd_plain {c : CodeUnit} {cs : Text} {index : Nat} (hquote : c ≠ unit '"') (hbackslash : c ≠ unit '\\') :
    stringEnd (c :: cs) index = stringEnd cs (index + 1) := by
  rw [stringEnd.eq_def]
  dsimp only
  rw [if_neg hbackslash, if_neg hquote]

theorem stringEnd_quote {cs : Text} {index : Nat} : stringEnd (unit '"' :: cs) index = some (index + 1) := by
  rw [stringEnd.eq_def]
  dsimp only
  rw [if_neg (by decide), if_pos rfl]

/-- The loop ends behind the quote that closes the text: an escape is stepped over with what it escapes, and
    the digits of a longer one are plain. -/
theorem stringEnd_spells {used decoded : Text} (h : Spells used decoded) (rest : Text) (index : Nat) :
    stringEnd (used ++ rest) index = some (index + used.length) := by
  induction h generalizing index with
  | close =>
    exact stringEnd_quote
  | @plain c used decoded hquote hbackslash hcontrol hrest ih =>
    rw [List.cons_append, stringEnd_plain hquote hbackslash, ih, List.length_cons]
    congr 1
    omega
  | @simple e n used decoded he hn hrest ih =>
    rw [List.cons_append, List.cons_append, stringEnd, if_pos rfl, ih, List.length_cons, List.length_cons]
    congr 1
    omega
  | @unicode h₁ h₂ h₃ h₄ n used decoded hn hrest ih =>
    unfold escapedUnit at hn
    simp only [Option.bind_eq_bind, Option.bind_eq_some_iff] at hn
    obtain ⟨_, hd₁, _, hd₂, _, hd₃, _, hd₄, -⟩ := hn
    simp only [List.cons_append]
    rw [stringEnd, if_pos rfl]
    rw [stringEnd_plain (hexUnit_plain hd₁).1 (hexUnit_plain hd₁).2,
      stringEnd_plain (hexUnit_plain hd₂).1 (hexUnit_plain hd₂).2,
      stringEnd_plain (hexUnit_plain hd₃).1 (hexUnit_plain hd₃).2,
      stringEnd_plain (hexUnit_plain hd₄).1 (hexUnit_plain hd₄).2, ih]
    simp only [List.length_cons]
    congr 1
    omega

theorem readTree_string {used decoded : Text} (h : Spells used decoded) :
    readTree (unit '"' :: used) = some (.string decoded) := by
  have hread := h.readText_eq []
  rw [List.append_nil] at hread
  have hskip : JsonText.skip (unit '"' :: used) = unit '"' :: used := List.dropWhile_cons_of_neg (by decide)
  have hfuel : 2 * (unit '"' :: used).length + 1 = 2 * used.length + 2 + 1 := by
    rw [List.length_cons]
    omega
  unfold readTree
  rw [hskip, hfuel, readValue, if_neg (by decide), if_neg (by decide), if_pos rfl, hread]
  rfl

/-- **A name is scanned as it was read**, and the scan ends where the reader ended. -/
theorem scanString_reads {index : Nat} {cs decoded rest : Text} (h : At text index (unit '"' :: cs))
    (hread : readText cs = some (decoded, rest)) :
    ∃ stop, scanString text index = .ok (decoded, stop) ∧ At text stop rest := by
  obtain ⟨used, hused, rfl⟩ := spells_of_readText cs hread
  have hstep := h.step
  refine ⟨index + 1 + used.length, ?_, hstep.advance⟩
  have hslice : (text.take (index + 1 + used.length)).drop index = unit '"' :: used := by
    rw [List.drop_take, h.drop]
    have hcount : index + 1 + used.length - index = used.length + 1 := by omega
    rw [hcount, List.take_succ_cons, List.take_left]
  unfold scanString
  rw [hstep.drop, stringEnd_spells hused]
  dsimp only
  unfold sliceString
  rw [hslice, readTree_string hused]
  rfl

/-! ## Values -/

/-- The two errors that the scan is there for. -/
inductive Refusal : Thrown → Prop
  | duplicate (key : Text) : Refusal (duplicateKey key)
  | deep : Refusal tooDeep

/-- Under the condition the scan ends where the reader ended; otherwise it refuses. -/
inductive Outcome (text rest : Text) (condition : Prop) : Parsed Nat → Prop
  | finished {stop : Nat} (h : condition) (hstop : At text stop rest) : Outcome text rest condition (.ok stop)
  | refused {error : Thrown} (h : ¬ condition) (herror : Refusal error) : Outcome text rest condition (.error error)

theorem Outcome.congr {rest : Text} {p q : Prop} {result : Parsed Nat} (h : Outcome text rest p result) (hpq : p ↔ q) :
    Outcome text rest q result := by
  cases h with
  | finished h hstop => exact .finished (hpq.mp h) hstop
  | refused h herror => exact .refused (fun hq => h (hpq.mpr hq)) herror

/-- One scan after another: the second starts where the first ended. -/
theorem Outcome.bind {middle rest : Text} {p q : Prop} {result : Parsed Nat} {next : Nat → Parsed Nat}
    (h : Outcome text middle p result) (hnext : ∀ stop, At text stop middle → Outcome text rest q (next stop)) :
    Outcome text rest (p ∧ q) (result.bind next) := by
  cases h with
  | finished h hstop => exact (hnext _ hstop).congr ⟨fun hq => ⟨h, hq⟩, And.right⟩
  | refused h herror => exact .refused (fun hpq => h hpq.1) herror

/-- The value at this depth has distinct names and is nowhere too deep. -/
def Fits {ν : Type} (maximumDepth depth : Nat) (t : Json ν) : Prop :=
  t.DistinctNames ∧ depth + t.depth ≤ maximumDepth + 1

def ItemsFit {ν : Type} (maximumDepth depth : Nat) (ts : List (Json ν)) : Prop :=
  DistinctItems ts ∧ depth + itemsDepth ts ≤ maximumDepth

/-- Members behind those with the keys. -/
def MembersFit {ν : Type} (maximumDepth depth : Nat) (keys : List Text) (ms : List (Text × Json ν)) : Prop :=
  (ms.map Prod.fst).Nodup ∧ (∀ name ∈ ms.map Prod.fst, name ∉ keys) ∧ DistinctMembers ms ∧
    depth + membersDepth ms ≤ maximumDepth

/-- A value that is deeper than allowed is refused at once. -/
theorem scanValue_deep {n depth index : Nat} {rest : Text} {t : Json Text} (h : depth > maximumDepth) :
    Outcome text rest (Fits maximumDepth depth t) (scanValue text maximumDepth (n + 1) depth index) := by
  rw [scanValue, if_pos h]
  refine .refused (fun hfits => ?_) .deep
  have := hfits.2
  have := t.depth_pos
  omega

/-- From where the reader took a value, the scan is in step with it. -/
def ValuesInStep (text : Text) (maximumDepth n : Nat) : Prop :=
  ∀ cs rest t depth index, readValue n cs = some (t, rest) → Delimited rest → At text index cs →
    Outcome text rest (Fits maximumDepth depth t) (scanValue text maximumDepth n depth index)

def ItemsInStep (text : Text) (maximumDepth n : Nat) : Prop :=
  ∀ cs rest ts depth index, readItems n cs = some (ts, rest) → At text index cs →
    Outcome text rest (ItemsFit maximumDepth depth ts) (scanItems text maximumDepth n depth index)

def MembersInStep (text : Text) (maximumDepth n : Nat) : Prop :=
  ∀ cs rest ms depth index keys, readMembers n cs = some (ms, rest) → At text index cs →
    Outcome text rest (MembersFit maximumDepth depth keys ms) (scanMembers text maximumDepth n depth keys index)

theorem valuesInStep_succ {n : Nat} (hitems : ItemsInStep text maximumDepth n)
    (hmembers : MembersInStep text maximumDepth n) : ValuesInStep text maximumDepth (n + 1) := by
  intro cs rest t depth index h hrest hat
  by_cases hdepth : depth > maximumDepth
  · exact scanValue_deep hdepth
  cases cs with
  | nil => simp [readValue] at h
  | cons c cs =>
    have hget := hat.get
    have hstep := hat.step
    rw [List.head?_cons] at hget
    rw [scanValue, if_neg hdepth, hget]
    rw [readValue] at h
    by_cases hobject : c = unit '{'
    · subst hobject
      rw [if_pos rfl] at h
      rw [if_pos rfl, hstep.head_skip]
      split at h
      next hclose =>
        obtain ⟨rfl, rfl⟩ := Prod.mk.inj (Option.some.inj h)
        rw [if_pos hclose]
        have hend := hstep.skip
        rw [cons_of_head hclose] at hend
        exact .finished ⟨⟨List.nodup_nil, trivial⟩, show depth + (1 + 0) ≤ _ by omega⟩ hend.step
      next hopen =>
        obtain ⟨⟨ms, r⟩, hread, h⟩ := Option.map_eq_some_iff.mp h
        obtain ⟨rfl, rfl⟩ := Prod.mk.inj h
        rw [if_neg hopen]
        refine (hmembers _ _ ms depth _ [] hread hstep.skip).congr ⟨?_, ?_⟩
        · rintro ⟨hnames, -, hdistinct, hdeep⟩
          exact ⟨⟨hnames, hdistinct⟩, show depth + (1 + membersDepth ms) ≤ _ by omega⟩
        · rintro ⟨⟨hnames, hdistinct⟩, hdeep⟩
          have hdeep : depth + (1 + membersDepth ms) ≤ maximumDepth + 1 := hdeep
          exact ⟨hnames, by simp, hdistinct, by omega⟩
    by_cases harray : c = unit '['
    · subst harray
      rw [if_neg (by decide), if_pos rfl] at h
      rw [if_neg (by decide), if_pos rfl, hstep.head_skip]
      split at h
      next hclose =>
        obtain ⟨rfl, rfl⟩ := Prod.mk.inj (Option.some.inj h)
        rw [if_pos hclose]
        have hend := hstep.skip
        rw [cons_of_head hclose] at hend
        exact .finished ⟨trivial, show depth + (1 + 0) ≤ _ by omega⟩ hend.step
      next hopen =>
        obtain ⟨⟨ts, r⟩, hread, h⟩ := Option.map_eq_some_iff.mp h
        obtain ⟨rfl, rfl⟩ := Prod.mk.inj h
        rw [if_neg hopen]
        refine (hitems _ _ ts depth _ hread hstep.skip).congr ⟨?_, ?_⟩
        · rintro ⟨hdistinct, hdeep⟩
          exact ⟨hdistinct, show depth + (1 + itemsDepth ts) ≤ _ by omega⟩
        · rintro ⟨hdistinct, hdeep⟩
          have hdeep : depth + (1 + itemsDepth ts) ≤ maximumDepth + 1 := hdeep
          exact ⟨hdistinct, by omega⟩
    have hobject' : some c ≠ some (unit '{') := fun heq => hobject (Option.some.inj heq)
    have harray' : some c ≠ some (unit '[') := fun heq => harray (Option.some.inj heq)
    rw [if_neg hobject, if_neg harray] at h
    rw [if_neg hobject', if_neg harray']
    by_cases hstring : c = unit '"'
    · subst hstring
      rw [if_pos rfl] at h
      rw [if_pos rfl]
      obtain ⟨⟨s, r⟩, hread, h⟩ := Option.map_eq_some_iff.mp h
      obtain ⟨rfl, rfl⟩ := Prod.mk.inj h
      obtain ⟨stop, hscan, hstop⟩ := scanString_reads hat hread
      rw [hscan]
      exact .finished ⟨trivial, show depth + 1 ≤ _ by omega⟩ hstop
    · have hstring' : some c ≠ some (unit '"') := fun heq => hstring (Option.some.inj heq)
      rw [if_neg hstring] at h
      rw [if_neg hstring']
      obtain ⟨used, hused, htoken⟩ := readScalar_token h
      have hscalar := readScalar_flat h
      rw [hused] at hat
      exact .finished ⟨hscalar.1, by omega⟩ (hat.scanPrimitive htoken hrest)

theorem itemsInStep_succ {n : Nat} (hvalue : ValuesInStep text maximumDepth n)
    (hitems : ItemsInStep text maximumDepth n) : ItemsInStep text maximumDepth (n + 1) := by
  intro cs rest ts depth index h hat
  rw [scanItems]
  rw [readItems] at h
  obtain ⟨⟨t, r⟩, hread, h⟩ := Option.bind_eq_some_iff.mp h
  dsimp only at h
  split at h
  next hclose =>
    obtain ⟨rfl, rfl⟩ := Prod.mk.inj (Option.some.inj h)
    have hfirst := hvalue _ _ t (depth + 1) _ hread (delimited_of_head hclose (by decide)) hat
    refine (hfirst.bind (q := True) fun stop hstop => ?_).congr ⟨?_, ?_⟩
    · rw [hstop.head_skip, if_pos hclose]
      have hend := hstop.skip
      rw [cons_of_head hclose] at hend
      exact .finished trivial hend.step
    · rintro ⟨⟨hdistinct, hdeep⟩, -⟩
      exact ⟨⟨hdistinct, trivial⟩, show depth + max t.depth 0 ≤ _ by omega⟩
    · rintro ⟨⟨hdistinct, -⟩, hdeep⟩
      have hdeep : depth + max t.depth 0 ≤ maximumDepth := hdeep
      exact ⟨⟨hdistinct, by omega⟩, trivial⟩
  next hopen =>
    obtain ⟨after, hcomma, h⟩ := Option.bind_eq_some_iff.mp h
    obtain ⟨⟨ts', r'⟩, hread', h⟩ := Option.map_eq_some_iff.mp h
    obtain ⟨rfl, rfl⟩ := Prod.mk.inj h
    have hfirst := hvalue _ _ t (depth + 1) _ hread (delimited_of_expect hcomma (by decide)) hat
    refine (hfirst.bind (q := ItemsFit maximumDepth depth ts') fun stop hstop => ?_).congr ⟨?_, ?_⟩
    · rw [hstop.head_skip, if_neg hopen]
      exact hitems _ _ ts' depth _ hread' (hstop.skip.expect hcomma).skip
    · rintro ⟨⟨hdistinct, hdeep⟩, hdistinct', hdeep'⟩
      exact ⟨⟨hdistinct, hdistinct'⟩, show depth + max t.depth (itemsDepth ts') ≤ _ by omega⟩
    · rintro ⟨⟨hdistinct, hdistinct'⟩, hdeep⟩
      have hdeep : depth + max t.depth (itemsDepth ts') ≤ maximumDepth := hdeep
      exact ⟨⟨hdistinct, by omega⟩, hdistinct', by omega⟩

theorem membersInStep_succ {n : Nat} (hvalue : ValuesInStep text maximumDepth n)
    (hmembers : MembersInStep text maximumDepth n) : MembersInStep text maximumDepth (n + 1) := by
  intro cs rest ms depth index keys h hat
  have hfull := h
  rw [scanMembers]
  rw [readMembers] at h
  obtain ⟨⟨name, r⟩, hname, h⟩ := Option.bind_eq_some_iff.mp h
  obtain ⟨body, hquote, htext⟩ := Option.bind_eq_some_iff.mp hname
  have hcs := eq_of_expect hquote
  rw [hcs] at hat
  obtain ⟨stop, hscan, hstop⟩ := scanString_reads hat htext
  rw [hscan]
  show Outcome _ _ _ (if _ then _ else _)
  dsimp only at h ⊢
  by_cases hseen : keys.contains name = true
  · rw [if_pos hseen]
    refine .refused (fun hfit => ?_) (.duplicate name)
    exact hfit.2.1 name (name_mem_of_readMembers hname hfull) (List.contains_iff_mem.mp hseen)
  rw [if_neg hseen]
  have hfresh : name ∉ keys := fun hmem => hseen (List.contains_iff_mem.mpr hmem)
  obtain ⟨afterColon, hcolon, h⟩ := Option.bind_eq_some_iff.mp h
  obtain ⟨⟨t, r'⟩, hread, h⟩ := Option.bind_eq_some_iff.mp h
  have hvalueAt := (hstop.skip.expect hcolon).skip
  split at h
  next hclose =>
    obtain ⟨rfl, rfl⟩ := Prod.mk.inj (Option.some.inj h)
    have hfirst := hvalue _ _ t (depth + 1) _ hread (delimited_of_head hclose (by decide)) hvalueAt
    refine (hfirst.bind (q := True) fun stop' hstop' => ?_).congr ⟨?_, ?_⟩
    · rw [hstop'.head_skip, if_pos hclose]
      have hend := hstop'.skip
      rw [cons_of_head hclose] at hend
      exact .finished trivial hend.step
    · rintro ⟨⟨hdistinct, hdeep⟩, -⟩
      refine ⟨by simp, by simpa using hfresh, ⟨hdistinct, trivial⟩, ?_⟩
      show depth + max t.depth 0 ≤ _
      omega
    · rintro ⟨-, -, ⟨hdistinct, -⟩, hdeep⟩
      have hdeep : depth + max t.depth 0 ≤ maximumDepth := hdeep
      exact ⟨⟨hdistinct, by omega⟩, trivial⟩
  next hopen =>
    obtain ⟨after, hcomma, h⟩ := Option.bind_eq_some_iff.mp h
    obtain ⟨⟨ms', r''⟩, hread', h⟩ := Option.map_eq_some_iff.mp h
    obtain ⟨rfl, rfl⟩ := Prod.mk.inj h
    have hfirst := hvalue _ _ t (depth + 1) _ hread (delimited_of_expect hcomma (by decide)) hvalueAt
    refine (hfirst.bind (q := MembersFit maximumDepth depth (name :: keys) ms') fun stop' hstop' => ?_).congr ⟨?_, ?_⟩
    · rw [hstop'.head_skip, if_neg hopen]
      exact hmembers _ _ ms' depth _ (name :: keys) hread' (hstop'.skip.expect hcomma).skip
    · rintro ⟨⟨hdistinct, hdeep⟩, hnames, hkeys, hdistinct', hdeep'⟩
      refine ⟨?_, ?_, ⟨hdistinct, hdistinct'⟩, ?_⟩
      · rw [List.map_cons, List.nodup_cons]
        exact ⟨fun hmem => hkeys name hmem List.mem_cons_self, hnames⟩
      · intro other hother hmem
        rw [List.map_cons] at hother
        rcases List.mem_cons.mp hother with rfl | hother
        · exact hfresh hmem
        · exact hkeys other hother (List.mem_cons_of_mem _ hmem)
      · show depth + max t.depth (membersDepth ms') ≤ _
        omega
    · rintro ⟨hnames, hkeys, ⟨hdistinct, hdistinct'⟩, hdeep⟩
      have hdeep : depth + max t.depth (membersDepth ms') ≤ maximumDepth := hdeep
      rw [List.map_cons, List.nodup_cons] at hnames
      refine ⟨⟨hdistinct, by omega⟩, hnames.2, ?_, hdistinct', by omega⟩
      intro other hother hmem
      rcases List.mem_cons.mp hmem with rfl | hmem
      · exact hnames.1 hother
      · exact hkeys other (List.mem_cons_of_mem _ hother) hmem

/-- **In step.**  From where the reader took a value, items or members, the scanner ends where the reader
    ended when names are distinct and nothing is too deep, and refuses otherwise.  The induction is on the
    fuel, of which both have the same. -/
theorem inStep (text : Text) (maximumDepth n : Nat) :
    ValuesInStep text maximumDepth n ∧ ItemsInStep text maximumDepth n ∧ MembersInStep text maximumDepth n := by
  induction n with
  | zero =>
    refine ⟨?_, ?_, ?_⟩
    · intro cs rest t depth index h
      simp [readValue] at h
    · intro cs rest ts depth index h
      simp [readItems] at h
    · intro cs rest ms depth index keys h
      simp [readMembers] at h
  | succ n ih =>
    obtain ⟨hvalue, hitems, hmembers⟩ := ih
    exact ⟨valuesInStep_succ hitems hmembers, itemsInStep_succ hvalue hitems, membersInStep_succ hvalue hmembers⟩

/-! ## The whole text -/

/-- **The scan of an accepted text** ends exactly at its end when names are distinct and nothing is too deep,
    and refuses otherwise. -/
theorem scanValue_accepted (maximumDepth : Nat) {tree : Json Text} (h : IsTextOf text tree) :
    (tree.DistinctNames ∧ tree.depth ≤ maximumDepth ∧
      ∃ stop, scanValue text maximumDepth (2 * text.length + 1) 1 (skipWhitespace text 0) = .ok stop ∧
        skipWhitespace text stop = text.length) ∨
    (¬ (tree.DistinctNames ∧ tree.depth ≤ maximumDepth) ∧
      ∃ error, Refusal error ∧
        scanValue text maximumDepth (2 * text.length + 1) 1 (skipWhitespace text 0) = .error error) := by
  have hread := readTree_eq_some.mpr h
  unfold readTree at hread
  obtain ⟨⟨t, rest⟩, hvalue, hread⟩ := Option.bind_eq_some_iff.mp hread
  dsimp only at hread
  split at hread
  next hrest =>
    obtain rfl := Option.some.inj hread
    have hat : At text 0 text := ⟨rfl, Nat.zero_le _⟩
    have hscan := (inStep text maximumDepth _).1 _ _ t 1 _ hvalue (delimited_of_skip_nil hrest) hat.skip
    generalize scanValue text maximumDepth (2 * text.length + 1) 1 (skipWhitespace text 0) = result at hscan
    cases hscan with
    | @finished stop hfits hstop =>
      have hend := hstop.skip
      rw [hrest] at hend
      exact .inl ⟨hfits.1, by have := hfits.2; omega, stop, rfl, hend.end_eq⟩
    | refused hfits herror => exact .inr ⟨fun hboth => hfits ⟨hboth.1, by omega⟩, _, herror, rfl⟩
  next => cases hread

theorem scan_accepted {tree : Json Text} (h : IsTextOf text tree) :
    scan text maximumDepth = .ok () ↔ tree.DistinctNames ∧ tree.depth ≤ maximumDepth := by
  unfold scan
  rcases scanValue_accepted maximumDepth h with ⟨hnames, hdepth, stop, hscan, hstop⟩ | ⟨hnot, error, -, hscan⟩
  · rw [hscan]
    constructor
    · exact fun _ => ⟨hnames, hdepth⟩
    · intro _
      show (if skipWhitespace text stop ≠ text.length then _ else _) = _
      rw [if_neg (not_not_intro hstop)]
  · rw [hscan]
    constructor
    · exact fun hok => nomatch hok
    · exact fun hboth => absurd hboth hnot

theorem checkMaximumDepth_ok {maximumDepth : Rat} {depth : Nat} :
    checkMaximumDepth maximumDepth = .ok depth ↔ maximumDepth = depth ∧ 1 ≤ depth ∧ depth ≤ 256 := by
  unfold checkMaximumDepth
  constructor
  · intro h
    split at h
    next => cases h
    next hcheck =>
      simp only [Bool.or_eq_true, decide_eq_true_eq, not_or, not_lt, ne_eq, not_not, gt_iff_lt] at hcheck
      obtain ⟨⟨hwhole, hlow⟩, hhigh⟩ := hcheck
      have hnum : maximumDepth = (maximumDepth.num : Rat) := (Rat.coe_int_num_of_den_eq_one hwhole).symm
      rw [hnum] at hlow hhigh
      have hlow : 1 ≤ maximumDepth.num := by exact_mod_cast hlow
      have hhigh : maximumDepth.num ≤ 256 := by exact_mod_cast hhigh
      obtain rfl := Except.ok.inj h
      refine ⟨?_, by omega, by omega⟩
      conv_lhs => rw [hnum]
      have hnat : (maximumDepth.num.toNat : Int) = maximumDepth.num := Int.toNat_of_nonneg (by omega)
      exact_mod_cast congrArg (Int.cast : Int → Rat) hnat.symm
  · rintro ⟨rfl, hlow, hhigh⟩
    have hlow : ¬ ((depth : Rat) < 1) := not_lt.mpr (by exact_mod_cast hlow)
    have hhigh : ¬ ((depth : Rat) > 256) := not_lt.mpr (by exact_mod_cast hhigh)
    rw [if_neg]
    · simp
    · simp only [Rat.den_natCast, ne_eq, not_true_eq_false, decide_false, Bool.false_or, Bool.or_eq_true,
        decide_eq_true_eq, not_or]
      exact ⟨hlow, hhigh⟩

theorem bind_eq_ok {α β : Type} {x : Parsed α} {f : α → Parsed β} {r : β} (h : x.bind f = .ok r) :
    ∃ a, x = .ok a ∧ f a = .ok r := by
  cases x with
  | error e => cases h
  | ok a => exact ⟨a, rfl, h⟩

/-- **Strict JSON.**  A value is returned exactly when the bytes are UTF-8 of one JSON text whose names are
    distinct and whose values are nested no deeper than the maximum, a whole number from 1 to 256; and then
    it holds every member that is written.  The scan of an accepted text ends at its end, or refuses. -/
theorem strict_json {ν : Type} (numberOf : Text → ν) (bytes : List UInt8) (maximumDepth : Rat) :
    (∀ value, parseStrictJson numberOf bytes maximumDepth = .ok value ↔
      ∃ text tree, ∃ depth : Nat, Bytes.ofUtf8 bytes = some text ∧ IsTextOf (utf16 text) tree ∧ tree.DistinctNames ∧
        maximumDepth = depth ∧ 1 ≤ depth ∧ depth ≤ 256 ∧ tree.depth ≤ depth ∧ value = tree.mapNumbers numberOf) ∧
    (∀ (text : Text) (tree : Json Text) (depth : Nat), IsTextOf text tree →
      (∃ stop, scanValue text depth (2 * text.length + 1) 1 (skipWhitespace text 0) = .ok stop ∧
        skipWhitespace text stop = text.length) ∨
      ∃ error, Refusal error ∧ scanValue text depth (2 * text.length + 1) 1 (skipWhitespace text 0) = .error error) := by
  refine ⟨fun value => ?_, fun text tree depth h => ?_⟩
  · unfold parseStrictJson
    constructor
    · intro h
      cases htext : Bytes.ofUtf8 bytes with
      | none =>
        rw [htext] at h
        cases h
      | some text =>
        rw [htext] at h
        dsimp only at h
        cases htree : readTree (utf16 text) with
        | none =>
          rw [parse, htree] at h
          cases h
        | some tree =>
          rw [parse, htree] at h
          have hof := readTree_eq_some.mp htree
          obtain ⟨depth, hdepth, h⟩ := bind_eq_ok h
          obtain ⟨⟨⟩, hscan, h⟩ := bind_eq_ok h
          obtain ⟨hmax, hlow, hhigh⟩ := checkMaximumDepth_ok.mp hdepth
          obtain ⟨hnames, hdeep⟩ := (scan_accepted hof).mp hscan
          obtain rfl := Except.ok.inj h
          exact ⟨text, tree, depth, rfl, hof, hnames, hmax, hlow, hhigh, hdeep, tree.evaluate_eq numberOf hnames⟩
    · rintro ⟨text, tree, depth, htext, hof, hnames, hmax, hlow, hhigh, hdeep, rfl⟩
      rw [htext]
      dsimp only
      rw [parse, readTree_eq_some.mpr hof, Option.map_some]
      dsimp only
      rw [checkMaximumDepth_ok.mpr ⟨hmax, hlow, hhigh⟩]
      show (scan (utf16 text) depth).bind _ = _
      rw [(scan_accepted hof).mpr ⟨hnames, hdeep⟩, tree.evaluate_eq numberOf hnames]
      rfl
  · rcases scanValue_accepted depth h with ⟨-, -, hstop⟩ | ⟨-, herror⟩
    · exact .inl hstop
    · exact .inr herror

/-- An object with a nested array is returned, and its text scanned to the end. -/
theorem strict_json_object :
    (∃ tree, IsTextOf (utf16 "\x7b\"a\": [1, 2]\x7d") tree ∧ tree.DistinctNames ∧ tree.depth ≤ 64) ∧
    ∃ stop, scanValue (utf16 "[0]") 2 7 1 (skipWhitespace (utf16 "[0]") 0) = .ok stop ∧
      skipWhitespace (utf16 "[0]") stop = 3 := by
  constructor
  · have hok : (parseStrictJson (fun text => text) (Bytes.utf8 "\x7b\"a\": [1, 2]\x7d") 64).toBool = true := by
      decide +kernel
    cases hvalue : parseStrictJson (fun text => text) (Bytes.utf8 "\x7b\"a\": [1, 2]\x7d") 64 with
    | error e =>
      rw [hvalue] at hok
      cases hok
    | ok value =>
      obtain ⟨text, tree, depth, htext, hof, hnames, hmax, -, -, hdeep, -⟩ :=
        ((strict_json (fun text => text) (Bytes.utf8 "\x7b\"a\": [1, 2]\x7d") 64).1 value).mp hvalue
      rw [Bytes.ofUtf8_utf8] at htext
      obtain rfl := Option.some.inj htext
      have hdepth : depth = 64 := by exact_mod_cast hmax.symm
      exact ⟨tree, hof, hnames, hdepth ▸ hdeep⟩
  · have htree : readTree (utf16 "[0]") = some (.array [.number (word "0")]) := rfl
    rcases (strict_json (fun text => text) [] 64).2 _ _ 2 (readTree_eq_some.mp htree) with hstop | ⟨error, -, hscan⟩
    · exact hstop
    · have hok : (scanValue (utf16 "[0]") 2 (2 * (utf16 "[0]").length + 1) 1
          (skipWhitespace (utf16 "[0]") 0)).toBool = true := by decide +kernel
      rw [hscan] at hok
      cases hok

/-- A maximum depth beyond 256 is refused whatever the text: the digit `1`, one level deep, is not returned for
    a maximum of 257. -/
theorem depth_beyond_range :
    ¬ ∀ (bytes : List UInt8) (maximumDepth : Rat),
      (∃ value, parseStrictJson (fun text => text) bytes maximumDepth = .ok value) ↔
        ∃ text tree, Bytes.ofUtf8 bytes = some text ∧ IsTextOf (utf16 text) tree ∧ tree.DistinctNames ∧
          (tree.depth : Rat) ≤ maximumDepth := by
  intro hall
  have htree : readTree (utf16 "1") = some (.number (word "1")) := rfl
  obtain ⟨value, hvalue⟩ := (hall (Bytes.utf8 "1") 257).mpr
    ⟨"1", .number (word "1"), Bytes.ofUtf8_utf8 "1", readTree_eq_some.mp htree, trivial, by
      show ((1 : Nat) : Rat) ≤ 257
      decide⟩
  have hrefused : (parseStrictJson (fun text => text) (Bytes.utf8 "1") 257).toBool = false := by decide +kernel
  rw [hvalue] at hrefused
  cases hrefused

end PerPay.Http
