/-
  **The catalog of a connection tells nothing new.**

  Whatever is written between two calls, and wherever the clock stands, a call with a catalog gives the choices that a
  call without one gives.

  A catalog was right about the rows there were (`Remembers`).  Rows that came since have greater numbers, so they are just
  the ones that are read; rows that were deleted matter only if they represent something, and the representatives are
  looked up; a cutoff that moved on makes all rows of a key expire with its representative.  So the result is a
  catalog of the rows there are (`Complete`), as a reading from the start is.  Which row represents an action may
  differ, the action does not; the row of a website is the last one of the latest time in either case.
-/
import Mathlib.Data.List.Dedup
import PerPay.Audit.Metadata

namespace PerPay.Audit

open Latest Table

/-! ## The two orders -/

def timeLe (a b : MetadataFact) : Prop := a.occurredAt ≤ b.occurredAt

/-- By time, and by number where the times are the same. -/
def factLe (a b : MetadataFact) : Prop := laterFact a b = false

theorem laterFact_iff {a b : MetadataFact} : laterFact a b = true ↔
    b.occurredAt < a.occurredAt ∨ (a.occurredAt = b.occurredAt ∧ b.sequence < a.sequence) := by
  unfold laterFact
  simp only [Bool.or_eq_true, Bool.and_eq_true, decide_eq_true_eq]

theorem factLe_iff {a b : MetadataFact} : factLe a b ↔
    a.occurredAt < b.occurredAt ∨ (a.occurredAt = b.occurredAt ∧ a.sequence ≤ b.sequence) := by
  unfold factLe
  rw [← Bool.not_eq_true, laterFact_iff]
  omega

theorem respects_timeLe : Respects timeLe laterFact where
  refl a := le_refl a.occurredAt
  trans := le_trans
  takes h := by
    rcases laterFact_iff.mp h with hlt | ⟨heq, -⟩
    · exact le_of_lt hlt
    · exact le_of_eq heq.symm
  keeps h := by
    rcases factLe_iff.mp h with hlt | ⟨heq, -⟩
    · exact le_of_lt hlt
    · exact le_of_eq heq

theorem respects_factLe : Respects factLe laterFact where
  refl a := factLe_iff.mpr (.inr ⟨rfl, le_refl _⟩)
  trans hab hbc := by
    rw [factLe_iff] at *
    omega
  takes h := by
    rw [factLe_iff]
    rw [laterFact_iff] at h
    omega
  keeps h := h

/-- Facts of one time and one number are one. -/
theorem factLe_antisymm {rows : List MetadataFact} (hunique : UniqueOn MetadataFact.sequence rows) :
    ∀ a ∈ rows, ∀ b ∈ rows, factLe a b → factLe b a → a = b := by
  intro a ha b hb hab hba
  rw [factLe_iff] at hab hba
  exact hunique.eq ha hb (by omega)

/-! ## Readings -/

theorem latestFact_spec : ∀ {rows : List MetadataFact}, rows ≠ [] →
    ∃ fact ∈ rows, latestFact rows = some fact ∧ ∀ row ∈ rows, factLe row fact := by
  -- the best row so far, and the ones to come
  have hfold : ∀ (rows : List MetadataFact) (best : MetadataFact), ∃ fact, (fact = best ∨ fact ∈ rows) ∧
      latestFact (best :: rows) = some fact ∧ factLe best fact ∧ ∀ row ∈ rows, factLe row fact := by
    intro rows
    induction rows with
    | nil => exact fun best => ⟨best, .inl rfl, rfl, respects_factLe.refl best, fun _ h => nomatch h⟩
    | cons row rows ih =>
      intro best
      have hnext : latestFact (best :: row :: rows) = if laterFact row best then latestFact (row :: rows)
          else latestFact (best :: rows) := by
        unfold latestFact
        simp only [List.foldl_cons]
        split <;> rfl
      rw [hnext]
      cases hlater : laterFact row best with
      | true =>
        obtain ⟨fact, hmem, hfact, hbest, hrows⟩ := ih row
        refine ⟨fact, ?_, hfact, respects_factLe.trans (respects_factLe.takes hlater) hbest, ?_⟩
        · rcases hmem with rfl | hmem
          · exact .inr List.mem_cons_self
          · exact .inr (List.mem_cons_of_mem _ hmem)
        · intro r hr
          rcases List.mem_cons.mp hr with rfl | hr
          · exact hbest
          · exact hrows r hr
      | false =>
        obtain ⟨fact, hmem, hfact, hbest, hrows⟩ := ih best
        refine ⟨fact, ?_, hfact, hbest, ?_⟩
        · rcases hmem with rfl | hmem
          · exact .inl rfl
          · exact .inr (List.mem_cons_of_mem _ hmem)
        · intro r hr
          rcases List.mem_cons.mp hr with rfl | hr
          · exact respects_factLe.trans hlater hbest
          · exact hrows r hr
  intro rows hrows
  cases rows with
  | nil => exact absurd rfl hrows
  | cons row rows =>
    obtain ⟨fact, hmem, hfact, hbest, hall⟩ := hfold rows row
    refine ⟨fact, ?_, hfact, ?_⟩
    · rcases hmem with rfl | hmem
      · exact List.mem_cons_self
      · exact List.mem_cons_of_mem _ hmem
    · intro r hr
      rcases List.mem_cons.mp hr with rfl | hr
      · exact hbest
      · exact hall r hr

theorem latestFact_mem {rows : List MetadataFact} {fact : MetadataFact} (h : latestFact rows = some fact) :
    fact ∈ rows ∧ ∀ row ∈ rows, factLe row fact := by
  by_cases hrows : rows = []
  · rw [hrows] at h
    exact nomatch h
  · obtain ⟨latest, hmem, hlatest, hall⟩ := latestFact_spec hrows
    obtain rfl := Option.some.inj (h.symm.trans hlatest)
    exact ⟨hmem, hall⟩

/-- `MAX(occurred_at)` of every group: of every action a row of its greatest time. -/
theorem actionRows_reading (picks : MaxRow) (rows : List MetadataFact) :
    Reading timeLe (fun row => some (actionKey row)) rows ((actionRows picks rows).map fun fact => (actionKey fact, fact)) := by
  have hgroup : ∀ {key fact}, picks.pick (rows.filter fun row => actionKey row = key) = some fact → key ∈ rows.map actionKey →
      fact ∈ rows ∧ actionKey fact = key ∧ ∀ row ∈ rows, actionKey row = key → timeLe row fact := by
    intro key fact hpick hkey
    obtain ⟨row, hrow, hrowkey⟩ := List.mem_map.mp hkey
    have hne : (rows.filter fun row => actionKey row = key) ≠ [] :=
      List.ne_nil_of_mem (List.mem_filter.mpr ⟨hrow, decide_eq_true hrowkey⟩)
    obtain ⟨found, hmem, hfound, hmax⟩ := picks.pick_spec _ hne
    obtain rfl := Option.some.inj (hpick.symm.trans hfound)
    obtain ⟨hin, hfact⟩ := List.mem_filter.mp hmem
    refine ⟨hin, of_decide_eq_true hfact, fun r hr hrkey => hmax r ?_⟩
    exact List.mem_filter.mpr ⟨hr, decide_eq_true hrkey⟩
  constructor
  · intro key fact hmem
    obtain ⟨f, hf, heq⟩ := List.mem_map.mp hmem
    obtain ⟨rfl, rfl⟩ := Prod.mk.inj heq
    obtain ⟨k, hk, hpick⟩ := List.mem_filterMap.mp hf
    exact ⟨(hgroup hpick (List.mem_dedup.mp hk)).1, rfl⟩
  · intro row hrow key hkey
    obtain rfl := Option.some.inj hkey
    have hthere : actionKey row ∈ rows.map actionKey := List.mem_map_of_mem hrow
    have hne : (rows.filter fun r => actionKey r = actionKey row) ≠ [] :=
      List.ne_nil_of_mem (List.mem_filter.mpr ⟨hrow, decide_eq_true rfl⟩)
    obtain ⟨fact, -, hpick, -⟩ := picks.pick_spec _ hne
    obtain ⟨-, hfact, hmax⟩ := hgroup hpick hthere
    refine ⟨fact, List.mem_map.mpr ⟨fact, ?_, by rw [hfact]⟩, hmax row hrow rfl⟩
    exact List.mem_filterMap.mpr ⟨_, List.mem_dedup.mpr hthere, hpick⟩

theorem mem_siteFacts {facts : List MetadataFact} {site : String} {fact : MetadataFact} :
    (site, fact) ∈ siteFacts facts ↔ fact ∈ facts ∧ fact.siteId = some site := by
  unfold siteFacts
  rw [List.mem_filterMap]
  constructor
  · rintro ⟨f, hf, heq⟩
    obtain ⟨s, hs, heq⟩ := Option.map_eq_some_iff.mp heq
    obtain ⟨rfl, rfl⟩ := Prod.mk.inj heq
    exact ⟨hf, hs⟩
  · rintro ⟨hf, hs⟩
    exact ⟨fact, hf, by rw [hs]; rfl⟩

/-- The rows of rank 1: of every website the last row of its latest time. -/
theorem siteRows_reading (rows : List MetadataFact) :
    Reading factLe MetadataFact.siteId rows (siteFacts (siteRows rows)) := by
  constructor
  · intro site fact hmem
    obtain ⟨hfact, hsite⟩ := mem_siteFacts.mp hmem
    obtain ⟨s, -, hlatest⟩ := List.mem_filterMap.mp hfact
    exact ⟨(List.mem_filter.mp (latestFact_mem hlatest).1).1, hsite⟩
  · intro row hrow site hsite
    have hmem : row ∈ rows.filter fun r => r.siteId = some site := List.mem_filter.mpr ⟨hrow, decide_eq_true hsite⟩
    obtain ⟨fact, hfact, hlatest, hall⟩ := latestFact_spec (List.ne_nil_of_mem hmem)
    refine ⟨fact, mem_siteFacts.mpr ⟨?_, of_decide_eq_true (List.mem_filter.mp hfact).2⟩, hall row hmem⟩
    refine List.mem_filterMap.mpr ⟨site, List.mem_dedup.mpr ?_, hlatest⟩
    exact List.mem_filterMap.mpr ⟨row, hrow, hsite⟩

/-- The same, sought by number. -/
theorem coldSiteRows_reading {table : List MetadataFact} {cutoff sequence : Int} (hunique : UniqueOn MetadataFact.sequence table)
    (hpositive : ∀ row ∈ table, 0 < row.sequence) :
    Reading factLe MetadataFact.siteId (table.filter (inReach .activity 0 sequence cutoff))
      (siteFacts (coldSiteRows table cutoff sequence)) := by
  have hreach : ∀ row ∈ table, (inReach .activity 0 sequence cutoff row = true ↔ cutoff ≤ row.occurredAt ∧ row.sequence ≤ sequence) := by
    intro row hrow
    have hrowpos := hpositive row hrow
    unfold inReach
    simp only [Bool.and_eq_true, Bool.or_eq_true, decide_eq_true_eq, reduceCtorEq, false_or]
    omega
  constructor
  · intro site fact hmem
    obtain ⟨hfact, hsite⟩ := mem_siteFacts.mp hmem
    obtain ⟨htable, hsought⟩ := List.mem_filter.mp hfact
    obtain ⟨s, -, hlatest⟩ := List.mem_filterMap.mp (of_decide_eq_true hsought)
    obtain ⟨found, hfound, hsequence⟩ := Option.map_eq_some_iff.mp hlatest
    obtain ⟨hfoundTable, hfoundReach⟩ := List.mem_filter.mp (latestFact_mem hfound).1
    obtain rfl := hunique.eq hfoundTable htable hsequence
    have hbounds := of_decide_eq_true hfoundReach
    exact ⟨List.mem_filter.mpr ⟨htable, (hreach _ htable).mpr hbounds.2⟩, hsite⟩
  · intro row hrow site hsite
    obtain ⟨htable, hin⟩ := List.mem_filter.mp hrow
    have hmem : row ∈ table.filter fun r => r.siteId = some site ∧ cutoff ≤ r.occurredAt ∧ r.sequence ≤ sequence :=
      List.mem_filter.mpr ⟨htable, decide_eq_true ⟨hsite, (hreach row htable).mp hin⟩⟩
    obtain ⟨fact, hfact, hlatest, hall⟩ := latestFact_spec (List.ne_nil_of_mem hmem)
    obtain ⟨hfactTable, hfactIn⟩ := List.mem_filter.mp hfact
    refine ⟨fact, mem_siteFacts.mpr ⟨List.mem_filter.mpr ⟨hfactTable, decide_eq_true ?_⟩, (of_decide_eq_true hfactIn).1⟩, hall row hmem⟩
    refine List.mem_filterMap.mpr ⟨site, List.mem_dedup.mpr (List.mem_filterMap.mpr ⟨row, htable, hsite⟩), ?_⟩
    exact congrArg (Option.map MetadataFact.sequence) hlatest

/-! ## Tables -/

/-- Rows by ascending number, none above the last number given. -/
structure OrderedFacts (table : List MetadataFact) (counter : Int) : Prop where
  sequenced : table.Pairwise fun a b => a.sequence < b.sequence
  bounded : ∀ row ∈ table, 0 < row.sequence ∧ row.sequence ≤ counter
  started : 0 ≤ counter

variable {table : List MetadataFact} {counter cutoff : Int} {source : AuditSource}

theorem OrderedFacts.unique (h : OrderedFacts table counter) : UniqueOn MetadataFact.sequence table := by
  unfold UniqueOn
  refine List.pairwise_map.mpr (h.sequenced.imp ?_)
  intro a b hlt
  exact ne_of_lt hlt

theorem OrderedFacts.le_head (h : OrderedFacts table counter) : ∀ row ∈ table, row.sequence ≤ headSequenceOf table := by
  intro row hrow
  unfold headSequenceOf headOf
  rcases List.eq_nil_or_concat' table with rfl | ⟨before, last, rfl⟩
  · exact nomatch hrow
  · rw [List.getLast?_append, List.getLast?_singleton, Option.some_or, Option.map_some, Option.getD_some]
    obtain ⟨-, -, hlast⟩ := List.pairwise_append.mp h.sequenced
    rcases List.mem_append.mp hrow with hrow | hrow
    · exact le_of_lt (hlast row hrow last List.mem_cons_self)
    · rw [List.mem_singleton.mp hrow]

theorem OrderedFacts.head_le (h : OrderedFacts table counter) : headSequenceOf table ≤ counter := by
  unfold headSequenceOf headOf
  rcases List.eq_nil_or_concat' table with rfl | ⟨before, last, rfl⟩
  · exact h.started
  · rw [List.getLast?_append, List.getLast?_singleton, Option.some_or, Option.map_some, Option.getD_some]
    exact (h.bounded last (List.mem_append_right _ List.mem_cons_self)).2

/-- The rows a source gives choices for. -/
def inCutoff (source : AuditSource) (cutoff : Int) (row : MetadataFact) : Bool := source = .core || cutoff ≤ row.occurredAt

/-! ## Catalogs -/

/-- A catalog of all rows there are. -/
structure Complete (source : AuditSource) (table : List MetadataFact) (cutoff : Int) (result : MetadataSource) : Prop where
  sequence : result.sequence = headSequenceOf table
  actions : Catalog timeLe (fun row => some (actionKey row)) (table.filter (inCutoff source cutoff)) result.actions
  sites : Catalog factLe MetadataFact.siteId (table.filter (inCutoff source cutoff)) result.sites

/-- A catalog of the rows `old`, some of which may be deleted by now. -/
structure Remembers (source : AuditSource) (old table : List MetadataFact) (cutoff : Int) (saved : MetadataSource) : Prop where
  unique : UniqueOn MetadataFact.sequence old
  bounded : ∀ row ∈ old, row.sequence ≤ saved.sequence
  left : ∀ row ∈ table, row.sequence ≤ saved.sequence → row ∈ old
  kept : source = .core → ∀ row ∈ old, row ∈ table
  actions : Catalog timeLe (fun row => some (actionKey row)) (old.filter (inCutoff source cutoff)) saved.actions
  sites : Catalog factLe MetadataFact.siteId (old.filter (inCutoff source cutoff)) saved.sites

/-- What was complete is remembered. -/
theorem Complete.remembers {result : MetadataSource} (h : Complete source table cutoff result) (horder : OrderedFacts table counter) :
    Remembers source table table cutoff result where
  unique := horder.unique
  bounded row hrow := h.sequence ▸ horder.le_head row hrow
  left _ hrow _ := hrow
  kept _ _ hrow := hrow
  actions := h.actions
  sites := h.sites

/-- Later rows have greater numbers; audit events stay. -/
theorem Remembers.later {old table' : List MetadataFact} {saved : MetadataSource} (h : Remembers source old table cutoff saved)
    (hbound : saved.sequence ≤ counter) (hrows : ∀ row ∈ table', row.sequence ≤ counter → row ∈ table)
    (hcore : source = .core → ∀ row ∈ table, row ∈ table') : Remembers source old table' cutoff saved where
  unique := h.unique
  bounded := h.bounded
  left row hrow hle := h.left row (hrows row hrow (le_trans hle hbound)) hle
  kept hs row hrow := hcore hs row (h.kept hs row hrow)
  actions := h.actions
  sites := h.sites

/-- Every representative that is looked up and found is there: a number belongs to one row only. -/
theorem witnesses_there {old : List MetadataFact} {state : MetadataSource} (hunique : UniqueOn MetadataFact.sequence old)
    (hold : ∀ fact ∈ state.actions.map (·.2) ++ state.sites.map (·.2), fact ∈ old)
    (h : activityWitnessesPresent table state = true) :
    ∀ fact ∈ state.actions.map (·.2) ++ state.sites.map (·.2), fact ∈ table := by
  intro fact hfact
  unfold activityWitnessesPresent at h
  obtain ⟨-, hfrom, hkeys⟩ := setAll_spec
    ((state.actions.map (·.2) ++ state.sites.map (·.2)).map fun fact => (fact.sequence, fact))
    (show Keyed ([] : List (Int × MetadataFact)) from List.nodup_nil)
  have hkey := (hkeys fact.sequence).mpr (.inr (List.mem_map.mpr ⟨_, List.mem_map_of_mem hfact, rfl⟩))
  obtain ⟨⟨sequence, witness⟩, hmem, heq⟩ := List.mem_map.mp hkey
  obtain rfl : sequence = fact.sequence := heq
  have hwitness : witness = fact := by
    rcases hfrom _ _ hmem with hnil | hentry
    · exact nomatch hnil
    · obtain ⟨f, hf, hpair⟩ := List.mem_map.mp hentry
      obtain ⟨hsequence, rfl⟩ := Prod.mk.inj hpair
      exact hunique.eq (hold _ hf) (hold fact hfact) hsequence
  have hfound := of_decide_eq_true (List.all_eq_true.mp h _ hmem)
  rw [hwitness] at hfound
  exact List.mem_of_find?_eq_some hfound

theorem keepSaved_some {sequence : Int} {head : Option String} {saved kept : MetadataSource}
    (h : keepSaved table sequence head saved = some kept) : kept = saved ∧ saved.sequence ≤ sequence := by
  unfold keepSaved at h
  split at h
  · exact nomatch h
  · next hhead =>
    split at h
    · exact nomatch h
    · refine ⟨(Option.some.inj h).symm, ?_⟩
      by_contra hlt
      exact hhead (.inl (not_le.mp hlt))

/-- **What is left of a catalog is one of the rows that are left of its rows.** -/
theorem savedSource_catalog {previous : Option MetadataSource} {cutoff' : Int} {saved : MetadataSource}
    (hprevious : ∀ p, previous = some p → ∃ old, Remembers source old table cutoff p) (hcutoff : cutoff ≤ cutoff')
    (h : savedSource table source cutoff' previous = some saved) :
    saved.sequence ≤ headSequenceOf table ∧
    Catalog timeLe (fun row => some (actionKey row))
      (table.filter fun row => inCutoff source cutoff' row && row.sequence ≤ saved.sequence) saved.actions ∧
    Catalog factLe MetadataFact.siteId
      (table.filter fun row => inCutoff source cutoff' row && row.sequence ≤ saved.sequence) saved.sites := by
  cases source with
  | core =>
    obtain ⟨p, hp, hkept⟩ := Option.bind_eq_some_iff.mp h
    obtain ⟨rfl, hle⟩ := keepSaved_some hkept
    obtain ⟨old, hold⟩ := hprevious _ hp
    have hleft : ∀ row ∈ table.filter (fun row => inCutoff .core cutoff' row && row.sequence ≤ saved.sequence),
        row ∈ old.filter (inCutoff .core cutoff) := by
      intro row hrow
      obtain ⟨htable, hin⟩ := List.mem_filter.mp hrow
      rw [Bool.and_eq_true] at hin
      exact List.mem_filter.mpr ⟨hold.left row htable (of_decide_eq_true hin.2), rfl⟩
    have hthere : ∀ row ∈ old.filter (inCutoff .core cutoff),
        row ∈ table.filter (fun row => inCutoff .core cutoff' row && row.sequence ≤ saved.sequence) := by
      intro row hrow
      have hin := (List.mem_filter.mp hrow).1
      refine List.mem_filter.mpr ⟨hold.kept rfl row hin, ?_⟩
      rw [Bool.and_eq_true]
      exact ⟨rfl, decide_eq_true (hold.bounded row hin)⟩
    exact ⟨hle, hold.actions.restrict hleft fun k v hmem => hthere v (hold.actions.mem k v hmem).1,
      hold.sites.restrict hleft fun k v hmem => hthere v (hold.sites.mem k v hmem).1⟩
  | activity =>
    obtain ⟨s, hs, hwitnessed⟩ := Option.bind_eq_some_iff.mp h
    obtain ⟨p, hp, hkept⟩ := Option.bind_eq_some_iff.mp hs
    obtain ⟨rfl, hle⟩ := keepSaved_some hkept
    obtain ⟨old, hold⟩ := hprevious _ hp
    unfold keepWitnessed at hwitnessed
    split at hwitnessed
    · next hpresent =>
      obtain rfl := Option.some.inj hwitnessed
      have hactions := hold.actions.expire (p := fun row => cutoff' ≤ row.occurredAt) fun {a b} hab hb => by
        have hlt := of_decide_eq_false hb
        have hle' : a.occurredAt ≤ b.occurredAt := hab
        exact decide_eq_false (by omega)
      have hsites := hold.sites.expire (p := fun row => cutoff' ≤ row.occurredAt) fun {a b} hab hb => by
        have hlt := of_decide_eq_false hb
        rw [factLe_iff] at hab
        exact decide_eq_false (by omega)
      have hold' : ∀ fact ∈ (s.since cutoff').actions.map (·.2) ++ (s.since cutoff').sites.map (·.2),
          fact ∈ (old.filter (inCutoff .activity cutoff)).filter fun row => cutoff' ≤ row.occurredAt := by
        intro fact hfact
        rcases List.mem_append.mp hfact with hfact | hfact
        · obtain ⟨⟨k, v⟩, hmem, rfl⟩ := List.mem_map.mp hfact
          exact (hactions.mem k v hmem).1
        · obtain ⟨⟨k, v⟩, hmem, rfl⟩ := List.mem_map.mp hfact
          exact (hsites.mem k v hmem).1
      have hthere := witnesses_there hold.unique
        (fun fact hfact => (List.mem_filter.mp (List.mem_filter.mp (hold' fact hfact)).1).1) hpresent
      have hleft : ∀ row ∈ table.filter (fun row => inCutoff .activity cutoff' row && row.sequence ≤ s.sequence),
          row ∈ (old.filter (inCutoff .activity cutoff)).filter fun row => cutoff' ≤ row.occurredAt := by
        intro row hrow
        obtain ⟨htable, hin⟩ := List.mem_filter.mp hrow
        simp only [inCutoff, Bool.and_eq_true, Bool.or_eq_true, decide_eq_true_eq, reduceCtorEq, false_or] at hin
        refine List.mem_filter.mpr ⟨List.mem_filter.mpr ⟨hold.left row htable hin.2, ?_⟩, decide_eq_true hin.1⟩
        unfold inCutoff
        rw [Bool.or_eq_true]
        exact .inr (decide_eq_true (le_trans hcutoff hin.1))
      have hrep : ∀ fact ∈ (s.since cutoff').actions.map (·.2) ++ (s.since cutoff').sites.map (·.2),
          fact ∈ table.filter fun row => inCutoff .activity cutoff' row && row.sequence ≤ s.sequence := by
        intro fact hfact
        obtain ⟨hin, hfresh⟩ := List.mem_filter.mp (hold' fact hfact)
        refine List.mem_filter.mpr ⟨hthere fact hfact, ?_⟩
        rw [Bool.and_eq_true]
        refine ⟨?_, decide_eq_true (hold.bounded fact (List.mem_filter.mp hin).1)⟩
        unfold inCutoff
        rw [Bool.or_eq_true]
        exact .inr hfresh
      refine ⟨hle, hactions.restrict hleft fun k v hmem => ?_, hsites.restrict hleft fun k v hmem => ?_⟩
      · exact hrep v (List.mem_append_left _ (List.mem_map.mpr ⟨_, hmem, rfl⟩))
      · exact hrep v (List.mem_append_right _ (List.mem_map.mpr ⟨_, hmem, rfl⟩))
    · exact nomatch hwitnessed

theorem inReach_iff {minimum sequence : Int} {row : MetadataFact} : inReach source minimum sequence cutoff row = true ↔
    minimum < row.sequence ∧ row.sequence ≤ sequence ∧ inCutoff source cutoff row = true := by
  unfold inReach inCutoff
  rw [Bool.and_eq_true, Bool.and_eq_true, decide_eq_true_eq, decide_eq_true_eq, and_assoc]

/-- Rows that split into those of a catalog and those that were read. -/
theorem Catalog.reread {κ : Type} [DecidableEq κ] {le : MetadataFact → MetadataFact → Prop} {key : MetadataFact → Option κ}
    {old new rows : List MetadataFact} {map entries : List (κ × MetadataFact)} (hle : Respects le laterFact)
    (h : Catalog le key old map) (hnew : Reading le key new entries) (hrows : ∀ row, row ∈ rows ↔ row ∈ old ∨ row ∈ new) :
    Catalog le key rows (rememberAll laterFact entries map) := by
  have hboth := h.append hle hnew
  refine hboth.restrict (fun row hrow => List.mem_append.mpr ((hrows row).mp hrow)) fun k v hmem => ?_
  exact (hrows v).mpr (List.mem_append.mp (hboth.mem k v hmem).1)

/-- **A reading is complete**, with a catalog or without. -/
theorem readMetadataSource_complete (picks : MaxRow) {previous : Option MetadataSource} {cutoff' : Int}
    (horder : OrderedFacts table counter)
    (hprevious : ∀ p, previous = some p → ∃ old, Remembers source old table cutoff p) (hcutoff : cutoff ≤ cutoff') :
    Complete source table cutoff' (readMetadataSource picks table source cutoff' previous) := by
  unfold readMetadataSource
  cases hsaved : savedSource table source cutoff' previous with
  | none =>
    have hall : ∀ row, row ∈ table.filter (inCutoff source cutoff') ↔
        row ∈ [] ∨ row ∈ table.filter (inReach source 0 (headSequenceOf table) cutoff') := by
      intro row
      rw [List.mem_filter, List.mem_filter, inReach_iff]
      constructor
      · rintro ⟨htable, hin⟩
        exact .inr ⟨htable, (horder.bounded row htable).1, horder.le_head row htable, hin⟩
      · rintro (hnil | ⟨htable, -, -, hin⟩)
        · exact nomatch hnil
        · exact ⟨htable, hin⟩
    refine ⟨rfl, ?_, ?_⟩
    · exact Catalog.reread respects_timeLe (.nil _ _) (actionRows_reading picks _) hall
    · refine Catalog.reread respects_factLe (.nil _ _) ?_ hall
      cases source with
      | core => exact siteRows_reading _
      | activity => exact coldSiteRows_reading horder.unique fun row hrow => (horder.bounded row hrow).1
  | some saved =>
    obtain ⟨hle, hactions, hsites⟩ := savedSource_catalog hprevious hcutoff hsaved
    dsimp only
    split
    · have hall : ∀ row, row ∈ table.filter (inCutoff source cutoff') ↔
          row ∈ table.filter (fun row => inCutoff source cutoff' row && row.sequence ≤ saved.sequence) ∨
          row ∈ table.filter (inReach source saved.sequence (headSequenceOf table) cutoff') := by
        intro row
        rw [List.mem_filter, List.mem_filter, List.mem_filter, inReach_iff, Bool.and_eq_true, decide_eq_true_eq]
        constructor
        · rintro ⟨htable, hin⟩
          rcases le_or_gt row.sequence saved.sequence with hold | hnew
          · exact .inl ⟨htable, hin, hold⟩
          · exact .inr ⟨htable, hnew, horder.le_head row htable, hin⟩
        · rintro (⟨htable, hin, -⟩ | ⟨htable, -, -, hin⟩)
          · exact ⟨htable, hin⟩
          · exact ⟨htable, hin⟩
      exact ⟨rfl, Catalog.reread respects_timeLe hactions (actionRows_reading picks _) hall,
        Catalog.reread respects_factLe hsites (siteRows_reading _) hall⟩
    · next hlast =>
      -- no row came since
      have hsame : ∀ row, row ∈ table.filter (inCutoff source cutoff') ↔
          row ∈ table.filter (fun row => inCutoff source cutoff' row && row.sequence ≤ saved.sequence) := by
        intro row
        rw [List.mem_filter, List.mem_filter, Bool.and_eq_true, decide_eq_true_eq]
        refine ⟨fun ⟨htable, hin⟩ => ⟨htable, hin, ?_⟩, fun ⟨htable, hin, _⟩ => ⟨htable, hin⟩⟩
        have hhead := horder.le_head row htable
        omega
      refine ⟨rfl, ?_, ?_⟩
      · exact hactions.restrict (fun row hrow => (hsame row).mp hrow) fun k v hmem => (hsame v).mpr (hactions.mem k v hmem).1
      · exact hsites.restrict (fun row hrow => (hsame row).mp hrow) fun k v hmem => (hsame v).mpr (hsites.mem k v hmem).1

/-! ## The order of the choices -/

theorem unitsLe_total : ∀ as bs : List Nat, unitsLe as bs = true ∨ unitsLe bs as = true
  | [], _ => .inl (by cases ‹List Nat› <;> rfl)
  | _ :: _, [] => .inr rfl
  | a :: as, b :: bs => by
    unfold unitsLe
    simp only [Bool.or_eq_true, Bool.and_eq_true, decide_eq_true_eq]
    rcases Nat.lt_trichotomy a b with hlt | heq | hgt
    · exact .inl (.inl hlt)
    · rcases unitsLe_total as bs with h | h
      · exact .inl (.inr ⟨heq, h⟩)
      · exact .inr (.inr ⟨heq.symm, h⟩)
    · exact .inr (.inl hgt)

theorem unitsLe_trans : ∀ {as bs cs : List Nat}, unitsLe as bs = true → unitsLe bs cs = true → unitsLe as cs = true
  | [], _, _, _, _ => by
    unfold unitsLe
    rfl
  | _ :: _, [], _, h, _ => nomatch h
  | _ :: _, _ :: _, [], _, h => nomatch h
  | a :: as, b :: bs, c :: cs, hab, hbc => by
    unfold unitsLe at *
    simp only [Bool.or_eq_true, Bool.and_eq_true, decide_eq_true_eq] at *
    rcases hab with hab | ⟨rfl, hab⟩
    · rcases hbc with hbc | ⟨rfl, -⟩
      · exact .inl (by omega)
      · exact .inl hab
    · rcases hbc with hbc | ⟨rfl, hbc⟩
      · exact .inl hbc
      · exact .inr ⟨rfl, unitsLe_trans hab hbc⟩

theorem unitsLe_antisymm : ∀ {as bs : List Nat}, unitsLe as bs = true → unitsLe bs as = true → as = bs
  | [], [], _, _ => rfl
  | [], _ :: _, _, h => nomatch h
  | _ :: _, [], h, _ => nomatch h
  | a :: as, b :: bs, hab, hba => by
    unfold unitsLe at hab hba
    simp only [Bool.or_eq_true, Bool.and_eq_true, decide_eq_true_eq] at hab hba
    rcases hab with hab | ⟨rfl, hab⟩
    · omega
    · rcases hba with hba | ⟨-, hba⟩
      · omega
      · rw [unitsLe_antisymm hab hba]

/-- A character is one unit outside the surrogates, or two that are surrogates. -/
theorem char_range (c : Char) : c.toNat < 0xD800 ∨ (0xDFFF < c.toNat ∧ c.toNat < 0x110000) := c.valid

theorem utf16Units_injective {a b : String} (h : utf16Units a = utf16Units b) : a = b := by
  refine String.toList_injective ?_
  unfold utf16Units at h
  generalize a.toList = as at h
  generalize b.toList = bs at h
  induction as generalizing bs with
  | nil =>
    cases bs with
    | nil => rfl
    | cons d ds =>
      rw [List.flatMap_nil, List.flatMap_cons] at h
      split at h <;> exact nomatch h
  | cons c cs ih =>
    cases bs with
    | nil =>
      rw [List.flatMap_nil, List.flatMap_cons] at h
      split at h <;> exact nomatch h
    | cons d ds =>
      rw [List.flatMap_cons, List.flatMap_cons] at h
      have hc := char_range c
      have hd := char_range d
      have hsame : ∀ {rest rest' : List Nat}, c.toNat = d.toNat → rest = rest' → c = d ∧ rest = rest' :=
        fun heq hrest => ⟨Char.toNat_inj.mp heq, hrest⟩
      by_cases hcs : c.toNat < 0x10000
      · by_cases hds : d.toNat < 0x10000
        · rw [if_pos hcs, if_pos hds] at h
          obtain ⟨hunit, hrest⟩ := List.cons.inj h
          rw [Char.toNat_inj.mp hunit, ih ds hrest]
        · rw [if_pos hcs, if_neg hds] at h
          have hunit := (List.cons.inj h).1
          omega
      · by_cases hds : d.toNat < 0x10000
        · rw [if_neg hcs, if_pos hds] at h
          have hunit := (List.cons.inj h).1
          omega
        · rw [if_neg hcs, if_neg hds] at h
          obtain ⟨hhigh, hrest⟩ := List.cons.inj h
          obtain ⟨hlow, hrest⟩ := List.cons.inj hrest
          have hunit : c.toNat = d.toNat := by omega
          rw [Char.toNat_inj.mp hunit, ih ds hrest]

theorem name_injective : ∀ a b : AuditCategory, a.name = b.name → a = b := by
  intro a b h
  cases a <;> cases b <;> first | rfl | exact absurd h (by decide)

theorem actionChoiceLe_total (a b : ActionChoice) : actionChoiceLe a b = true ∨ actionChoiceLe b a = true := by
  unfold actionChoiceLe
  by_cases h : a.category.name = b.category.name
  · rw [if_pos h, if_pos h.symm]
    exact unitsLe_total _ _
  · rw [if_neg h, if_neg (Ne.symm h)]
    exact unitsLe_total _ _

theorem actionChoiceLe_antisymm {a b : ActionChoice} (hab : actionChoiceLe a b = true) (hba : actionChoiceLe b a = true) : a = b := by
  unfold actionChoiceLe at hab hba
  by_cases h : a.category.name = b.category.name
  · rw [if_pos h] at hab
    rw [if_pos h.symm] at hba
    have haction := utf16Units_injective (unitsLe_antisymm hab hba)
    have hcategory := name_injective _ _ h
    cases a
    cases b
    exact congr (congrArg ActionChoice.mk haction) hcategory
  · rw [if_neg h] at hab
    rw [if_neg (Ne.symm h)] at hba
    exact absurd (utf16Units_injective (unitsLe_antisymm hab hba)) h

theorem actionChoiceLe_trans {a b c : ActionChoice} (hab : actionChoiceLe a b = true) (hbc : actionChoiceLe b c = true) :
    actionChoiceLe a c = true := by
  unfold actionChoiceLe at *
  by_cases h1 : a.category.name = b.category.name
  · rw [if_pos h1] at hab
    rw [h1]
    by_cases h2 : b.category.name = c.category.name
    · rw [if_pos h2] at hbc ⊢
      exact unitsLe_trans hab hbc
    · rw [if_neg h2] at hbc ⊢
      exact hbc
  · rw [if_neg h1] at hab
    by_cases h2 : b.category.name = c.category.name
    · rw [← h2, if_neg h1]
      exact hab
    · rw [if_neg h2] at hbc
      rw [if_neg]
      · exact unitsLe_trans hab hbc
      · intro h3
        rw [h3] at hab
        exact h2 (utf16Units_injective (unitsLe_antisymm hbc hab))

/-- The same choices come in the same order. -/
theorem sorted_choices {as bs : List ActionChoice} (h : as.Perm bs) :
    as.insertionSort (fun a b => actionChoiceLe a b) = bs.insertionSort fun a b => actionChoiceLe a b := by
  have : Std.Total fun a b : ActionChoice => actionChoiceLe a b = true := ⟨actionChoiceLe_total⟩
  have : IsTrans ActionChoice fun a b => actionChoiceLe a b = true := ⟨fun _ _ _ => actionChoiceLe_trans⟩
  refine List.Perm.eq_of_pairwise (fun a b _ _ => actionChoiceLe_antisymm) (List.pairwise_insertionSort _ as)
    (List.pairwise_insertionSort _ bs) ?_
  exact ((List.perm_insertionSort _ as).trans h).trans (List.perm_insertionSort _ bs).symm

/-! ## The choices of a catalog -/

/-- Two complete readings. -/
structure SameRows (trail : Trail) (cutoff : Int) (a b : MetadataCatalog) : Prop where
  coreLeft : Complete .core (metadataProjection trail .core) cutoff a.core
  coreRight : Complete .core (metadataProjection trail .core) cutoff b.core
  activityLeft : Complete .activity (metadataProjection trail .activity) cutoff a.activity
  activityRight : Complete .activity (metadataProjection trail .activity) cutoff b.activity

/-- The choice that a key stands for. -/
theorem actionFacts_choices {trail : Trail} {a : MetadataCatalog} (hcore : Complete .core (metadataProjection trail .core) cutoff a.core)
    (hactivity : Complete .activity (metadataProjection trail .activity) cutoff a.activity) :
    Keyed a.actionFacts ∧ (a.actionFacts.map fun entry => (⟨entry.2.action, entry.2.category⟩ : ActionChoice)) =
      (a.actionFacts.map (·.1)).map fun key => ⟨key.2, key.1⟩ := by
  obtain ⟨hkeyed, hfrom, -⟩ := setAll_spec a.activity.actions hcore.actions.keyed
  refine ⟨hkeyed, ?_⟩
  rw [List.map_map]
  refine List.map_congr_left fun entry hentry => ?_
  have hkey : actionKey entry.2 = entry.1 := by
    rcases hfrom entry.1 entry.2 hentry with hmem | hmem
    · exact Option.some.inj (hcore.actions.mem _ _ hmem).2
    · exact Option.some.inj (hactivity.actions.mem _ _ hmem).2
  rw [Function.comp_apply, ← hkey]
  rfl

theorem SameRows.actions {trail : Trail} {a b : MetadataCatalog} (h : SameRows trail cutoff a b) :
    (a.actionFacts.map fun entry => (⟨entry.2.action, entry.2.category⟩ : ActionChoice)).Perm
      (b.actionFacts.map fun entry => ⟨entry.2.action, entry.2.category⟩) := by
  obtain ⟨hkeyed, hchoices⟩ := actionFacts_choices h.coreLeft h.activityLeft
  obtain ⟨hkeyed', hchoices'⟩ := actionFacts_choices h.coreRight h.activityRight
  rw [hchoices, hchoices']
  refine List.Perm.map _ ((List.perm_ext_iff_of_nodup hkeyed hkeyed').mpr fun key => ?_)
  obtain ⟨-, -, hkeys⟩ := setAll_spec a.activity.actions h.coreLeft.actions.keyed
  obtain ⟨-, -, hkeys'⟩ := setAll_spec b.activity.actions h.coreRight.actions.keyed
  refine (hkeys key).trans (Iff.trans ?_ (hkeys' key).symm)
  rw [(h.coreLeft.actions.keys_perm h.coreRight.actions).mem_iff,
    (h.activityLeft.actions.keys_perm h.activityRight.actions).mem_iff]

theorem SameRows.sites {trail : Trail} {a b : MetadataCatalog} (h : SameRows trail cutoff a b)
    (horder : ∀ source, ∃ counter, OrderedFacts (metadataProjection trail source) counter) :
    a.siteFacts.Perm b.siteFacts := by
  have hanti : ∀ source, ∀ x ∈ (metadataProjection trail source).filter (inCutoff source cutoff),
      ∀ y ∈ (metadataProjection trail source).filter (inCutoff source cutoff), factLe x y → factLe y x → x = y := by
    intro source
    obtain ⟨counter, hcounter⟩ := horder source
    exact factLe_antisymm (hcounter.unique.filter _)
  exact rememberAll_perm h.coreLeft.sites.keyed h.activityLeft.sites.keyed
    (h.coreLeft.sites.perm h.coreRight.sites (hanti .core)) (h.activityLeft.sites.perm h.activityRight.sites (hanti .activity))

theorem siteChoices_perm {facts facts' : List (String × MetadataFact)} (hkeyed : Keyed facts) (h : facts.Perm facts')
    (sites : List SiteRow) : (siteChoices facts sites).Perm (siteChoices facts' sites) := by
  refine setAll_perm _ ?_ (h.map _)
  unfold Keyed at *
  rw [List.map_map]
  exact hkeyed

/-- **The same rows give the same choices.** -/
theorem SameRows.metadata {trail : Trail} {a b : MetadataCatalog} (h : SameRows trail cutoff a b)
    (horder : ∀ source, ∃ counter, OrderedFacts (metadataProjection trail source) counter) (collation : Collation)
    (sites : List SiteRow) : (a.metadata collation sites).actions = (b.metadata collation sites).actions ∧
      (a.metadata collation sites).sites.Perm (b.metadata collation sites).sites := by
  refine ⟨sorted_choices h.actions, ?_⟩
  have hkeyed : Keyed a.siteFacts := keyed_rememberAll _ h.coreLeft.sites.keyed
  have hchoices := (siteChoices_perm hkeyed (h.sites horder) sites).map (·.2)
  exact ((List.perm_insertionSort _ _).trans hchoices).trans (List.perm_insertionSort _ _).symm

end PerPay.Audit
