/-
  **Exclusion.**

  A lock is published by a link that replaces nothing, so as long as the name of its lock stands, nobody else owns
  one; and only a release and a clear command take the name away.  That holds in every run.

  A clear command looks at the lock, links a tombstone to it, looks again, and removes the name.  Between the last
  look and the removal nothing holds the name for it: where the owner releases the lock, or a second command
  clears it, another process may publish one, and the command removes that.  `isApart` says when this does not happen, and
  the two smaller things that a clear command may leave behind for others: a lock with three names, and a
  tombstone beside a lock that is still owned.
-/
import PerPay.Backup.Moves

namespace PerPay.Backup

/-! ## The condition -/

/-- A clear command has looked for the last time, and is about to remove the public name. -/
def Phase.isUnlinking : Phase → Bool
  | .reclaiming _ (.unlinking _) => true
  | _ => false

/-- No lock is published while a clear command is about to remove the name; a tombstone is linked to a lock with one name;
    no clear command dies with its tombstone beside the lock of a process that is there. -/
def LockState.isApart (s : LockState) : LockCall → Bool
  | .advance p _ =>
    match s.phase p with
    | .drafting _ (.linking _) =>
      (s.directory.lookup .lock).isSome || s.phases.entries.all fun e => !e.2.isUnlinking
    | .burying .. => (s.directory.lookup .lock).all fun token => s.directory.links token = 1
    | _ => true
  | .crash p =>
    (s.phase p).tombstone.all fun u =>
      (s.directory.lookup (.reclaim u)).all fun token => !(s.directory.lookup .lock = some token && s.isLive token)
  | _ => true

/-- The runs in which clear commands keep apart from the others. -/
def apartSystem : Runs.System LockState LockCall := lockSystem.restrict fun s call => s.isApart call = true

theorem LockState.isUnlinking_eq_false {s : LockState} (h : (s.phases.entries.all fun e => !e.2.isUnlinking) = true) (p : Nat) :
    (s.phase p).isUnlinking = false := by
  unfold LockState.phase
  cases hp : s.phases.lookup p with
  | none => rfl
  | some phase =>
    have hmem : (⟨p, phase⟩ : Sigma fun _ : Nat => Phase) ∈ s.phases.entries := AList.mem_lookup_iff.mp hp
    simpa using List.all_eq_true.mp h _ hmem

theorem LockState.links_of_isApart {s : LockState} {p : Nat} {choice : Choice} {e token : Token} {b : Nat}
    (h : s.isApart (.advance p choice) = true) (hphase : s.phase p = .burying e b) (hl : s.directory.lookup .lock = some token) :
    s.directory.links token = 1 := by
  unfold LockState.isApart at h
  dsimp only at h
  rw [hphase] at h
  dsimp only at h
  rw [hl] at h
  exact of_decide_eq_true h

theorem LockState.noneUnlinking_of_isApart {s : LockState} {p : Nat} {choice : Choice} {token : Token} {identity : Nat}
    (h : s.isApart (.advance p choice) = true) (hphase : s.phase p = .drafting token (.linking identity))
    (hl : s.directory.lookup .lock = none) (q : Nat) : (s.phase q).isUnlinking = false := by
  unfold LockState.isApart at h
  dsimp only at h
  rw [hphase] at h
  dsimp only at h
  rw [hl, Option.isSome_none, Bool.false_or] at h
  exact LockState.isUnlinking_eq_false h q

/-! ## What a move leaves alone -/

section
variable {s s' : LockState} {p : Nat}

theorem LockMove.other (h : LockMove s p s') {q : Nat} (hq : q ≠ p) : s'.phase q = s.phase q := by
  cases h with
  | create phase created =>
    obtain ⟨-, rfl⟩ := create_eq created
    exact LockState.phase_goTo_other _ _ hq
  | bury phase found =>
    rw [bury_eq found]
    exact LockState.phase_goTo_other _ _ hq
  | _ => exact LockState.phase_goTo_other _ _ hq

/-- A process that leaves its tombstone has taken it away. -/
theorem LockMove.tombstone (h : LockMove s p s') {u : Nat} {token : Token} (hu : (s.phase p).tombstone = some u)
    (hl : s'.directory.lookup (.reclaim u) = some token) : (s'.phase p).tombstone = some u := by
  have absurd_phase : ∀ {phase : Phase}, s.phase p = phase → phase.tombstone = none → (s'.phase p).tombstone = some u :=
    fun hphase hnone => nomatch (hphase ▸ hu : Phase.tombstone _ = some u).symm.trans hnone
  cases h with
  | rest free gone => nomatch (gone u hu).symm.trans hl
  | take free gone =>
    rw [gone u hu] at hl
    exact absurd rfl (Directory.lookup_erase_iff.mp hl).1
  | create phase created => exact absurd_phase phase rfl
  | write phase => exact absurd_phase phase rfl
  | inspect phase found => exact absurd_phase phase rfl
  | publish phase found absent => exact absurd_phase phase rfl
  | settle phase => exact absurd_phase phase rfl
  | settled phase gone => exact absurd_phase phase rfl
  | own phase was is => exact absurd_phase phase rfl
  | release phase => exact absurd_phase phase rfl
  | bury phase found => exact absurd_phase phase rfl
  | reclaim phase is | agree phase same | clear phase found =>
    rw [LockState.phase_goTo_self, ← hu, phase]
    rfl

/-- A tombstone is there already, or is linked to the lock. -/
theorem LockMove.reclaimName (h : LockMove s p s') {u : Nat} {token : Token} (hl : s'.directory.lookup (.reclaim u) = some token) :
    s.directory.lookup (.reclaim u) = some token ∨
      (u = s.nextTombstone ∧ (s'.phase p).tombstone = some u ∧ s.directory.lookup .lock = some token ∧
        ∃ e b, s.phase p = .burying e b) := by
  cases h with
  | create phase created =>
    obtain ⟨-, rfl⟩ := create_eq created
    rcases Directory.lookup_insert_iff.mp hl with ⟨hn, -⟩ | ⟨-, hl⟩
    · exact absurd hn.symm (create_ne_reclaim _ _)
    · exact .inl hl
  | publish phase found absent =>
    rcases Directory.lookup_insert_iff.mp hl with ⟨hn, -⟩ | ⟨-, hl⟩
    · exact absurd hn.symm (lock_ne _)
    · exact .inl hl
  | bury phase found =>
    rw [bury_eq found] at hl ⊢
    rcases Directory.lookup_insert_iff.mp hl with ⟨hn, rfl⟩ | ⟨-, hl⟩
    · have hu : u = s.nextTombstone := Artifact.reclaim.inj (LockName.temporary.inj hn)
      refine .inr ⟨hu, ?_, found, _, _, phase⟩
      rw [LockState.phase_goTo_self, hu]
      rfl
    · exact .inl hl
  | take | settle | release | clear => exact .inl (Directory.lookup_erase_iff.mp hl).2
  | rest | write | inspect | settled | own | reclaim | agree => exact .inl hl

/-- A creation name is there already, or is new. -/
theorem LockMove.createName (h : LockMove s p s') {token : Token} (ht : token < s.nextToken)
    (hl : s.directory.lookup (.create token) = none) : s'.directory.lookup (.create token) = none := by
  rw [Option.eq_none_iff_forall_ne_some] at hl ⊢
  intro file hl'
  refine hl file ?_
  cases h with
  | create phase created =>
    obtain ⟨-, rfl⟩ := create_eq created
    rcases Directory.lookup_insert_iff.mp hl' with ⟨hn, -⟩ | ⟨-, hl'⟩
    · exact absurd (Artifact.create.inj (LockName.temporary.inj hn)) (Nat.ne_of_lt ht)
    · exact hl'
  | publish phase found absent =>
    rcases Directory.lookup_insert_iff.mp hl' with ⟨hn, -⟩ | ⟨-, hl'⟩
    · exact absurd hn.symm (lock_ne _)
    · exact hl'
  | bury phase found =>
    rw [bury_eq found] at hl'
    rcases Directory.lookup_insert_iff.mp hl' with ⟨hn, -⟩ | ⟨-, hl'⟩
    · exact absurd hn (create_ne_reclaim _ _)
    · exact hl'
  | take | settle | release | clear => exact (Directory.lookup_erase_iff.mp hl').2
  | rest | write | inspect | settled | own | reclaim | agree => exact hl'

/-- The lock is the one that was there, or is published. -/
theorem LockMove.lockName (h : LockMove s p s') {token : Token} (hl : s'.directory.lookup .lock = some token) :
    s.directory.lookup .lock = some token ∨
      (s.directory.lookup .lock = none ∧ ∃ t identity, s.phase p = .drafting t (.linking identity) ∧
        s.directory.lookup (.create t) = some token) := by
  cases h with
  | create phase created =>
    obtain ⟨-, rfl⟩ := create_eq created
    rcases Directory.lookup_insert_iff.mp hl with ⟨hn, -⟩ | ⟨-, hl⟩
    · exact absurd hn (lock_ne _)
    · exact .inl hl
  | publish phase found absent =>
    rcases Directory.lookup_insert_iff.mp hl with ⟨-, rfl⟩ | ⟨hn, -⟩
    · exact .inr ⟨absent, _, _, phase, found⟩
    · exact absurd rfl hn
  | bury phase found =>
    rw [bury_eq found] at hl
    rcases Directory.lookup_insert_iff.mp hl with ⟨hn, -⟩ | ⟨-, hl⟩
    · exact absurd hn (lock_ne _)
    · exact .inl hl
  | take | settle | release | clear => exact .inl (Directory.lookup_erase_iff.mp hl).2
  | rest | write | inspect | settled | own | reclaim | agree => exact .inl hl

/-- Nobody comes to own a lock other than by publishing it. -/
theorem LockMove.lockPhase (h : LockMove s p s') {token : Token} (hp : (s'.phase p).lock = some token) :
    (s.phase p).lock = some token ∨ s.directory.lookup .lock = none := by
  have absurd_phase : ∀ {phase : Phase}, s'.phase p = phase → phase.lock = none →
      (s.phase p).lock = some token ∨ s.directory.lookup .lock = none :=
    fun hphase hnone => nomatch (hphase ▸ hp : Phase.lock _ = some token).symm.trans hnone
  have lock_of_free : ∀ {phase : Phase}, phase.isFree = true → phase.lock = none := by
    intro phase hfree
    cases phase with
    | owning => nomatch hfree
    | _ => rfl
  cases h with
  | rest free gone | take free gone => exact absurd_phase (LockState.phase_goTo_self ..) (lock_of_free free)
  | create phase created =>
    obtain ⟨-, rfl⟩ := create_eq created
    exact absurd_phase (LockState.phase_goTo_self ..) rfl
  | publish phase found absent => exact .inr absent
  | settle phase | settled phase gone | own phase was is =>
    rw [LockState.phase_goTo_self] at hp
    rw [phase]
    exact .inl hp
  | bury phase found =>
    rw [bury_eq found, LockState.phase_goTo_self] at hp
    nomatch hp
  | write | inspect | release | reclaim | agree | clear => exact absurd_phase (LockState.phase_goTo_self ..) rfl

/-- A clear command is about to remove the name where it has just found its token. -/
theorem LockMove.unlinking (h : LockMove s p s') {u : Nat} {expectedToken : Token}
    (hp : s'.phase p = .reclaiming u (.unlinking expectedToken)) : s.directory.lookup .lock = some expectedToken := by
  cases h with
  | rest free gone | take free gone =>
    rw [LockState.phase_goTo_self] at hp
    rw [hp] at free
    nomatch free
  | create phase created =>
    obtain ⟨-, rfl⟩ := create_eq created
    rw [LockState.phase_goTo_self] at hp
    nomatch hp
  | bury phase found =>
    rw [bury_eq found, LockState.phase_goTo_self] at hp
    nomatch (Phase.reclaiming.inj hp).2
  | reclaim phase is =>
    rw [LockState.phase_goTo_self] at hp
    exact absurd (Phase.reclaiming.inj hp).2 (is expectedToken)
  | agree phase same =>
    rw [LockState.phase_goTo_self] at hp
    rwa [Reclaim.unlinking.inj (Phase.reclaiming.inj hp).2] at same
  | clear phase found =>
    rw [LockState.phase_goTo_self] at hp
    nomatch (Phase.reclaiming.inj hp).2
  | write | inspect | publish | settle | settled | own | release =>
    refine absurd ((LockState.phase_goTo_self ..).symm.trans hp) ?_
    exact nofun

/-- Files keep their owners. -/
theorem LockMove.owner (h : LockMove s p s') {token : Token} (ht : token < s.nextToken) :
    (s'.files token).owner = (s.files token).owner := by
  cases h with
  | create phase created =>
    obtain ⟨-, rfl⟩ := create_eq created
    show (if token = s.nextToken then _ else s.files token).owner = _
    rw [if_neg (Nat.ne_of_lt ht)]
  | @write t phase =>
    show (if token = t then _ else s.files token).owner = _
    split
    · next ht => rw [ht]
    · rfl
  | bury phase found => rw [bury_eq found]; rfl
  | _ => rfl

theorem LockMove.live (h : LockMove s p s') (hf : LockFiles s) {token : Token} (hl : s.directory.lookup .lock = some token)
    (hlive : s'.isLive token = true) : s.isLive token = true := by
  unfold LockState.isLive at hlive ⊢
  rw [h.owner (hf.tokens _ _ hl)] at hlive
  replace hlive := of_decide_eq_true hlive
  refine decide_eq_true ?_
  by_cases hp : (s.files token).owner = p
  · rw [hp] at hlive ⊢
    exact (h.lockPhase hlive).resolve_right fun habsent => nomatch habsent.symm.trans hl
  · rwa [h.other hp] at hlive

/-- What clear commands removed is what they removed before, or what they remove now. -/
theorem LockMove.removed (h : LockMove s p s') {e : Token × Token} (he : e ∈ s'.removed) :
    e ∈ s.removed ∨ ∃ u, s.phase p = .reclaiming u (.unlinking e.1) ∧ s.directory.lookup .lock = some e.2 := by
  cases h with
  | create phase created =>
    obtain ⟨-, rfl⟩ := create_eq created
    exact .inl he
  | bury phase found =>
    rw [bury_eq found] at he
    exact .inl he
  | clear phase found =>
    rcases List.mem_append.mp he with he | he
    · exact .inl he
    · rw [List.mem_singleton.mp he]
      exact .inr ⟨_, phase, found⟩
  | _ => exact .inl he

end

/-! ## Runs apart -/

/-- A tombstone is the only name of a file, but for the public one. -/
def BuriedOnce (directory : Directory LockName Token) : Prop :=
  ∀ u token, directory.lookup (.reclaim u) = some token →
    directory.lookup (.create token) = none ∧ ∀ u', directory.lookup (.reclaim u') = some token → u' = u

theorem BuriedOnce.erase {directory : Directory LockName Token} (h : BuriedOnce directory) (name : LockName) :
    BuriedOnce (directory.erase name) := by
  intro u token hu
  obtain ⟨hcreate, honly⟩ := h u token (Directory.lookup_erase_iff.mp hu).2
  refine ⟨?_, fun u' hu' => honly u' (Directory.lookup_erase_iff.mp hu').2⟩
  rw [Option.eq_none_iff_forall_ne_some] at hcreate ⊢
  exact fun file hfile => hcreate file (Directory.lookup_erase_iff.mp hfile).2

structure Apart (s : LockState) : Prop where
  once : BuriedOnce s.directory
  /-- a tombstone beside the lock of a process that is there belongs to a clear command that runs -/
  accounted : ∀ u token, s.directory.lookup (.reclaim u) = some token → s.directory.lookup .lock = some token →
    s.isLive token = true → ∃ q, (s.phase q).tombstone = some u
  agreed : ∀ q u expectedToken, s.phase q = .reclaiming u (.unlinking expectedToken) →
    ∀ token, s.directory.lookup .lock = some token → token = expectedToken
  removed : ∀ e ∈ s.removed, e.1 = e.2

section
variable {s s' : LockState} {p : Nat}

theorem Apart.advance {choice : Choice} (h : Apart s) (hf : LockFiles s) (hapart : s.isApart (.advance p choice) = true)
    (hmove : LockMove s p s') : Apart s' where
  once u token hu := by
    rcases hmove.reclaimName hu with hu | ⟨rfl, -, hlock, e, b, hphase⟩
    · obtain ⟨hcreate, honly⟩ := h.once u token hu
      refine ⟨hmove.createName (hf.tokens _ _ hu) hcreate, fun u' hu' => ?_⟩
      rcases hmove.reclaimName hu' with hu' | ⟨-, -, hlock, e, b, hphase⟩
      · exact honly u' hu'
      · have hone := LockState.links_of_isApart hapart hphase hlock
        exact absurd (Directory.only_name hone hlock hu) (lock_ne _).symm
    · have hone := LockState.links_of_isApart hapart hphase hlock
      refine ⟨hmove.createName (hf.tokens _ _ hlock) ?_, fun u' hu' => ?_⟩
      · rw [Option.eq_none_iff_forall_ne_some]
        intro file hfile
        rw [hf.created token file hfile] at hfile
        exact absurd (Directory.only_name hone hlock hfile) (lock_ne _).symm
      · rcases hmove.reclaimName hu' with hu' | ⟨hu', -⟩
        · exact absurd (Directory.only_name hone hlock hu') (lock_ne _).symm
        · exact hu'
  accounted u token hu hlock hlive := by
    rcases hmove.reclaimName hu with hu' | ⟨-, hphase, -⟩
    · rcases hmove.lockName hlock with hlock | ⟨-, t, identity, hphase, hcreate⟩
      · obtain ⟨q, hq⟩ := h.accounted u token hu' hlock (hmove.live hf hlock hlive)
        refine ⟨q, ?_⟩
        by_cases hqp : q = p
        · subst hqp
          exact hmove.tombstone hq hu
        · rw [hmove.other hqp]
          exact hq
      · -- what is published had no other name
        have hnames := (hf.phase hphase).2.2.1
        rw [hf.created t token hcreate] at hu'
        exact absurd (hnames _ hu').symm (create_ne_reclaim _ _)
    · exact ⟨p, hphase⟩
  agreed q u expectedToken hq token hlock := by
    rcases hmove.lockName hlock with hlock' | ⟨habsent, t, identity, hphase, hcreate⟩
    · by_cases hqp : q = p
      · subst hqp
        exact Option.some.inj (hlock'.symm.trans (hmove.unlinking hq))
      · rw [hmove.other hqp] at hq
        exact h.agreed q u expectedToken hq token hlock'
    · -- no clear command is about to remove the name
      by_cases hqp : q = p
      · subst hqp
        nomatch habsent.symm.trans (hmove.unlinking hq)
      · rw [hmove.other hqp] at hq
        have hnot := LockState.noneUnlinking_of_isApart hapart hphase habsent q
        rw [hq] at hnot
        nomatch hnot
  removed e he := by
    rcases hmove.removed he with he | ⟨u, hphase, hlock⟩
    · exact h.removed e he
    · exact (h.agreed p u e.1 hphase e.2 hlock).symm

/-- A process that had no tombstone goes to another phase. -/
theorem Apart.goTo {phase : Phase} (h : Apart s) (hwas : (s.phase p).tombstone = none) (hphase : phase.isUnlinking = false)
    (hlock : phase.lock = none ∨ phase.lock = (s.phase p).lock) : Apart (s.goTo p phase) where
  once := h.once
  accounted u token hu hl hlive := by
    have hlive' : s.isLive token = true := by
      unfold LockState.isLive at hlive ⊢
      rw [LockState.phase_goTo] at hlive
      split at hlive
      · next hp =>
          rw [show (s.files token).owner = p from hp]
          rcases hlock with hlock | hlock
          · rw [hlock] at hlive
            nomatch of_decide_eq_true hlive
          · rwa [hlock] at hlive
      · exact hlive
    obtain ⟨q, hq⟩ := h.accounted u token hu hl hlive'
    have hqp : q ≠ p := by
      rintro rfl
      nomatch hwas.symm.trans hq
    exact ⟨q, by rwa [LockState.phase_goTo_other _ _ hqp]⟩
  agreed q u expectedToken hq := by
    have hqp : q ≠ p := by
      rintro rfl
      rw [LockState.phase_goTo_self] at hq
      rw [hq] at hphase
      nomatch hphase
    rw [LockState.phase_goTo_other _ _ hqp] at hq
    exact h.agreed q u expectedToken hq
  removed := h.removed

theorem Apart.crash (h : Apart s) (hapart : s.isApart (.crash p) = true) : Apart (s.goTo p .crashed) where
  once := h.once
  accounted u token hu hl hlive := by
    have hlive' : s.isLive token = true := by
      unfold LockState.isLive at hlive ⊢
      rw [LockState.phase_goTo] at hlive
      split at hlive
      · nomatch of_decide_eq_true hlive
      · exact hlive
    obtain ⟨q, hq⟩ := h.accounted u token hu hl hlive'
    have hqp : q ≠ p := by
      rintro rfl
      unfold LockState.isApart at hapart
      dsimp only at hapart
      replace hu : s.directory.lookup (.reclaim u) = some token := hu
      replace hl : s.directory.lookup .lock = some token := hl
      rw [hq, Option.all_some, hu, Option.all_some, hl, hlive', decide_eq_true rfl] at hapart
      nomatch hapart
    exact ⟨q, by rwa [LockState.phase_goTo_other _ _ hqp]⟩
  agreed q u expectedToken hq := by
    have hqp : q ≠ p := by
      rintro rfl
      rw [LockState.phase_goTo_self] at hq
      nomatch hq
    rw [LockState.phase_goTo_other _ _ hqp] at hq
    exact h.agreed q u expectedToken hq
  removed := h.removed

theorem Apart.step {call : LockCall} (h : Apart s) (hf : LockFiles s) (hapart : s.isApart call = true)
    (hs : lockStep s call = some s') : Apart s' := by
  unfold lockStep at hs
  cases call with
  | acquire p now | read p | clear p expectedToken now =>
    dsimp only at hs
    split at hs
    · next hidle =>
        rw [← Option.some.inj hs]
        exact h.goTo (by rw [hidle]; rfl) rfl (.inl rfl)
    · nomatch hs
  | inspect p =>
    rw [← Option.some.inj hs]
    exact h
  | release p =>
    dsimp only at hs
    split at hs
    · next hphase =>
        rw [← Option.some.inj hs]
        exact h.goTo (by rw [hphase]; rfl) rfl (.inr (by rw [hphase]; rfl))
    · nomatch hs
  | crash p =>
    rw [← Option.some.inj hs]
    exact h.crash hapart
  | advance p choice => exact h.advance hf hapart (advance_move hs)

theorem Apart.initial : Apart .initial := ⟨nofun, nofun, nofun, nofun⟩

end

/-! ## Owners -/

/-- The process holds the lock: it was acquired, and its release has not removed it yet. -/
def Phase.holds : Phase → Bool
  | .owning _ _ .holding | .owning _ _ (.releasing _) => true
  | _ => false

/-- The process runs a clear command. -/
def Phase.isClearing : Phase → Bool
  | .recovering (.clear ..) _ | .recovering (.check ..) _ | .recovering (.confirm ..) _ => true
  | .reading (.check ..) _ | .reading (.confirm ..) _ => true
  | .marking _ | .burying .. | .reclaiming .. => true
  | _ => false

theorem Phase.owning_of_holds {phase : Phase} (h : phase.holds = true) : ∃ token identity ownership,
    phase = .owning token identity ownership := by
  cases phase with
  | owning token identity ownership => exact ⟨token, identity, ownership, rfl⟩
  | _ => nomatch h

section
variable {s : LockState} {p : Nat}

/-- While no clear command has taken the lock of a process that was there, two owners are one. -/
theorem LockFiles.exclusive (hf : LockFiles s) (hclear : s.clearedLive = false) {q : Nat}
    (hp : (s.phase p).holds = true) (hq : (s.phase q).holds = true) : p = q := by
  obtain ⟨token, identity, ownership, hphase⟩ := Phase.owning_of_holds hp
  obtain ⟨token', identity', ownership', hphase'⟩ := Phase.owning_of_holds hq
  obtain ⟨-, howner, -, -, hpublic⟩ := hf.phase hphase
  obtain ⟨-, howner', -, -, hpublic'⟩ := hf.phase hphase'
  have hnot : s.clearedLive ≠ true := Bool.eq_false_iff.mp hclear
  rw [← howner, ← howner', Option.some.inj ((hpublic.resolve_left hnot).symm.trans (hpublic'.resolve_left hnot))]

theorem LockFiles.isOwn (hf : LockFiles s) {token identity : Nat} {ownership : Ownership}
    (hphase : s.phase p = .owning token identity ownership) (hlock : s.directory.lookup .lock = some token)
    (hlinks : s.directory.links token = 1) : s.isOwn identity = true ∧ s.readToken = some token := by
  have hino := (hf.phase hphase).2.2.1
  constructor
  · unfold LockState.isOwn LockState.lstat
    rw [hlock, Option.map_some, Option.any_some, hlinks, hino]
    simp
  · unfold LockState.readToken
    rw [hlock]
    exact Option.filter_some_pos (hf.written token hlock)

/-- The lock of a process that holds it has one name when no clear command runs. -/
theorem Apart.isOwn (h : Apart s) (hf : LockFiles s) {token identity : Nat} {look : Look}
    (hphase : s.phase p = .owning token identity (.releasing look)) (hclear : s.clearedLive = false)
    (hnone : ∀ q, (s.phase q).isClearing = false) :
    s.directory.lookup .lock = some token ∧ s.isOwn identity = true ∧ s.readToken = some token := by
  obtain ⟨-, howner, -, hcreate, hpublic⟩ := hf.phase hphase
  have hlock := hpublic.resolve_left (Bool.eq_false_iff.mp hclear)
  have hlive : s.isLive token = true := by
    unfold LockState.isLive
    rw [howner, hphase]
    exact decide_eq_true rfl
  have hlinks : s.directory.links token = 1 := by
    refine Directory.links_eq_one hlock fun name hname => ?_
    match name with
    | .lock => rfl
    | .create t =>
      rw [← hf.created t token hname] at hname
      nomatch (hcreate nofun).symm.trans hname
    | .reclaim u =>
      obtain ⟨q, hq⟩ := h.accounted u token hname hlock hlive
      have hclearing := hnone q
      cases hqphase : s.phase q with
      | reclaiming => rw [hqphase] at hclearing; nomatch hclearing
      | _ => rw [hqphase] at hq; nomatch hq
  exact ⟨hlock, hf.isOwn hphase hlock hlinks⟩

/-- Where `release` goes on when nothing is wrong; its last step removes the lock. -/
def LockState.released (s : LockState) (p : Nat) (token identity : Nat) : Look → LockState
  | .before => s.goTo p (.owning token identity (.releasing .reading))
  | .reading => s.goTo p (.owning token identity (.releasing .after))
  | .after => (s.unlink .lock).goTo p .idle

theorem Apart.releases (h : Apart s) (hf : LockFiles s) {token identity : Nat} {look : Look}
    (hphase : s.phase p = .owning token identity (.releasing look)) (hclear : s.clearedLive = false)
    (hnone : ∀ q, (s.phase q).isClearing = false) (choice : Choice) :
    s.directory.lookup .lock = some token ∧ s.advance p choice = some (s.released p token identity look) := by
  obtain ⟨hlock, hown, hread⟩ := h.isOwn hf hphase hclear hnone
  refine ⟨hlock, ?_⟩
  unfold LockState.advance
  rw [hphase]
  cases look with
  | before =>
    show some (s.goTo p (.owning token identity (if s.isOwn identity then .releasing .reading else .holding))) = _
    rw [hown]
    rfl
  | reading =>
    show some (s.goTo p (.owning token identity (if s.readToken = some token then .releasing .after else .holding))) = _
    rw [if_pos hread]
    rfl
  | after =>
    unfold LockState.own
    dsimp only
    rw [hlock]
    rfl

end

end PerPay.Backup
