/-
  **A process that runs alone.**

  Whatever others left behind where they stopped, a process that is let run from there gets through the artifacts: each
  is the only name of its file, or the second one of the lock.  So it reads the lock if there is one, and acquires
  it if there is none.
-/
import PerPay.Backup.Exclusion
import Mathlib.Logic.Relation
import Mathlib.Data.Fintype.EquivFin

namespace PerPay.Backup

/-- One process takes steps, and no other does. -/
def Alone (p : Nat) : LockState → LockState → Prop :=
  Relation.ReflTransGen fun s s' => ∃ choice, s.advance p choice = some s'

theorem Alone.step {p : Nat} {s s' : LockState} (choice : Choice) (h : s.advance p choice = some s') : Alone p s s' :=
  .single ⟨choice, h⟩

theorem Alone.trans {p : Nat} {s m s' : LockState} (h : Alone p s m) (h' : Alone p m s') : Alone p s s' :=
  Relation.ReflTransGen.trans h h'

def Choice.none : Choice := ⟨[], 0⟩

/-! ## Artifacts -/

section
variable {s : LockState} {p : Nat}

theorem advance_recovering {goal : Goal} {recovery : Recovery} (hphase : s.phase p = .recovering goal recovery) (choice : Choice) :
    s.advance p choice = s.recover p choice goal recovery := by
  unfold LockState.advance
  rw [hphase]

theorem lstat_eq {name : LockName} {token : Token} (h : s.directory.lookup name = some token) :
    s.lstat name = some ⟨(s.files token).ino, s.directory.links token⟩ := by
  unfold LockState.lstat
  rw [h]
  rfl

/-- An artifact is the only name of its file, or stands beside the public name. -/
theorem LockFiles.links_artifact (hf : LockFiles s) (h : BuriedOnce s.directory) {artifact : Artifact} {token : Token}
    (hl : s.directory.lookup (.temporary artifact) = some token) :
    s.directory.links token = if s.directory.lookup .lock = some token then 2 else 1 := by
  have honly : ∀ name, s.directory.lookup name = some token → name = .lock ∨ name = .temporary artifact := by
    intro name hname
    match name, artifact with
    | .lock, _ => exact .inl rfl
    | .create t, .create t' => rw [← hf.created t token hname, ← hf.created t' token hl]; exact .inr rfl
    | .create t, .reclaim u =>
      rw [← hf.created t token hname] at hname
      nomatch (h u token hl).1.symm.trans hname
    | .reclaim u, .create t =>
      rw [← hf.created t token hl] at hl
      nomatch (h u token hname).1.symm.trans hl
    | .reclaim u, .reclaim u' => rw [(h u' token hl).2 u hname]; exact .inr rfl
  split
  · next hlock => exact Directory.links_eq_two (lock_ne _) hlock hl honly
  · next hlock =>
      refine Directory.links_eq_one hl fun name hname => (honly name hname).resolve_left ?_
      rintro rfl
      exact hlock hname

/-- The process gets past an artifact of `token`; it takes it away if it stands beside the lock. -/
def LockState.GetsPast (s : LockState) (p : Nat) (goal : Goal) (artifact : Artifact) (token : Token) (names : List Artifact) :
    Prop :=
  ∃ s', Alone p s s' ∧ s'.phase p = .recovering goal (.scanning names) ∧
    (s'.directory = s.directory.erase (.temporary artifact) ∨
      (s'.directory = s.directory ∧ s.directory.lookup .lock ≠ some token))

theorem LockFiles.getsPast (hf : LockFiles s) (h : BuriedOnce s.directory) {goal : Goal} {artifact : Artifact} {names : List Artifact} {token : Token}
    (hphase : s.phase p = .recovering goal (.scanning (artifact :: names)))
    (hl : s.directory.lookup (.temporary artifact) = some token) : s.GetsPast p goal artifact token names := by
  have hlinks := hf.links_artifact h hl
  have hstat := lstat_eq hl
  let stat : LockStat := ⟨(s.files token).ino, s.directory.links token⟩
  let s1 := s.goTo p (.recovering goal (.comparing artifact stat names))
  have h1 : Alone p s s1 := by
    refine .step .none ?_
    rw [advance_recovering hphase]
    unfold LockState.recover
    dsimp only
    rw [hstat]
    refine if_neg ?_
    rw [hlinks]
    split
    · exact fun h => h.2 rfl
    · exact fun h => h.1 rfl
  have hphase1 : s1.phase p = .recovering goal (.comparing artifact stat names) := LockState.phase_goTo_self ..
  -- where it takes the artifact away
  let s2 := s1.goTo p (.recovering goal (.removing artifact names))
  have hphase2 : s2.phase p = .recovering goal (.removing artifact names) := LockState.phase_goTo_self ..
  have htake : Alone p s2 ((s2.unlink (.temporary artifact)).goTo p (.recovering goal (.scanning names))) := by
    refine .step .none ?_
    rw [advance_recovering hphase2]
    unfold LockState.recover
    dsimp only
    rw [show s2.directory.lookup (.temporary artifact) = some token from hl]
  have htaken : s1.advance p .none = some s2 → s.GetsPast p goal artifact token names :=
    fun h2 => ⟨_, (h1.trans (.step .none h2)).trans htake, LockState.phase_goTo_self .., .inl rfl⟩
  -- where it is not the lock
  have hpass : s.directory.lookup .lock ≠ some token →
      s1.advance p .none = some (s1.passBy p goal stat names artifact) → s.GetsPast p goal artifact token names := by
    intro hlock h2
    cases artifact with
    | create t =>
      have hone : stat.nlink = 1 := hlinks.trans (if_neg hlock)
      unfold LockState.passBy at h2
      dsimp only at h2
      rw [if_pos hone] at h2
      exact ⟨_, h1.trans (.step .none h2), LockState.phase_goTo_self .., .inr ⟨rfl, hlock⟩⟩
    | reclaim u => exact htaken h2
  have hadvance : s1.advance p .none = s1.recover p .none goal (.comparing artifact stat names) := advance_recovering hphase1 _
  unfold LockState.recover at hadvance
  dsimp only at hadvance
  cases hlock : s.directory.lookup .lock with
  | none =>
    have hnone : s1.lstat .lock = none := by
      unfold LockState.lstat
      rw [show s1.directory.lookup .lock = none from hlock]
      rfl
    rw [hnone] at hadvance
    refine hpass ?_ hadvance
    rw [hlock]
    exact nofun
  | some t =>
    rw [show s1.lstat .lock = some ⟨(s.files t).ino, s.directory.links t⟩ from lstat_eq hlock] at hadvance
    dsimp only at hadvance
    by_cases ht : t = token
    · subst ht
      have htwo : s.directory.links t = 2 := hlinks.trans (if_pos hlock)
      rw [if_pos rfl, if_neg] at hadvance
      · exact htaken hadvance
      · show ¬(s.directory.links t ≠ 2 ∨ s.directory.links t ≠ 2)
        rw [htwo]
        omega
    · rw [if_neg fun he => ht (hf.inos _ _ _ _ hlock hl he)] at hadvance
      refine hpass ?_ hadvance
      rw [hlock]
      exact fun he => ht (Option.some.inj he)

theorem LockFiles.alone {s' : LockState} (hf : LockFiles s) (h : Alone p s s') : LockFiles s' := by
  induction h with
  | refl => exact hf
  | tail _ hs ih =>
    obtain ⟨choice, hs⟩ := hs
    exact ih.move (advance_move hs)

/-- What is left after the artifacts were looked through -/
structure LookedThrough (s s' : LockState) (names : List Artifact) : Prop where
  lock : s'.directory.lookup .lock = s.directory.lookup .lock
  left : ∀ artifact token, s'.directory.lookup (.temporary artifact) = some token →
    s.directory.lookup (.temporary artifact) = some token ∧ (artifact ∈ names → s.directory.lookup .lock ≠ some token)
  once : BuriedOnce s'.directory

theorem LockFiles.lookThrough {goal : Goal} (names : List Artifact) : ∀ {s : LockState}, LockFiles s → BuriedOnce s.directory →
    s.phase p = .recovering goal (.scanning names) → names.Nodup →
    (∀ artifact ∈ names, (s.directory.lookup (.temporary artifact)).isSome = true) →
    ∃ s', Alone p s s' ∧ s'.phase p = .recovering goal (.scanning []) ∧ LookedThrough s s' names := by
  induction names with
  | nil =>
    intro s hf h hphase _ _
    exact ⟨s, .refl, hphase, rfl, fun artifact token hl => ⟨hl, nofun⟩, h⟩
  | cons artifact names ih =>
    intro s hf h hphase hnodup hfound
    obtain ⟨hnot, hnodup⟩ := List.nodup_cons.mp hnodup
    obtain ⟨token, hl⟩ := Option.isSome_iff_exists.mp (hfound artifact List.mem_cons_self)
    obtain ⟨m, hm, hmphase, hdirectory⟩ := hf.getsPast h hphase hl
    have hmlock : m.directory.lookup .lock = s.directory.lookup .lock := by
      rcases hdirectory with hd | ⟨hd, -⟩
      · rw [hd]
        exact AList.lookup_erase_ne (lock_ne _)
      · rw [hd]
    have hmonce : BuriedOnce m.directory := by
      rcases hdirectory with hd | ⟨hd, -⟩
      · exact hd ▸ h.erase _
      · exact hd ▸ h
    have hmsub : ∀ a t, m.directory.lookup (.temporary a) = some t →
        s.directory.lookup (.temporary a) = some t ∧ (a = artifact → s.directory.lookup .lock ≠ some t) := by
      intro a t ha
      rcases hdirectory with hd | ⟨hd, hne⟩
      · rw [hd] at ha
        obtain ⟨hne, ha⟩ := Directory.lookup_erase_iff.mp ha
        exact ⟨ha, fun he => absurd (congrArg LockName.temporary he) hne⟩
      · rw [hd] at ha
        refine ⟨ha, fun he => ?_⟩
        subst he
        rwa [← Option.some.inj (hl.symm.trans ha)]
    have hmfound : ∀ a ∈ names, (m.directory.lookup (.temporary a)).isSome = true := by
      intro a ha
      have hne : a ≠ artifact := fun he => hnot (he ▸ ha)
      rcases hdirectory with hd | ⟨hd, -⟩
      · rw [hd, AList.lookup_erase_ne fun he => hne (LockName.temporary.inj he)]
        exact hfound a (List.mem_cons_of_mem _ ha)
      · rw [hd]
        exact hfound a (List.mem_cons_of_mem _ ha)
    obtain ⟨s', hs', hphase', hlooked⟩ := ih (hf.alone hm) hmonce hmphase hnodup hmfound
    refine ⟨s', hm.trans hs', hphase', hlooked.lock.trans hmlock, fun a t ha => ?_, hlooked.once⟩
    obtain ⟨ha, hnames⟩ := hlooked.left a t ha
    obtain ⟨ha, hartifact⟩ := hmsub a t ha
    refine ⟨ha, fun hmem => ?_⟩
    rcases List.mem_cons.mp hmem with he | hmem
    · exact hartifact he
    · rw [← hmlock]
      exact hnames hmem

/-- After `recoverInterruptedLockArtifacts` the lock has one name. -/
structure Recovered (s s' : LockState) : Prop where
  files : LockFiles s'
  lock : s'.directory.lookup .lock = s.directory.lookup .lock
  links : ∀ token, s'.directory.lookup .lock = some token → s'.directory.links token = 1
  once : BuriedOnce s'.directory

theorem LockFiles.recoverAlone (hf : LockFiles s) (h : BuriedOnce s.directory) {goal : Goal}
    (hphase : s.phase p = .recovering goal .listing) : ∃ s', Alone p s s' ∧ s'.phase p = goal.recovered ∧ Recovered s s' := by
  let names := s.directory.keys.filterMap (·.artifact)
  let s1 := s.goTo p (.recovering goal (.scanning names))
  have h1 : Alone p s s1 := by
    refine .step ⟨names, 0⟩ ?_
    rw [advance_recovering hphase]
    exact if_pos (List.Perm.refl _)
  have hphase1 : s1.phase p = .recovering goal (.scanning names) := LockState.phase_goTo_self ..
  have hmem : ∀ artifact, artifact ∈ names ↔ (s.directory.lookup (.temporary artifact)).isSome = true := by
    intro artifact
    rw [List.mem_filterMap, AList.lookup_isSome, AList.mem_keys]
    constructor
    · rintro ⟨name, hname, he⟩
      cases name with
      | lock => nomatch he
      | temporary a => rwa [← Option.some.inj he]
    · exact fun hname => ⟨_, hname, rfl⟩
  have hnodup : names.Nodup := by
    refine s.directory.keys_nodup.filterMap fun a a' b hb hb' => ?_
    cases a with
    | lock => nomatch hb
    | temporary x =>
      cases a' with
      | lock => nomatch hb'
      | temporary x' =>
        rw [Option.some.inj (Option.mem_def.mp hb), Option.some.inj (Option.mem_def.mp hb')]
  obtain ⟨s2, h2, hphase2, hlooked⟩ := LockFiles.lookThrough names (hf.alone h1) h hphase1 hnodup
    fun artifact ha => (hmem artifact).mp ha
  have h3 : Alone p s2 (s2.goTo p goal.recovered) := by
    refine .step .none ?_
    rw [advance_recovering hphase2]
    rfl
  have hf3 := hf.alone ((h1.trans h2).trans h3)
  refine ⟨_, (h1.trans h2).trans h3, LockState.phase_goTo_self .., hf3, hlooked.lock, fun token hlock => ?_, hlooked.once⟩
  refine Directory.links_eq_one hlock fun name hname => ?_
  cases name with
  | lock => rfl
  | temporary artifact =>
    obtain ⟨hname, hnot⟩ := hlooked.left artifact token hname
    have hin : (s.directory.lookup (.temporary artifact)).isSome = true := Option.isSome_iff_exists.mpr ⟨token, hname⟩
    exact absurd (hlooked.lock.symm.trans hlock) (hnot ((hmem artifact).mpr hin))

theorem LockState.readToken_of_lock {token : Token} (hf : LockFiles s) (hlock : s.directory.lookup .lock = some token) :
    s.readToken = some token := by
  unfold LockState.readToken
  rw [hlock]
  exact Option.filter_some_pos (hf.written token hlock)

/-- A lock that is there can be read. -/
theorem LockFiles.readAlone (hf : LockFiles s) (h : BuriedOnce s.directory) (hphase : s.phase p = .recovering .read .listing)
    {token : Token} (hlock : s.directory.lookup .lock = some token) :
    ∃ s', Alone p s s' ∧ s'.phase p = .reading .read true ∧ s'.readToken = some token := by
  obtain ⟨m, hm, hmphase, hrecovered⟩ := hf.recoverAlone h hphase
  have hmlock := hrecovered.lock.trans hlock
  refine ⟨m.goTo p (.reading .read true), hm.trans (.step .none ?_), LockState.phase_goTo_self .., ?_⟩
  · unfold LockState.advance
    rw [hmphase]
    show some (m.read p .read false) = _
    unfold LockState.read
    rw [if_neg Bool.false_ne_true, lstat_eq hmlock]
    dsimp only
    rw [if_pos (hrecovered.links token hmlock)]
  · have hread : m.readToken = some token := LockState.readToken_of_lock hrecovered.files hmlock
    exact hread

/-- There is a number for a new inode. -/
theorem LockState.exists_create (s : LockState) (p : Nat) (now : Int) : ∃ choice s', s.create p choice now = some s' := by
  obtain ⟨ino, hino⟩ := Infinite.exists_notMem_finset (s.directory.entries.map fun e => (s.files e.2).ino).toFinset
  refine ⟨⟨[], ino⟩, _, if_pos (List.all_eq_true.mpr fun e he => ?_)⟩
  rw [decide_eq_true_eq]
  intro hsame
  refine hino ?_
  rw [List.mem_toFinset]
  exact List.mem_map.mpr ⟨e, he, hsame⟩

/-- A process looks at its own lock for the last time, and holds it. -/
theorem LockFiles.holdAlone (hf : LockFiles s) {token identity : Nat}
    (hphase : s.phase p = .owning token identity (.inspecting true .before)) (hlock : s.directory.lookup .lock = some token)
    (hlinks : s.directory.links token = 1) : Alone p s
      (((s.goTo p (.owning token identity (.inspecting true .reading))).goTo p (.owning token identity (.inspecting true .after))).goTo
        p (.owning token identity .holding)) := by
  obtain ⟨hown, hread⟩ := hf.isOwn hphase hlock hlinks
  let s1 := s.goTo p (.owning token identity (.inspecting true .reading))
  have h1 : Alone p s s1 := by
    refine .step .none ?_
    unfold LockState.advance
    rw [hphase]
    show some (s.goTo p (if s.isOwn identity then _ else _)) = _
    rw [if_pos hown]
  have hp1 : s1.phase p = .owning token identity (.inspecting true .reading) := LockState.phase_goTo_self ..
  have hread1 : s1.readToken = some token := hread
  let s2 := s1.goTo p (.owning token identity (.inspecting true .after))
  have h2 : Alone p s1 s2 := by
    refine .step .none ?_
    unfold LockState.advance
    rw [hp1]
    show some (s1.goTo p (if s1.readToken = some token then _ else _)) = _
    rw [if_pos hread1]
  have hp2 : s2.phase p = .owning token identity (.inspecting true .after) := LockState.phase_goTo_self ..
  have hown2 : s2.isOwn identity = true := hown
  refine h1.trans (h2.trans (.step .none ?_))
  unfold LockState.advance
  rw [hp2]
  show some (s2.goTo p (if s2.isOwn identity then _ else _)) = _
  rw [if_pos hown2]
  rfl

/-- A process that acquires the lock, and is let run, holds it when there is none. -/
theorem LockFiles.acquireAlone (hf : LockFiles s) (h : BuriedOnce s.directory) {now : Int}
    (hphase : s.phase p = .recovering (.acquire now) .listing) (hlock : s.directory.lookup .lock = none) :
    ∃ s' token identity, Alone p s s' ∧ s'.phase p = .owning token identity .holding ∧
      s'.directory.lookup .lock = some token := by
  obtain ⟨m, hm, hmphase, hrecovered⟩ := hf.recoverAlone h hphase
  have hmlock := hrecovered.lock.trans hlock
  obtain ⟨choice, s1, hcreate⟩ := m.exists_create p now
  let t := m.nextToken
  have h1 : Alone p m s1 := by
    refine .step choice ?_
    unfold LockState.advance
    rw [hmphase]
    exact hcreate
  obtain ⟨-, hs1⟩ := create_eq hcreate
  -- the file of the acquisition is new
  have hd1 : s1.directory = m.directory.insert (.create t) t := by rw [hs1]; rfl
  have hp1 : s1.phase p = .drafting t .writing := by rw [hs1]; exact LockState.phase_goTo_self ..
  have hnew : ∀ name, m.directory.lookup name ≠ some t := fun name hl => Nat.lt_irrefl _ (hrecovered.files.tokens name t hl)
  have hcreated : s1.directory.lookup (.create t) = some t := by rw [hd1]; exact AList.lookup_insert _
  have habsent : s1.directory.lookup .lock = none := by
    rw [hd1, AList.lookup_insert_ne (lock_ne _)]
    exact hmlock
  have honly : ∀ name, s1.directory.lookup name = some t → name = .create t := by
    intro name hl
    rw [hd1] at hl
    exact (Directory.lookup_insert_iff.mp hl).elim (fun h => h.1) fun h => absurd h.2 (hnew name)
  let s2 := s1.draft p t .writing
  have h2 : Alone p s1 s2 := by
    refine .step .none ?_
    unfold LockState.advance
    rw [hp1]
  have hp2 : s2.phase p = .drafting t .inspecting := LockState.phase_goTo_self ..
  let identity := (s2.files t).ino
  let s3 := s2.goTo p (.drafting t (.linking identity))
  have h3 : Alone p s2 s3 := by
    refine .step .none ?_
    unfold LockState.advance
    rw [hp2]
    show some (s2.draft p t .inspecting) = _
    unfold LockState.draft
    dsimp only
    rw [lstat_eq (show s2.directory.lookup (.create t) = some t from hcreated)]
    dsimp only
    rw [if_pos (Directory.links_eq_one (show s2.directory.lookup (.create t) = some t from hcreated) honly)]
  have hp3 : s3.phase p = .drafting t (.linking identity) := LockState.phase_goTo_self ..
  let s4 := ({ s3 with directory := s3.directory.insert .lock t } : LockState).goTo p (.owning t identity .unlinking)
  have h4 : Alone p s3 s4 := by
    refine .step .none ?_
    unfold LockState.advance
    rw [hp3]
    show some (s3.draft p t (.linking identity)) = _
    unfold LockState.draft
    dsimp only
    rw [show s3.directory.lookup (.create t) = some t from hcreated, show s3.directory.lookup .lock = none from habsent]
  have hp4 : s4.phase p = .owning t identity .unlinking := LockState.phase_goTo_self ..
  let s5 := (s4.unlink (.create t)).goTo p (.owning t identity (.inspecting true .before))
  have h5 : Alone p s4 s5 := by
    refine .step .none ?_
    unfold LockState.advance
    rw [hp4]
    show s4.own p t identity .unlinking = _
    unfold LockState.own
    dsimp only
    have hstill : s4.directory.lookup (.create t) = some t := (AList.lookup_insert_ne (lock_ne _).symm).trans hcreated
    rw [hstill]
  have hp5 : s5.phase p = .owning t identity (.inspecting true .before) := LockState.phase_goTo_self ..
  have h05 : Alone p s s5 := hm.trans (h1.trans (h2.trans (h3.trans (h4.trans h5))))
  have hlock5 : s5.directory.lookup .lock = some t := (AList.lookup_erase_ne (lock_ne _)).trans (AList.lookup_insert _)
  have hlinks5 : s5.directory.links t = 1 := by
    refine Directory.links_eq_one hlock5 fun name hl => ?_
    obtain ⟨hne, hl⟩ := Directory.lookup_erase_iff.mp hl
    rcases Directory.lookup_insert_iff.mp hl with ⟨hn, -⟩ | ⟨-, hl⟩
    · exact hn
    · exact absurd (honly name hl) hne
  exact ⟨_, t, identity, h05.trans ((hf.alone h05).holdAlone hp5 hlock5 hlinks5), LockState.phase_goTo_self .., hlock5⟩

end

/-! ## The lock -/

structure LockState.Sound (s : LockState) : Prop where
  /-- at most one process holds the lock, unless a clear command took it from a process that was there -/
  exclusive : s.clearedLive = false → ∀ p q, (s.phase p).holds = true → (s.phase q).holds = true → p = q
  /-- each step of `release` goes on, and the lock it removes is its own -/
  releases : s.clearedLive = false → (∀ q, (s.phase q).isClearing = false) → ∀ p token identity look,
    s.phase p = .owning token identity (.releasing look) → ∀ choice,
    s.directory.lookup .lock = some token ∧ s.advance p choice = some (s.released p token identity look)
  /-- a clear command removes the lock of the token it was given -/
  removed : ∀ e ∈ s.removed, e.1 = e.2
  /-- a lock that is there is complete, and who reads it gets its token -/
  readable : ∀ token, s.directory.lookup .lock = some token → (s.files token).written = true ∧
    ∀ p, s.phase p = .idle → ∃ s', Alone p (s.goTo p (.recovering .read .listing)) s' ∧
      s'.phase p = .reading .read true ∧ s'.readToken = some token
  /-- where there is none, nothing that was left behind keeps a process from acquiring it -/
  acquirable : s.directory.lookup .lock = none → ∀ p now, s.phase p = .idle → ∃ s' token identity,
    Alone p (s.goTo p (.recovering (.acquire now) .listing)) s' ∧ s'.phase p = .owning token identity .holding ∧
      s'.directory.lookup .lock = some token

theorem backup_lock {s : LockState} (h : Runs.Reachable apartSystem s) : s.Sound := by
  have hinv : LockFiles s ∧ Apart s := by
    refine Runs.Reachable.invariant (I := fun s => LockFiles s ∧ Apart s) (fun s h0 => ?_) (fun s call s' h hs => ?_) h
    · have h0 : s = LockState.initial := h0
      subst h0
      exact ⟨.initial, .initial⟩
    · exact ⟨h.1.step hs.2, h.2.step h.1 hs.1 hs.2⟩
  obtain ⟨hf, ha⟩ := hinv
  constructor
  · exact fun hclear p q hp hq => hf.exclusive hclear hp hq
  · exact fun hclear hnone p token identity look hphase choice => ha.releases hf hphase hclear hnone choice
  · exact ha.removed
  · refine fun token hlock => ⟨hf.written token hlock, fun p _ => ?_⟩
    have hf' : LockFiles (s.goTo p (.recovering .read .listing)) := hf.goTo trivial
    exact hf'.readAlone ha.once (LockState.phase_goTo_self ..) hlock
  · intro hlock p now _
    have hf' : LockFiles (s.goTo p (.recovering (.acquire now) .listing)) := hf.goTo trivial
    exact hf'.acquireAlone ha.once (LockState.phase_goTo_self ..) hlock

def advances (p : Nat) (names : List Artifact) (n : Nat) : List LockCall := List.replicate n (.advance p ⟨names, 7⟩)

/-- A process acquires the lock. -/
def acquireCalls (p : Nat) : List LockCall := [.acquire p 0] ++ advances p [] 10

/-- Process 1 died with the lock, and an operator clears it in process 3.  Before that one removes the name, process 4 clears the
    same lock, and process 2 acquires it. -/
def twoClearCalls : List LockCall :=
  acquireCalls 1 ++ [.crash 1] ++
    [.clear 3 0 (backupLockStale + 1)] ++ advances 3 [] 15 ++
    [.clear 4 0 (backupLockStale + 1)] ++ advances 4 [.reclaim 0] 5 ++ advances 4 [] 15 ++
    acquireCalls 2 ++ advances 3 [] 1

/-- The first command removes the lock of process 2, which holds it. -/
theorem clear_removes_other_lock : ¬ ∀ s, Runs.Reachable lockSystem s → s.Sound := by
  intro h
  have hrun : ((Runs.follow lockStep twoClearCalls .initial).any fun s => s.removed = [(0, 0), (0, 1)]) = true := by
    decide +kernel
  obtain ⟨s, hs, hremoved⟩ := (Option.any_eq_true _ _).mp hrun
  have hreachable : Runs.Reachable lockSystem s := .follow (fun _ _ _ h => h) ⟨[], .start rfl⟩ hs
  have hsame := (h s hreachable).removed (0, 1) (by rw [of_decide_eq_true hremoved]; simp)
  nomatch hsame

def apartStep (s : LockState) (call : LockCall) : Option LockState := if s.isApart call then lockStep s call else none

/-- Process 1 holds the lock and begins to release it. -/
theorem backup_lock_sample : ∃ s : LockState, s.Sound ∧ (s.phase 1).holds = true ∧ s.directory.lookup .lock = some 0 := by
  have hrun : ((Runs.follow apartStep (acquireCalls 1 ++ [.release 1]) .initial).any fun s =>
      (s.phase 1).holds && s.directory.lookup .lock = some 0) = true := by
    decide +kernel
  obtain ⟨s, hs, hholds⟩ := (Option.any_eq_true _ _).mp hrun
  obtain ⟨hholds, hlock⟩ := Bool.and_eq_true_iff.mp hholds
  have hstep : ∀ s call s', apartStep s call = some s' → apartSystem.step s call s' := by
    intro s call s' hcall
    unfold apartStep at hcall
    split at hcall
    · next hapart => exact ⟨hapart, hcall⟩
    · nomatch hcall
  have hreachable : Runs.Reachable apartSystem s := .follow hstep ⟨[], .start rfl⟩ hs
  exact ⟨s, backup_lock hreachable, hholds, of_decide_eq_true hlock⟩

end PerPay.Backup
