/-
  **What a process does to the backup lock**, one call of the file system at a time.

  `LockMove` says it once: every call leaves the directory alone, takes an artifact away, or is one of the few that
  matter: a file is made, written, published, released, linked to a tombstone or cleared.  What a process looked at
  before such a call is kept only where something follows from it.

  `LockFiles` is what holds of the files in every run.
-/
import PerPay.Backup.Lock

namespace PerPay.Backup

/-! ## Phases -/

@[simp] theorem LockState.phase_goTo (s : LockState) (p q : Nat) (phase : Phase) :
    (s.goTo p phase).phase q = if q = p then phase else s.phase q := by
  unfold LockState.phase LockState.goTo
  by_cases h : q = p
  · subst h
    simp
  · simp [h, AList.lookup_insert_ne h]

theorem LockState.phase_goTo_self (s : LockState) (p : Nat) (phase : Phase) : (s.goTo p phase).phase p = phase := by
  rw [LockState.phase_goTo, if_pos rfl]

theorem LockState.phase_goTo_other (s : LockState) {p q : Nat} (phase : Phase) (h : q ≠ p) :
    (s.goTo p phase).phase q = s.phase q := by
  rw [LockState.phase_goTo, if_neg h]

/-- The process has no file of its own in the directory. -/
def Phase.isFree : Phase → Bool
  | .drafting .. | .owning .. | .reclaiming .. => false
  | _ => true

def Phase.tombstone : Phase → Option Nat
  | .reclaiming tombstone _ => some tombstone
  | _ => none

theorem Goal.isFree_recovered (goal : Goal) : goal.recovered.isFree = true := by
  cases goal <;> rfl

theorem Goal.isFree_hasRead (goal : Goal) (token : Token) (file : LockFile) : (goal.hasRead token file).isFree = true := by
  unfold Goal.hasRead
  split
  · split <;> rfl
  · split <;> rfl
  · rfl

theorem Phase.isFree_notOwned (token : Token) (last : Bool) : (Phase.notOwned token last).isFree = true := by
  cases last <;> rfl

theorem lock_ne (artifact : Artifact) : LockName.lock ≠ .temporary artifact := nofun

theorem create_ne_reclaim (token : Token) (u : Nat) : LockName.create token ≠ .reclaim u := nofun

/-! ## Moves -/

inductive LockMove (s : LockState) (p : Nat) : LockState → Prop
  /-- nothing is changed, and a tombstone that the process had linked is gone -/
  | rest {phase : Phase} (free : phase.isFree = true)
      (gone : ∀ u, (s.phase p).tombstone = some u → s.directory.lookup (.reclaim u) = none) : LockMove s p (s.goTo p phase)
  /-- an artifact is taken away; it is the tombstone of the process, if it has one -/
  | take {artifact : Artifact} {phase : Phase} (free : phase.isFree = true)
      (gone : ∀ u, (s.phase p).tombstone = some u → artifact = .reclaim u) :
      LockMove s p ((s.unlink (.temporary artifact)).goTo p phase)
  | create {now : Int} {choice : Choice} {s' : LockState} (phase : s.phase p = .creating now)
      (created : s.create p choice now = some s') : LockMove s p s'
  | write {token : Token} (phase : s.phase p = .drafting token .writing) : LockMove s p (s.draft p token .writing)
  | inspect {token : Token} {stat : LockStat} (phase : s.phase p = .drafting token .inspecting)
      (found : s.lstat (.create token) = some stat) : LockMove s p (s.goTo p (.drafting token (.linking stat.ino)))
  | publish {token file : Token} {identity : Nat} (phase : s.phase p = .drafting token (.linking identity))
      (found : s.directory.lookup (.create token) = some file) (absent : s.directory.lookup .lock = none) :
      LockMove s p (({ s with directory := s.directory.insert .lock file } : LockState).goTo p (.owning token identity .unlinking))
  | settle {token : Token} {identity : Nat} (phase : s.phase p = .owning token identity .unlinking) :
      LockMove s p ((s.unlink (.create token)).goTo p (.owning token identity (.inspecting true .before)))
  | settled {token : Token} {identity : Nat} (phase : s.phase p = .owning token identity .unlinking)
      (gone : s.directory.lookup (.create token) = none) :
      LockMove s p (s.goTo p (.owning token identity (.inspecting false .before)))
  | own {token : Token} {identity : Nat} {ownership ownership' : Ownership} (phase : s.phase p = .owning token identity ownership)
      (was : ownership ≠ .unlinking) (is : ownership' ≠ .unlinking) : LockMove s p (s.goTo p (.owning token identity ownership'))
  | release {token : Token} {identity : Nat} (phase : s.phase p = .owning token identity (.releasing .after)) :
      LockMove s p ((s.unlink .lock).goTo p .idle)
  | bury {expectedToken token : Token} {before : Nat} (phase : s.phase p = .burying expectedToken before)
      (found : s.directory.lookup .lock = some token) : LockMove s p (s.bury p expectedToken before)
  | reclaim {tombstone : Nat} {reclaim reclaim' : Reclaim} (phase : s.phase p = .reclaiming tombstone reclaim)
      (is : ∀ expectedToken, reclaim' ≠ .unlinking expectedToken) : LockMove s p (s.goTo p (.reclaiming tombstone reclaim'))
  | agree {tombstone : Nat} {expectedToken : Token} (phase : s.phase p = .reclaiming tombstone (.reading expectedToken))
      (same : s.directory.lookup .lock = some expectedToken) :
      LockMove s p (s.goTo p (.reclaiming tombstone (.unlinking expectedToken)))
  | clear {tombstone : Nat} {expectedToken token : Token} (phase : s.phase p = .reclaiming tombstone (.unlinking expectedToken))
      (found : s.directory.lookup .lock = some token) :
      LockMove s p ((s.clear expectedToken token).goTo p (.reclaiming tombstone .cleaning))

section
variable {s s' : LockState} {p : Nat}

theorem LockState.lookup_of_readToken {token : Token} (h : s.readToken = some token) :
    s.directory.lookup .lock = some token ∧ (s.files token).written = true := by
  unfold LockState.readToken at h
  exact Option.filter_eq_some_iff.mp h

theorem LockMove.pass {phase : Phase} (free : phase.isFree = true) (h : (s.phase p).tombstone = none) :
    LockMove s p (s.goTo p phase) :=
  .rest free fun _ hu => nomatch h.symm.trans hu

theorem recover_move {choice : Choice} {goal : Goal} {recovery : Recovery} (hphase : s.phase p = .recovering goal recovery)
    (h : s.recover p choice goal recovery = some s') : LockMove s p s' := by
  have hnone : (s.phase p).tombstone = none := by rw [hphase]; rfl
  have hpassBy : ∀ stat names temporary, LockMove s p (s.passBy p goal stat names temporary) := by
    intro stat names temporary
    unfold LockState.passBy
    split
    · split <;> exact .pass rfl hnone
    · exact .pass rfl hnone
  unfold LockState.recover at h
  split at h
  · split at h
    · rw [← Option.some.inj h]
      exact .pass rfl hnone
    · nomatch h
  · rw [← Option.some.inj h]
    exact .pass goal.isFree_recovered hnone
  · split at h
    · rw [← Option.some.inj h]
      exact .pass rfl hnone
    · split at h <;> (rw [← Option.some.inj h]; exact .pass rfl hnone)
  · split at h
    · rw [← Option.some.inj h]
      exact hpassBy ..
    · split at h
      · split at h <;> (rw [← Option.some.inj h]; exact .pass rfl hnone)
      · rw [← Option.some.inj h]
        exact hpassBy ..
  · split at h
    · rw [← Option.some.inj h]
      exact .pass rfl hnone
    · rw [← Option.some.inj h]
      exact .take rfl fun _ hu => nomatch hnone.symm.trans hu

theorem read_move {goal : Goal} {checked : Bool} (hphase : s.phase p = .reading goal checked) :
    LockMove s p (s.read p goal checked) := by
  have hnone : (s.phase p).tombstone = none := by rw [hphase]; rfl
  unfold LockState.read
  split
  · split
    · exact .pass rfl hnone
    · exact .pass (Goal.isFree_hasRead ..) hnone
  · split
    · exact .pass rfl hnone
    · split <;> exact .pass rfl hnone

theorem draft_move {token : Token} {draft : Draft} (hphase : s.phase p = .drafting token draft) :
    LockMove s p (s.draft p token draft) := by
  have hnone : (s.phase p).tombstone = none := by rw [hphase]; rfl
  cases draft with
  | writing => exact .write hphase
  | inspecting =>
    unfold LockState.draft
    cases hstat : s.lstat (.create token) with
    | none => exact .pass rfl hnone
    | some stat =>
      dsimp only
      split
      · exact .inspect hphase hstat
      · exact .pass rfl hnone
  | linking identity =>
    unfold LockState.draft
    cases hfound : s.directory.lookup (.create token) with
    | none => exact .pass rfl hnone
    | some file =>
      cases habsent : s.directory.lookup .lock with
      | none => exact .publish hphase hfound habsent
      | some _ => exact .pass rfl hnone

theorem own_move {token : Token} {identity : Nat} {ownership : Ownership} (hphase : s.phase p = .owning token identity ownership)
    (h : s.own p token identity ownership = some s') : LockMove s p s' := by
  have hnone : (s.phase p).tombstone = none := by rw [hphase]; rfl
  have hown : ∀ {o}, ownership ≠ .unlinking → o ≠ .unlinking → LockMove s p (s.goTo p (.owning token identity o)) :=
    fun was is => .own hphase was is
  cases ownership with
  | unlinking =>
    unfold LockState.own at h
    dsimp only at h
    split at h
    · rw [← Option.some.inj h]
      exact .settle hphase
    · next hgone =>
        rw [← Option.some.inj h]
        exact .settled hphase hgone
  | inspecting last look =>
    cases look with
    | before | reading =>
      rw [← Option.some.inj h]
      split
      · exact hown nofun nofun
      · exact .pass (Phase.isFree_notOwned ..) hnone
    | after =>
      rw [← Option.some.inj h]
      split
      · split <;> exact hown nofun nofun
      · exact .pass (Phase.isFree_notOwned ..) hnone
  | holding => nomatch h
  | releasing look =>
    cases look with
    | before | reading =>
      rw [← Option.some.inj h]
      split <;> exact hown nofun nofun
    | after =>
      unfold LockState.own at h
      dsimp only at h
      split at h
      · rw [← Option.some.inj h]
        exact hown nofun nofun
      · rw [← Option.some.inj h]
        exact .release hphase

theorem reclaim_move {tombstone : Nat} {reclaim : Reclaim} (hphase : s.phase p = .reclaiming tombstone reclaim) :
    LockMove s p (s.reclaim p tombstone reclaim) := by
  have htombstone : ∀ u, (s.phase p).tombstone = some u → Artifact.reclaim tombstone = .reclaim u := by
    intro u hu
    rw [hphase] at hu
    rw [Option.some.inj hu]
  have hdrop : LockMove s p (s.goTo p (.reclaiming tombstone .dropping)) := .reclaim hphase nofun
  unfold LockState.reclaim
  cases reclaim with
  | holding expectedToken before =>
    dsimp only
    split
    · exact hdrop
    · exact .reclaim hphase nofun
  | comparing expectedToken before held =>
    dsimp only
    split
    · exact hdrop
    · split
      · exact .reclaim hphase nofun
      · exact hdrop
  | reading expectedToken =>
    dsimp only
    split
    · next hread => exact .agree hphase (LockState.lookup_of_readToken hread).1
    · exact hdrop
  | unlinking expectedToken =>
    dsimp only
    split
    · exact hdrop
    · next hfound => exact .clear hphase hfound
  | cleaning =>
    dsimp only
    split
    · exact hdrop
    · exact .take rfl htombstone
  | dropping => exact .take rfl htombstone

theorem advance_move {choice : Choice} (h : s.advance p choice = some s') : LockMove s p s' := by
  unfold LockState.advance at h
  cases hphase : s.phase p with
  | idle | crashed =>
    rw [hphase] at h
    nomatch h
  | recovering goal recovery =>
    rw [hphase] at h
    exact recover_move hphase h
  | reading goal checked =>
    rw [hphase] at h
    rw [← Option.some.inj h]
    exact read_move hphase
  | creating now =>
    rw [hphase] at h
    exact .create hphase h
  | drafting token draft =>
    rw [hphase] at h
    rw [← Option.some.inj h]
    exact draft_move hphase
  | owning token identity ownership =>
    rw [hphase] at h
    exact own_move hphase h
  | abandoning token taken =>
    rw [hphase] at h
    rw [← Option.some.inj h]
    unfold LockState.abandon
    refine .take ?_ fun u hu => ?_
    · cases taken <;> rfl
    · rw [hphase] at hu
      nomatch hu
  | marking expectedToken =>
    have hnone : (s.phase p).tombstone = none := by rw [hphase]; rfl
    rw [hphase] at h
    rw [← Option.some.inj h]
    unfold LockState.mark
    split
    · exact .pass rfl hnone
    · split <;> exact .pass rfl hnone
  | burying expectedToken before =>
    have hnone : (s.phase p).tombstone = none := by rw [hphase]; rfl
    rw [hphase] at h
    rw [← Option.some.inj h]
    cases hfound : s.directory.lookup .lock with
    | none =>
      unfold LockState.bury
      rw [hfound]
      exact .pass rfl hnone
    | some token => exact .bury hphase hfound
  | reclaiming tombstone reclaim =>
    rw [hphase] at h
    rw [← Option.some.inj h]
    exact reclaim_move hphase

end

/-! ## The files -/

def Draft.Fits (draft : Draft) (file : LockFile) : Prop :=
  match draft with
  | .writing => True
  | .inspecting => file.written = true
  | .linking identity => file.written = true ∧ file.ino = identity

/-- What a process may rely on: a draft has no other name than its own, and a published lock stands until it is released,
    unless a clear command took it. -/
def Phase.Fits (s : LockState) (p : Nat) : Phase → Prop
  | .drafting token draft =>
    token < s.nextToken ∧ (s.files token).owner = p ∧
    (∀ name, s.directory.lookup name = some token → name = .create token) ∧ draft.Fits (s.files token)
  | .owning token identity ownership =>
    token < s.nextToken ∧ (s.files token).owner = p ∧ (s.files token).ino = identity ∧
    (ownership ≠ .unlinking → s.directory.lookup (.create token) = none) ∧
    (s.clearedLive = true ∨ s.directory.lookup .lock = some token)
  | _ => True

structure LockFiles (s : LockState) : Prop where
  tokens : ∀ name token, s.directory.lookup name = some token → token < s.nextToken
  tombstones : ∀ u token, s.directory.lookup (.reclaim u) = some token → u < s.nextTombstone
  created : ∀ token file, s.directory.lookup (.create token) = some file → file = token
  written : ∀ token, s.directory.lookup .lock = some token → (s.files token).written = true
  inos : ∀ name token name' token', s.directory.lookup name = some token → s.directory.lookup name' = some token' →
    (s.files token).ino = (s.files token').ino → token = token'
  phases : ∀ p, (s.phase p).Fits s p

section
variable {s s' : LockState} {p : Nat}

theorem Phase.fits_of_free {phase : Phase} (h : phase.isFree = true) : phase.Fits s p := by
  cases phase <;> trivial

theorem Phase.fits_reclaiming (tombstone : Nat) (reclaim : Reclaim) : (Phase.reclaiming tombstone reclaim).Fits s p := trivial

theorem LockFiles.phase {phase : Phase} (h : LockFiles s) (hphase : s.phase p = phase) : phase.Fits s p :=
  hphase ▸ h.phases p

/-- A process goes to another phase. -/
theorem LockFiles.goTo {phase : Phase} (h : LockFiles s) (hphase : phase.Fits s p) : LockFiles (s.goTo p phase) where
  tokens := h.tokens
  tombstones := h.tombstones
  created := h.created
  written := h.written
  inos := h.inos
  phases q := by
    rw [LockState.phase_goTo]
    split
    · next hq =>
        subst hq
        cases phase <;> exact hphase
    · have hfits := h.phases q
      cases hq : s.phase q <;> (rw [hq] at hfits; exact hfits)

/-- What a phase asks for is kept when the files it knows are kept. -/
theorem Phase.Fits.of_frame {q : Nat} {phase : Phase} (h : phase.Fits s q) (hnext : s.nextToken ≤ s'.nextToken)
    (hfiles : ∀ token < s.nextToken, (s.files token).owner = q → s'.files token = s.files token)
    (hdraft : ∀ token draft, phase = .drafting token draft → (∀ name, s.directory.lookup name = some token → name = .create token) →
      ∀ name, s'.directory.lookup name = some token → name = .create token)
    (hgone : ∀ token identity ownership, phase = .owning token identity ownership → s.directory.lookup (.create token) = none →
      s'.directory.lookup (.create token) = none)
    (hlock : ∀ token identity ownership, phase = .owning token identity ownership →
      (s.clearedLive = true ∨ s.directory.lookup .lock = some token) →
      (s'.clearedLive = true ∨ s'.directory.lookup .lock = some token)) : phase.Fits s' q := by
  cases phase with
  | drafting token draft =>
    obtain ⟨htoken, howner, hnames, hdraft'⟩ := h
    have hsame := hfiles token htoken howner
    refine ⟨htoken.trans_le hnext, ?_, hdraft token draft rfl hnames, ?_⟩
    · rw [hsame]
      exact howner
    · rw [hsame]
      exact hdraft'
  | owning token identity ownership =>
    obtain ⟨htoken, howner, hino, hcreate, hpublic⟩ := h
    have hsame := hfiles token htoken howner
    refine ⟨htoken.trans_le hnext, ?_, ?_, fun ho => hgone _ _ _ rfl (hcreate ho), hlock _ _ _ rfl hpublic⟩
    · rw [hsame]
      exact howner
    · rw [hsame]
      exact hino
  | _ => trivial

/-- Names are taken away that are not the public one. -/
theorem LockFiles.unlink (h : LockFiles s) (artifact : Artifact) : LockFiles (s.unlink (.temporary artifact)) := by
  have hsub : ∀ name token, (s.unlink (.temporary artifact)).directory.lookup name = some token →
      s.directory.lookup name = some token := fun name token hl => (Directory.lookup_erase_iff.mp hl).2
  have hlock : (s.unlink (.temporary artifact)).directory.lookup .lock = s.directory.lookup .lock :=
    AList.lookup_erase_ne (lock_ne _)
  refine ⟨fun name token hl => h.tokens name token (hsub _ _ hl), fun u token hl => h.tombstones u token (hsub _ _ hl),
    fun token file hl => h.created token file (hsub _ _ hl), fun token hl => h.written token (hsub _ _ hl),
    fun _ _ _ _ hl hl' => h.inos _ _ _ _ (hsub _ _ hl) (hsub _ _ hl'), fun q => ?_⟩
  refine (h.phases q).of_frame (le_refl _) (fun _ _ _ => rfl) (fun token draft _ hnames name hl => hnames name (hsub _ _ hl))
    (fun token _ _ _ hnone => ?_) (fun token _ _ _ hpublic => hpublic.imp_right fun hl => hlock.trans hl)
  rw [Option.eq_none_iff_forall_ne_some] at hnone ⊢
  exact fun file hl => hnone file (hsub _ _ hl)

theorem create_eq {choice : Choice} {now : Int} (h : s.create p choice now = some s') :
    (∀ name token, s.directory.lookup name = some token → (s.files token).ino ≠ choice.ino) ∧
    s' = ({ s with
      directory := s.directory.insert (.create s.nextToken) s.nextToken
      files := fun token => if token = s.nextToken then ⟨choice.ino, p, now, false⟩ else s.files token
      nextToken := s.nextToken + 1 } : LockState).goTo p (.drafting s.nextToken .writing) := by
  unfold LockState.create at h
  split at h
  · next hall =>
      refine ⟨fun name token hl => ?_, (Option.some.inj h).symm⟩
      have hmem : (⟨name, token⟩ : Sigma fun _ : LockName => Token) ∈ s.directory.entries :=
        AList.mem_lookup_iff.mp hl
      simpa using List.all_eq_true.mp hall _ hmem
  · nomatch h

theorem LockFiles.create {choice : Choice} {now : Int} (h : LockFiles s) (hc : s.create p choice now = some s') : LockFiles s' := by
  obtain ⟨hino, rfl⟩ := create_eq hc
  have hlookup : ∀ name token, (s.directory.insert (.create s.nextToken) s.nextToken).lookup name = some token →
      (name = .create s.nextToken ∧ token = s.nextToken) ∨ s.directory.lookup name = some token := by
    intro name token hl
    rcases Directory.lookup_insert_iff.mp hl with ⟨hn, ht⟩ | ⟨-, hl⟩
    · exact .inl ⟨hn, ht.symm⟩
    · exact .inr hl
  have hfiles : ∀ token < s.nextToken,
      (if token = s.nextToken then (⟨choice.ino, p, now, false⟩ : LockFile) else s.files token) = s.files token :=
    fun token hlt => if_neg (Nat.ne_of_lt hlt)
  refine ⟨fun name token hl => ?_, fun u token hl => ?_, fun token file hl => ?_, fun token hl => ?_,
    fun name token name' token' hl hl' he => ?_, fun q => ?_⟩
  · rcases hlookup name token hl with ⟨-, rfl⟩ | hl
    · exact Nat.lt_succ_self _
    · exact Nat.lt_succ_of_lt (h.tokens name token hl)
  · rcases hlookup _ token hl with ⟨hn, -⟩ | hl
    · nomatch hn
    · exact h.tombstones u token hl
  · rcases hlookup _ file hl with ⟨hn, rfl⟩ | hl
    · exact (Artifact.create.inj (LockName.temporary.inj hn)).symm
    · exact h.created token file hl
  · rcases hlookup _ token hl with ⟨hn, -⟩ | hl
    · nomatch hn
    · show (if token = s.nextToken then _ else s.files token).written = true
      rw [hfiles token (h.tokens _ _ hl)]
      exact h.written token hl
  · -- the new number is not the number of a file that has a name
    replace he : (if token = s.nextToken then (⟨choice.ino, p, now, false⟩ : LockFile) else s.files token).ino =
      (if token' = s.nextToken then (⟨choice.ino, p, now, false⟩ : LockFile) else s.files token').ino := he
    rcases hlookup name token hl with ⟨-, rfl⟩ | hl <;> rcases hlookup name' token' hl' with ⟨-, rfl⟩ | hl'
    · rfl
    · rw [if_pos rfl, hfiles token' (h.tokens _ _ hl')] at he
      exact absurd he.symm (hino _ _ hl')
    · rw [if_pos rfl, hfiles token (h.tokens _ _ hl)] at he
      exact absurd he (hino _ _ hl)
    · rw [hfiles token (h.tokens _ _ hl), hfiles token' (h.tokens _ _ hl')] at he
      exact h.inos name token name' token' hl hl' he
  · rw [LockState.phase_goTo]
    split
    · next hq =>
        refine ⟨Nat.lt_succ_self _, ?_, fun name hl => ?_, trivial⟩
        · show (if s.nextToken = s.nextToken then _ else _ : LockFile).owner = q
          rw [if_pos rfl, hq]
        · rcases hlookup name _ hl with ⟨hn, -⟩ | hl
          · exact hn
          · exact absurd (h.tokens name _ hl) (Nat.lt_irrefl _)
    · refine (h.phases q).of_frame (Nat.le_succ _) (fun token hlt _ => hfiles token hlt) (fun token draft hphase hnames name hl => ?_)
        (fun token _ _ hphase hnone => ?_) (fun token _ _ _ hpublic => hpublic.imp_right fun hl => ?_)
      · rcases hlookup name token hl with ⟨hn, rfl⟩ | hl
        · exact hn
        · exact hnames name hl
      · rw [Option.eq_none_iff_forall_ne_some] at hnone ⊢
        intro file hl
        rcases hlookup _ file hl with ⟨hn, -⟩ | hl
        · have htoken : token = s.nextToken := Artifact.create.inj (LockName.temporary.inj hn)
          have hlt := (h.phase hphase).1
          exact absurd (htoken ▸ hlt) (Nat.lt_irrefl _)
        · exact hnone file hl
      · exact (AList.lookup_insert_ne (lock_ne _)).trans hl

theorem LockFiles.write {token : Token} (h : LockFiles s) (hphase : s.phase p = .drafting token .writing) :
    LockFiles (s.draft p token .writing) := by
  obtain ⟨htoken, howner, hnames, -⟩ := h.phase hphase
  have hother : ∀ t, t ≠ token →
      (if t = token then ({ s.files token with written := true } : LockFile) else s.files t) = s.files t :=
    fun t ht => if_neg ht
  have hino : ∀ t, (if t = token then ({ s.files token with written := true } : LockFile) else s.files t).ino = (s.files t).ino := by
    intro t
    split
    · next ht => rw [ht]
    · rfl
  refine ⟨h.tokens, h.tombstones, h.created, fun t hl => ?_, fun name t name' t' hl hl' he => ?_, fun q => ?_⟩
  · have hne : t ≠ token := by
      rintro rfl
      exact LockName.noConfusion (hnames _ hl)
    show (if t = token then _ else s.files t).written = true
    rw [hother t hne]
    exact h.written t hl
  · exact h.inos name t name' t' hl hl' ((hino t).symm.trans (Eq.trans he (hino t')))
  · by_cases hq : q = p
    · subst hq
      have hphase' : (s.draft q token .writing).phase q = .drafting token .inspecting := LockState.phase_goTo_self ..
      rw [hphase']
      refine ⟨htoken, ?_, hnames, ?_⟩
      · show (if token = token then _ else _ : LockFile).owner = q
        rw [if_pos rfl]
        exact howner
      · show (if token = token then _ else _ : LockFile).written = true
        rw [if_pos rfl]
    · have hphase' : (s.draft p token .writing).phase q = s.phase q := LockState.phase_goTo_other _ _ hq
      rw [hphase']
      refine (h.phases q).of_frame (le_refl _) (fun t _ ht => hother t ?_) (fun _ _ _ hn => hn) (fun _ _ _ _ hn => hn)
        (fun _ _ _ _ hn => hn)
      rintro rfl
      exact hq (ht.symm.trans howner)

theorem LockFiles.publish {token file identity : Nat} (h : LockFiles s) (hphase : s.phase p = .drafting token (.linking identity))
    (hfound : s.directory.lookup (.create token) = some file) (habsent : s.directory.lookup .lock = none) :
    LockFiles (({ s with directory := s.directory.insert .lock file } : LockState).goTo p (.owning token identity .unlinking)) := by
  obtain ⟨htoken, howner, hnames, hwritten, hino⟩ := h.phase hphase
  have hfile : file = token := h.created token file hfound
  subst hfile
  have hlookup : ∀ name t, (s.directory.insert .lock file).lookup name = some t →
      (name = .lock ∧ t = file) ∨ (name ≠ .lock ∧ s.directory.lookup name = some t) := by
    intro name t hl
    rcases Directory.lookup_insert_iff.mp hl with ⟨hn, ht⟩ | hl
    · exact .inl ⟨hn, ht.symm⟩
    · exact .inr hl
  refine ⟨fun name t hl => ?_, fun u t hl => ?_, fun t f hl => ?_, fun t hl => ?_, fun name t name' t' hl hl' he => ?_,
    fun q => ?_⟩
  · rcases hlookup name t hl with ⟨-, rfl⟩ | ⟨-, hl⟩
    · exact htoken
    · exact h.tokens name t hl
  · rcases hlookup _ t hl with ⟨hn, -⟩ | ⟨-, hl⟩
    · nomatch hn
    · exact h.tombstones u t hl
  · rcases hlookup _ f hl with ⟨hn, -⟩ | ⟨-, hl⟩
    · nomatch hn
    · exact h.created t f hl
  · rcases hlookup _ t hl with ⟨-, rfl⟩ | ⟨hn, -⟩
    · exact hwritten
    · exact absurd rfl hn
  · have hname : ∀ name t, (s.directory.insert .lock file).lookup name = some t → ∃ name', s.directory.lookup name' = some t := by
      intro name t hl
      rcases hlookup name t hl with ⟨-, rfl⟩ | ⟨-, hl⟩
      · exact ⟨_, hfound⟩
      · exact ⟨_, hl⟩
    obtain ⟨m, hm⟩ := hname name t hl
    obtain ⟨m', hm'⟩ := hname name' t' hl'
    exact h.inos m t m' t' hm hm' he
  · rw [LockState.phase_goTo]
    split
    · next hq => exact ⟨htoken, hq ▸ howner, hino, fun ho => absurd rfl ho, .inr (AList.lookup_insert _)⟩
    · next hq =>
        refine (h.phases q).of_frame (le_refl _) (fun _ _ _ => rfl) (fun t draft hdraft hn name hl => ?_)
          (fun t _ _ _ hnone => (AList.lookup_insert_ne (lock_ne _).symm).trans hnone) (fun t _ _ _ hpublic => hpublic.imp_right fun hl => ?_)
        · rcases hlookup name t hl with ⟨-, rfl⟩ | ⟨-, hl⟩
          · exact absurd ((h.phase hdraft).2.1.symm.trans howner) hq
          · exact hn name hl
        · nomatch habsent.symm.trans hl

/-- The public name is taken away, from a lock that no process owns any more or by a clear command. -/
theorem LockFiles.unlinkLock {s' : LockState} (h : LockFiles s)
    (hdirectory : s'.directory = s.directory.erase .lock) (hfiles : s'.files = s.files) (hnext : s'.nextToken = s.nextToken)
    (htombstone : s'.nextTombstone = s.nextTombstone) (hphase : (s'.phase p).isFree = true ∨ ∃ u r, s'.phase p = .reclaiming u r)
    (hphases : ∀ q, q ≠ p → s'.phase q = s.phase q) (hlive : s.clearedLive = true → s'.clearedLive = true)
    (howned : ∀ q token identity ownership, q ≠ p → s.phase q = .owning token identity ownership →
      s.directory.lookup .lock = some token → s'.clearedLive = true) : LockFiles s' := by
  have hsub : ∀ name token, s'.directory.lookup name = some token → s.directory.lookup name = some token := by
    intro name token hl
    rw [hdirectory] at hl
    exact (Directory.lookup_erase_iff.mp hl).2
  refine ⟨fun name token hl => hnext ▸ h.tokens name token (hsub _ _ hl),
    fun u token hl => htombstone ▸ h.tombstones u token (hsub _ _ hl), fun token file hl => h.created token file (hsub _ _ hl),
    fun token hl => hfiles ▸ h.written token (hsub _ _ hl),
    fun _ _ _ _ hl hl' he => h.inos _ _ _ _ (hsub _ _ hl) (hsub _ _ hl') (by rwa [hfiles] at he), fun q => ?_⟩
  by_cases hq : q = p
  · subst hq
    rcases hphase with hfree | ⟨u, r, hr⟩
    · exact Phase.fits_of_free hfree
    · rw [hr]
      trivial
  · rw [hphases q hq]
    refine (h.phases q).of_frame (hnext.symm ▸ le_refl _) (fun token _ _ => by rw [hfiles])
      (fun token _ _ hnames name hl => hnames name (hsub _ _ hl)) (fun token _ _ _ hnone => ?_)
      (fun token identity ownership hphase hpublic => .inl ?_)
    · rw [Option.eq_none_iff_forall_ne_some] at hnone ⊢
      exact fun file hl => hnone file (hsub _ _ hl)
    · rcases hpublic with hpublic | hpublic
      · exact hlive hpublic
      · exact howned q token identity ownership hq hphase hpublic

theorem bury_eq {expectedToken token : Token} {before : Nat} (hfound : s.directory.lookup .lock = some token) :
    s.bury p expectedToken before =
      ({ s with
        directory := s.directory.insert (.reclaim s.nextTombstone) token
        nextTombstone := s.nextTombstone + 1 } : LockState).goTo p (.reclaiming s.nextTombstone (.holding expectedToken before)) := by
  unfold LockState.bury
  rw [hfound]

theorem LockFiles.bury {expectedToken token : Token} {before : Nat} (h : LockFiles s)
    (hfound : s.directory.lookup .lock = some token) : LockFiles (s.bury p expectedToken before) := by
  have hlookup : ∀ name t, (s.directory.insert (.reclaim s.nextTombstone) token).lookup name = some t →
      (name = .reclaim s.nextTombstone ∧ t = token) ∨ s.directory.lookup name = some t := by
    intro name t hl
    rcases Directory.lookup_insert_iff.mp hl with ⟨hn, ht⟩ | ⟨-, hl⟩
    · exact .inl ⟨hn, ht.symm⟩
    · exact .inr hl
  rw [bury_eq hfound]
  refine ⟨fun name t hl => ?_, fun u t hl => ?_, fun t f hl => ?_, fun t hl => ?_, fun name t name' t' hl hl' he => ?_,
    fun q => ?_⟩
  · rcases hlookup name t hl with ⟨-, rfl⟩ | hl
    · exact h.tokens _ t hfound
    · exact h.tokens name t hl
  · rcases hlookup _ t hl with ⟨hn, -⟩ | hl
    · rw [Artifact.reclaim.inj (LockName.temporary.inj hn)]
      exact Nat.lt_succ_self _
    · exact Nat.lt_succ_of_lt (h.tombstones u t hl)
  · rcases hlookup _ f hl with ⟨hn, -⟩ | hl
    · nomatch hn
    · exact h.created t f hl
  · rcases hlookup _ t hl with ⟨hn, -⟩ | hl
    · nomatch hn
    · exact h.written t hl
  · have hname : ∀ name t, (s.directory.insert (.reclaim s.nextTombstone) token).lookup name = some t →
        ∃ name', s.directory.lookup name' = some t := by
      intro name t hl
      rcases hlookup name t hl with ⟨-, rfl⟩ | hl
      · exact ⟨_, hfound⟩
      · exact ⟨_, hl⟩
    obtain ⟨m, hm⟩ := hname name t hl
    obtain ⟨m', hm'⟩ := hname name' t' hl'
    exact h.inos m t m' t' hm hm' he
  · rw [LockState.phase_goTo]
    split
    · trivial
    · refine (h.phases q).of_frame (le_refl _) (fun _ _ _ => rfl) (fun t draft hdraft hn name hl => ?_)
        (fun t _ _ _ hnone => (AList.lookup_insert_ne (create_ne_reclaim _ _)).trans hnone)
        (fun t _ _ _ hpublic => hpublic.imp_right fun hl => (AList.lookup_insert_ne (lock_ne _)).trans hl)
      rcases hlookup name t hl with ⟨-, rfl⟩ | hl
      · nomatch hn _ hfound
      · exact hn name hl

theorem LockFiles.move (h : LockFiles s) (hmove : LockMove s p s') : LockFiles s' := by
  cases hmove with
  | rest free gone => exact h.goTo (Phase.fits_of_free free)
  | take free gone => exact (h.unlink _).goTo (Phase.fits_of_free free)
  | create phase created => exact h.create created
  | write phase => exact h.write phase
  | @inspect token stat phase found =>
    obtain ⟨htoken, howner, hnames, hwritten⟩ := h.phase phase
    obtain ⟨file, hfile, rfl⟩ := Option.map_eq_some_iff.mp found
    rw [h.created token file hfile]
    exact h.goTo ⟨htoken, howner, hnames, hwritten, rfl⟩
  | publish phase found absent => exact h.publish phase found absent
  | @settle token identity phase =>
    obtain ⟨htoken, howner, hino, -, hpublic⟩ := h.phase phase
    refine (h.unlink (.create token)).goTo ⟨htoken, howner, hino, fun _ => AList.lookup_erase _ _, hpublic.imp_right fun hl => ?_⟩
    exact (AList.lookup_erase_ne (lock_ne _)).trans hl
  | settled phase gone =>
    obtain ⟨htoken, howner, hino, -, hpublic⟩ := h.phase phase
    exact h.goTo ⟨htoken, howner, hino, fun _ => gone, hpublic⟩
  | own phase was is =>
    obtain ⟨htoken, howner, hino, hcreate, hpublic⟩ := h.phase phase
    exact h.goTo ⟨htoken, howner, hino, fun _ => hcreate was, hpublic⟩
  | @release token identity phase =>
    obtain ⟨-, howner, -, -, hpublic⟩ := h.phase phase
    refine h.unlinkLock rfl rfl rfl rfl (.inl (by rw [LockState.phase_goTo_self]; rfl))
      (fun q hq => LockState.phase_goTo_other _ _ hq) (fun h => h) fun q t _ _ hq hphase hlock => ?_
    -- two processes that own the same lock are the same
    rcases hpublic with hcleared | hpublic
    · exact hcleared
    · have howner' := (h.phase hphase).2.1
      rw [Option.some.inj (hlock.symm.trans hpublic)] at howner'
      exact absurd (howner'.symm.trans howner) hq
  | bury phase found => exact h.bury found
  | reclaim phase is => exact h.goTo trivial
  | agree phase same => exact h.goTo trivial
  | @clear tombstone expectedToken token phase found =>
    refine h.unlinkLock rfl rfl rfl rfl (.inr ⟨_, _, LockState.phase_goTo_self ..⟩)
      (fun q hq => LockState.phase_goTo_other _ _ hq) (fun h => Bool.or_eq_true_iff.mpr (.inl h)) fun q t i o _ hphase hlock => ?_
    -- the process of the lock that is taken is there
    refine Bool.or_eq_true_iff.mpr (.inr ?_)
    have howner := (h.phase hphase).2.1
    unfold LockState.isLive
    rw [Option.some.inj (found.symm.trans hlock), howner, hphase]
    exact decide_eq_true rfl

theorem LockFiles.step {call : LockCall} (h : LockFiles s) (hs : lockStep s call = some s') : LockFiles s' := by
  unfold lockStep at hs
  cases call with
  | acquire p now | read p | clear p expectedToken now =>
    dsimp only at hs
    split at hs
    · rw [← Option.some.inj hs]
      exact h.goTo trivial
    · nomatch hs
  | inspect p =>
    rw [← Option.some.inj hs]
    exact h
  | release p =>
    dsimp only at hs
    split at hs
    · next hphase =>
        rw [← Option.some.inj hs]
        exact h.move (.own hphase nofun nofun)
    · nomatch hs
  | crash p =>
    rw [← Option.some.inj hs]
    exact h.goTo trivial
  | advance p choice => exact h.move (advance_move hs)

theorem LockFiles.initial : LockFiles .initial :=
  ⟨nofun, nofun, nofun, nofun, nofun, fun _ => trivial⟩

end

end PerPay.Backup
