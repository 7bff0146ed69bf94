/-
  **The backup lock** (`backup/lock.ts`): a file beside the backups that says who works on them.

  Any number of processes acquire, read, inspect and release it, and operators clear it; each call of the file system
  is one step.  The lock is written under a private name, and published by a hard link that never replaces
  anything; the private name is taken away afterwards, by the publisher or by anybody who looks at the artifacts
  that an interrupted process left.  A clear command holds what it removes by a hard link of its own.

  A file is known by its token: every acquisition draws one, and makes one file.  Its inode number is free for
  others when it has no name any more.  One directory is on one device, so identities are inode numbers.
-/
import PerPay.Lib.Directory
import PerPay.Lib.Runs

namespace PerPay.Backup

/-! ## The directory -/

/-- The token of an acquisition, and the file it makes. -/
abbrev Token := Nat

inductive Artifact
  /-- `.perpay-local-backup-lock-….tmp`, of the acquisition that made it -/
  | create (token : Token)
  /-- `perpay-local-backup-lock-reclaim-….tmp` -/
  | reclaim (id : Nat)
  deriving DecidableEq, Repr

inductive LockName
  /-- `perpay-local-backup.lock` -/
  | lock
  | temporary (artifact : Artifact)
  deriving DecidableEq, Repr

@[match_pattern] abbrev LockName.create (token : Token) : LockName := .temporary (.create token)

@[match_pattern] abbrev LockName.reclaim (id : Nat) : LockName := .temporary (.reclaim id)

def LockName.artifact : LockName → Option Artifact
  | .lock => none
  | .temporary artifact => some artifact

structure LockFile where
  ino : Nat
  /-- the process that made it -/
  owner : Nat
  createdAt : Int
  /-- all bytes were written -/
  written : Bool
  deriving DecidableEq, Repr

structure LockStat where
  ino : Nat
  nlink : Nat
  deriving DecidableEq, Repr

/-- `BACKUP_LOCK_STALE_MILLISECONDS` -/
def backupLockStale : Int := 7 * 60 * 60 * 1000

/-! ## Processes -/

/-- What `recoverInterruptedLockArtifacts` and `readBackupLock` are called for. -/
inductive Goal
  | acquire (now : Int)
  /-- for the message of `acquireBackupLock` -/
  | existing
  | read
  /-- at the beginning of `clearStaleBackupLock`; where it reads; where `removeExactLock` reads -/
  | clear (expectedToken : Token) (now : Int)
  | check (expectedToken : Token) (now : Int)
  | confirm (expectedToken : Token) (before : Nat)
  deriving DecidableEq, Repr

/-- `recoverInterruptedLockArtifacts` -/
inductive Recovery
  | listing
  | scanning (names : List Artifact)
  | comparing (temporary : Artifact) (temporaryStat : LockStat) (names : List Artifact)
  | removing (temporary : Artifact) (names : List Artifact)
  deriving DecidableEq, Repr

/-- `createLock`, before the lock is published -/
inductive Draft
  | writing
  | inspecting
  | linking (identity : Nat)
  deriving DecidableEq, Repr

/-- `inspectOwnedPublishedLock` and `release` look at the name, read the token, and go on. -/
inductive Look
  | before | reading | after
  deriving DecidableEq, Repr

/-- A process whose lock is published -/
inductive Ownership
  | unlinking
  /-- `inspectOwnedPublishedLock`, where the temporary name was gone, and at the end -/
  | inspecting (last : Bool) (look : Look)
  | holding
  | releasing (look : Look)
  deriving DecidableEq, Repr

/-- `removeExactLock`, once its tombstone is linked -/
inductive Reclaim
  | holding (expectedToken : Token) (before : Nat)
  | comparing (expectedToken : Token) (before : Nat) (held : LockStat)
  | reading (expectedToken : Token)
  | unlinking (expectedToken : Token)
  | cleaning
  /-- an error was caught -/
  | dropping
  deriving DecidableEq, Repr

inductive Phase
  | idle
  | crashed
  | recovering (goal : Goal) (recovery : Recovery)
  /-- `readBackupLock` after that: `lstat`, then the file is read -/
  | reading (goal : Goal) (checked : Bool)
  | creating (now : Int)
  | drafting (token : Token) (draft : Draft)
  | owning (token : Token) (identity : Nat) (ownership : Ownership)
  /-- an error was caught in `createLock`; the lock was taken, or it was another one -/
  | abandoning (token : Token) (taken : Bool)
  /-- the first `lstat` of `removeExactLock`; the link to its tombstone -/
  | marking (expectedToken : Token)
  | burying (expectedToken : Token) (before : Nat)
  | reclaiming (tombstone : Nat) (reclaim : Reclaim)
  deriving DecidableEq, Repr

structure LockState where
  directory : Directory LockName Token
  files : Token → LockFile
  nextToken : Token
  nextTombstone : Nat
  phases : AList fun _ : Nat => Phase
  /-- a clear command took the lock of a process that was there -/
  clearedLive : Bool
  /-- what clear commands were given, and the token of what they removed -/
  removed : List (Token × Token)

def LockState.initial : LockState := ⟨∅, fun _ => ⟨0, 0, 0, false⟩, 0, 0, ∅, false, []⟩

def LockState.phase (s : LockState) (p : Nat) : Phase := (s.phases.lookup p).getD .idle

def LockState.goTo (s : LockState) (p : Nat) (phase : Phase) : LockState := { s with phases := s.phases.insert p phase }

/-- `lstatSync` -/
def LockState.lstat (s : LockState) (name : LockName) : Option LockStat :=
  (s.directory.lookup name).map fun token => ⟨(s.files token).ino, s.directory.links token⟩

/-- `readFileSync` of the lock, and `parseLockRecord` -/
def LockState.readToken (s : LockState) : Option Token :=
  (s.directory.lookup .lock).filter fun token => (s.files token).written

def LockState.unlink (s : LockState) (name : LockName) : LockState := { s with directory := s.directory.erase name }

/-- The lock that a process has published, and has not released. -/
def Phase.lock : Phase → Option Token
  | .owning token _ _ => some token
  | _ => none

/-- The process of the lock is there, and has not released it. -/
def LockState.isLive (s : LockState) (token : Token) : Bool := (s.phase (s.files token).owner).lock = some token

/-! ## The steps of a process -/

/-- What the directory decides: the order in which names are read, and the number of a new inode. -/
structure Choice where
  names : List Artifact
  ino : Nat

/-- `recoverInterruptedLockArtifacts` is through. -/
def Goal.recovered : Goal → Phase
  | .acquire now => .creating now
  | .clear expectedToken now => .recovering (.check expectedToken now) .listing
  | goal => .reading goal false

/-- A reclaim name is taken away, and a creation name with one link is left alone. -/
def LockState.passBy (s : LockState) (p : Nat) (goal : Goal) (stat : LockStat) (names : List Artifact) : Artifact → LockState
  | .create _ => if stat.nlink = 1 then s.goTo p (.recovering goal (.scanning names)) else s.goTo p .idle
  | temporary => s.goTo p (.recovering goal (.removing temporary names))

def LockState.recover (s : LockState) (p : Nat) (choice : Choice) (goal : Goal) : Recovery → Option LockState
  | .listing =>
    if choice.names.Perm (s.directory.keys.filterMap (·.artifact)) then
      some (s.goTo p (.recovering goal (.scanning choice.names)))
    else none
  | .scanning [] => some (s.goTo p goal.recovered)
  | .scanning (temporary :: names) =>
    match s.lstat (.temporary temporary) with
    | none => some (s.goTo p .idle)
    | some stat =>
      if stat.nlink ≠ 1 ∧ stat.nlink ≠ 2 then some (s.goTo p .idle)
      else some (s.goTo p (.recovering goal (.comparing temporary stat names)))
  | .comparing temporary stat names =>
    match s.lstat .lock with
    | none => some (s.passBy p goal stat names temporary)
    | some publicStat =>
      if publicStat.ino = stat.ino then
        if publicStat.nlink ≠ 2 ∨ stat.nlink ≠ 2 then some (s.goTo p .idle)
        else some (s.goTo p (.recovering goal (.removing temporary names)))
      else some (s.passBy p goal stat names temporary)
  | .removing temporary names =>
    match s.directory.lookup (.temporary temporary) with
    | none => some (s.goTo p .idle)
    | some _ => some ((s.unlink (.temporary temporary)).goTo p (.recovering goal (.scanning names)))

/-- The record was read. -/
def Goal.hasRead (goal : Goal) (token : Token) (file : LockFile) : Phase :=
  match goal with
  | .check expectedToken now =>
    if token = expectedToken ∧ file.createdAt ≤ now ∧ backupLockStale < now - file.createdAt then .marking expectedToken
    else .idle
  | .confirm expectedToken before => if token = expectedToken then .burying expectedToken before else .idle
  | _ => .idle

/-- `readBackupLock`, after the artifacts -/
def LockState.read (s : LockState) (p : Nat) (goal : Goal) (checked : Bool) : LockState :=
  if checked then
    match s.readToken with
    | none => s.goTo p .idle
    | some token => s.goTo p (goal.hasRead token (s.files token))
  else
    match s.lstat .lock with
    | none => s.goTo p .idle
    | some stat => if stat.nlink = 1 then s.goTo p (.reading goal true) else s.goTo p .idle

/-- `openSync(temporary, "wx")` -/
def LockState.create (s : LockState) (p : Nat) (choice : Choice) (now : Int) : Option LockState :=
  if s.directory.entries.all fun e => (s.files e.2).ino ≠ choice.ino then
    some (({ s with
      directory := s.directory.insert (.create s.nextToken) s.nextToken
      files := fun token => if token = s.nextToken then ⟨choice.ino, p, now, false⟩ else s.files token
      nextToken := s.nextToken + 1 } : LockState).goTo p (.drafting s.nextToken .writing))
  else none

def LockState.draft (s : LockState) (p : Nat) (token : Token) : Draft → LockState
  | .writing =>
    ({ s with files := fun t => if t = token then { s.files token with written := true } else s.files t } : LockState).goTo p
      (.drafting token .inspecting)
  | .inspecting =>
    match s.lstat (.create token) with
    | none => s.goTo p (.abandoning token false)
    | some stat =>
      if stat.nlink = 1 then s.goTo p (.drafting token (.linking stat.ino)) else s.goTo p (.abandoning token false)
  | .linking identity =>
    match s.directory.lookup (.create token) with
    | none => s.goTo p (.abandoning token false)
    | some file =>
      match s.directory.lookup .lock with
      | some _ => s.goTo p (.abandoning token true)
      | none => ({ s with directory := s.directory.insert .lock file } : LockState).goTo p (.owning token identity .unlinking)

/-- `inspectOwnedPublishedLock` fails within the part of `createLock` whose errors are caught, or after it. -/
def Phase.notOwned (token : Token) (last : Bool) : Phase := if last then .idle else .abandoning token false

/-- What `inspectLockIdentity` and `release` ask of the public name. -/
def LockState.isOwn (s : LockState) (identity : Nat) : Bool :=
  (s.lstat .lock).any fun stat => stat.nlink = 1 && stat.ino = identity

def LockState.own (s : LockState) (p : Nat) (token : Token) (identity : Nat) : Ownership → Option LockState
  | .unlinking =>
    match s.directory.lookup (.create token) with
    | some _ => some ((s.unlink (.create token)).goTo p (.owning token identity (.inspecting true .before)))
    | none => some (s.goTo p (.owning token identity (.inspecting false .before)))
  | .inspecting last .before =>
    some (s.goTo p (if s.isOwn identity then .owning token identity (.inspecting last .reading) else .notOwned token last))
  | .inspecting last .reading =>
    some (s.goTo p (if s.readToken = some token then .owning token identity (.inspecting last .after) else .notOwned token last))
  | .inspecting last .after =>
    some (s.goTo p (
      if s.isOwn identity then
        if last then .owning token identity .holding else .owning token identity (.inspecting true .before)
      else .notOwned token last))
  | .holding => none
  | .releasing .before =>
    some (s.goTo p (.owning token identity (if s.isOwn identity then .releasing .reading else .holding)))
  | .releasing .reading =>
    some (s.goTo p (.owning token identity (if s.readToken = some token then .releasing .after else .holding)))
  | .releasing .after =>
    match s.directory.lookup .lock with
    | none => some (s.goTo p (.owning token identity .holding))
    | some _ => some ((s.unlink .lock).goTo p .idle)

/-- The error of `createLock` is thrown once the temporary name is taken away. -/
def LockState.abandon (s : LockState) (p : Nat) (token : Token) (taken : Bool) : LockState :=
  (s.unlink (.create token)).goTo p (if taken then .recovering .existing .listing else .idle)

/-- The first `lstat` of `removeExactLock` -/
def LockState.mark (s : LockState) (p : Nat) (expectedToken : Token) : LockState :=
  match s.lstat .lock with
  | none => s.goTo p .idle
  | some stat => if stat.nlink = 1 then s.goTo p (.recovering (.confirm expectedToken stat.ino) .listing) else s.goTo p .idle

/-- `linkSync(path, tombstone)` -/
def LockState.bury (s : LockState) (p : Nat) (expectedToken : Token) (before : Nat) : LockState :=
  match s.directory.lookup .lock with
  | none => s.goTo p .idle
  | some token =>
    ({ s with directory := s.directory.insert (.reclaim s.nextTombstone) token, nextTombstone := s.nextTombstone + 1 } :
      LockState).goTo p (.reclaiming s.nextTombstone (.holding expectedToken before))

/-- `unlinkSync(path)` in `removeExactLock` -/
def LockState.clear (s : LockState) (expectedToken token : Token) : LockState :=
  { s.unlink .lock with
      clearedLive := s.clearedLive || s.isLive token
      removed := s.removed ++ [(expectedToken, token)] }

def LockState.reclaim (s : LockState) (p : Nat) (tombstone : Nat) : Reclaim → LockState
  | .holding expectedToken before =>
    match s.lstat .lock with
    | none => s.goTo p (.reclaiming tombstone .dropping)
    | some held => s.goTo p (.reclaiming tombstone (.comparing expectedToken before held))
  | .comparing expectedToken before held =>
    match s.lstat (.reclaim tombstone) with
    | none => s.goTo p (.reclaiming tombstone .dropping)
    | some heldTombstone =>
      if held.ino = before ∧ heldTombstone.ino = before ∧ held.nlink = 2 ∧ heldTombstone.nlink = 2 then
        s.goTo p (.reclaiming tombstone (.reading expectedToken))
      else s.goTo p (.reclaiming tombstone .dropping)
  | .reading expectedToken =>
    if s.readToken = some expectedToken then s.goTo p (.reclaiming tombstone (.unlinking expectedToken))
    else s.goTo p (.reclaiming tombstone .dropping)
  | .unlinking expectedToken =>
    match s.directory.lookup .lock with
    | none => s.goTo p (.reclaiming tombstone .dropping)
    | some token => (s.clear expectedToken token).goTo p (.reclaiming tombstone .cleaning)
  | .cleaning =>
    match s.directory.lookup (.reclaim tombstone) with
    | none => s.goTo p (.reclaiming tombstone .dropping)
    | some _ => (s.unlink (.reclaim tombstone)).goTo p .idle
  | .dropping => (s.unlink (.reclaim tombstone)).goTo p .idle

/-- The next call of a process to the file system -/
def LockState.advance (s : LockState) (p : Nat) (choice : Choice) : Option LockState :=
  match s.phase p with
  | .idle | .crashed => none
  | .recovering goal recovery => s.recover p choice goal recovery
  | .reading goal checked => some (s.read p goal checked)
  | .creating now => s.create p choice now
  | .drafting token draft => some (s.draft p token draft)
  | .owning token identity ownership => s.own p token identity ownership
  | .abandoning token taken => some (s.abandon p token taken)
  | .marking expectedToken => some (s.mark p expectedToken)
  | .burying expectedToken before => some (s.bury p expectedToken before)
  | .reclaiming tombstone reclaim => some (s.reclaim p tombstone reclaim)

/-! ## The system -/

inductive LockCall
  | acquire (p : Nat) (now : Int)
  | read (p : Nat)
  /-- `inspectBackupLock` changes nothing, and may be interrupted anywhere. -/
  | inspect (p : Nat)
  | release (p : Nat)
  | clear (p : Nat) (expectedToken : Token) (now : Int)
  | crash (p : Nat)
  | advance (p : Nat) (choice : Choice)

def lockStep (s : LockState) : LockCall → Option LockState
  | .acquire p now => if s.phase p = .idle then some (s.goTo p (.recovering (.acquire now) .listing)) else none
  | .read p => if s.phase p = .idle then some (s.goTo p (.recovering .read .listing)) else none
  | .inspect _ => some s
  | .release p =>
    match s.phase p with
    | .owning token identity .holding => some (s.goTo p (.owning token identity (.releasing .before)))
    | _ => none
  | .clear p expectedToken now =>
    if s.phase p = .idle then some (s.goTo p (.recovering (.clear expectedToken now) .listing)) else none
  | .crash p => some (s.goTo p .crashed)
  | .advance p choice => s.advance p choice

def lockSystem : Runs.System LockState LockCall where
  init s := s = LockState.initial
  step s call s' := lockStep s call = some s'

end PerPay.Backup
