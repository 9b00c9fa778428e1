import Mathlib

/-!
The media intent ledger: the rows of `channel_media_pending_object` and the statements that
record, bind, claim, renew, release, tombstone and drop them.
-/

namespace MulticaOS.Media

inductive RowState
  | pending
  | deleting
  | tombstoned
  deriving DecidableEq

/-- The lease columns are set and cleared together. Times are in microseconds of the database clock. -/
structure LedgerRow where
  workspaceID : String
  chatMessageID : String
  storageURL : String
  state : RowState
  leaseToken : Option Nat
  leaseExpiresAt : Option Nat
  attempt : Nat
  nextAttemptAt : Nat
  tombstonePass : Nat
  createdAt : Nat
  deriving DecidableEq

structure ClaimedRow where
  storageKey : String
  row : LedgerRow
  deriving DecidableEq

abbrev Ledger := String → Option LedgerRow

def Ledger.set (ledger : Ledger) (key : String) (row : Option LedgerRow) : Ledger :=
  fun other => if other = key then row else ledger other

@[simp] theorem Ledger.set_same (ledger : Ledger) (key : String) (row : Option LedgerRow) :
    ledger.set key row key = row := if_pos rfl

@[simp] theorem Ledger.set_other (ledger : Ledger) {key other : String} (row : Option LedgerRow)
    (different : other ≠ key) : ledger.set key row other = ledger other := if_neg different

def minute : Nat := 60 * 1000000

def settleDelay : Nat := 15 * minute

def reconcileLease : Nat := 2 * minute

def batchLimit : Nat := 50

def backoffBase : Nat := minute

def backoffCap : Nat := 60 * minute

def tombstoneRedelete : List Nat := [15 * minute, 60 * minute, 6 * 60 * minute, 24 * 60 * minute]

structure Intent where
  storageKey : String
  workspaceID : String
  chatMessageID : String
  storageURL : String
  deriving DecidableEq

/-- `RecordChannelMediaPendingObject`: nothing when the conflicting row is no longer pending, or another
workspace's. -/
def Ledger.record (ledger : Ledger) (intent : Intent) (now : Nat) : Option Ledger :=
  match ledger intent.storageKey with
  | none =>
      some (ledger.set intent.storageKey (some ⟨intent.workspaceID, intent.chatMessageID,
        intent.storageURL, .pending, none, none, 0, now, 0, now⟩))
  | some row =>
      if row.state = .pending ∧ row.workspaceID = intent.workspaceID then
        some (ledger.set intent.storageKey (some { row with
          createdAt := now, nextAttemptAt := now, chatMessageID := intent.chatMessageID
          storageURL := intent.storageURL }))
      else none

def Ledger.bindable (ledger : Ledger) (keys : List String) (workspaceID : String) : List String :=
  keys.dedup.filter fun key =>
    (ledger key).any fun row => decide (row.state = .pending) && decide (row.workspaceID = workspaceID)

def Ledger.without (ledger : Ledger) (keys : List String) : Ledger :=
  fun key => if key ∈ keys then none else ledger key

def LedgerRow.unleased (row : LedgerRow) (now : Nat) : Bool :=
  row.leaseExpiresAt.all fun expires => decide (expires ≤ now)

def LedgerRow.due (row : LedgerRow) (now : Nat) : Bool :=
  decide (row.nextAttemptAt ≤ now) &&
    match row.state with
    | .pending => decide (row.createdAt + settleDelay ≤ now)
    | .deleting => row.unleased now
    | .tombstoned => row.unleased now

def LedgerRow.claim (row : LedgerRow) (token now : Nat) : LedgerRow :=
  { row with
    state := if row.state = .tombstoned then .tombstoned else .deleting
    leaseToken := some token
    leaseExpiresAt := some (now + reconcileLease)
    attempt := row.attempt + 1 }

def LedgerRow.ownedBy (row : LedgerRow) (workspaceID : String) (token : Nat) : Bool :=
  decide (row.workspaceID = workspaceID) && decide (row.leaseToken = some token)

def Ledger.owned (ledger : Ledger) (key workspaceID : String) (token : Nat) : Bool :=
  (ledger key).any fun row => row.ownedBy workspaceID token

def Ledger.change (ledger : Ledger) (key workspaceID : String) (token : Nat)
    (change : LedgerRow → Option LedgerRow) : Ledger :=
  if ledger.owned key workspaceID token then ledger.set key ((ledger key).bind change) else ledger

def LedgerRow.renew (now : Nat) (row : LedgerRow) : Option LedgerRow :=
  some { row with leaseExpiresAt := some (now + reconcileLease) }

def LedgerRow.release (now backoff : Nat) (row : LedgerRow) : Option LedgerRow :=
  some { row with leaseToken := none, leaseExpiresAt := none, nextAttemptAt := now + backoff }

def LedgerRow.tombstone (now delay pass : Nat) (row : LedgerRow) : Option LedgerRow :=
  some { row with
    state := .tombstoned, leaseToken := none, leaseExpiresAt := none
    nextAttemptAt := now + delay, tombstonePass := pass }

def LedgerRow.drop (_ : LedgerRow) : Option LedgerRow := none

/-- `nextTombstonePass`: the delay before the next re-delete and its position in the schedule. -/
def nextTombstonePass (row : LedgerRow) : Option (Nat × Nat) :=
  let pass := if row.state = .tombstoned then row.tombstonePass + 1 else 0
  match tombstoneRedelete[pass]? with
  | none => none
  | some delay => some (delay, pass)

def LedgerRow.exhausted (row : LedgerRow) : Bool :=
  decide (row.state = .tombstoned) && decide (tombstoneRedelete.length ≤ row.tombstonePass + 1)

theorem nextTombstonePass_eq_none (row : LedgerRow) : nextTombstonePass row = none ↔ row.exhausted = true := by
  have short : ∀ pass, tombstoneRedelete[pass]? = none ↔ tombstoneRedelete.length ≤ pass :=
    fun pass => List.getElem?_eq_none_iff
  unfold nextTombstonePass LedgerRow.exhausted
  by_cases tombstoned : row.state = .tombstoned
  · simp only [tombstoned, if_true, decide_true, Bool.true_and, decide_eq_true_eq]
    rw [← short]
    cases tombstoneRedelete[row.tombstonePass + 1]? <;> simp
  · simp [tombstoned, tombstoneRedelete]

def releaseBackoff (attempt : Nat) : Nat := min (backoffBase * 2 ^ min (attempt - 1) 10) backoffCap

end MulticaOS.Media
