import MulticaOS.Lib.Runs
import MulticaOS.Media.Phases

/-!
Ingests and sweeps over one database and one object store: statements that fail with or without
an effect, binds whose commit is in doubt, requests that the store carries out late, and crashes.
-/

namespace MulticaOS.Media

open ProgramLib

structure Attachment where
  workspaceID : String
  chatMessageID : Option String
  url : String
  deriving DecidableEq

/-- The transaction of a bind: the ledger rows that it has deleted and locked, and what it has inserted. -/
structure BindTransaction where
  held : List String
  attachments : List Attachment
  committing : Bool
  deriving DecidableEq

inductive Event
  | claimed (storageKey : String)
  | deleted (storageKey : String)
  | tombstoned (storageKey : String) (pass : Nat)
  deriving DecidableEq

/-- The committed rows, the objects, and the requests that the store has yet to carry out. The latest event
comes first. -/
structure Shared where
  ledger : Ledger
  attachments : List Attachment
  objects : List String
  puts : List String
  deletes : List String
  history : List Event

/-- What goes wrong with a call: it is refused, or it takes effect and its answer is lost, or it may take
effect later. -/
inductive Fault
  | none
  | refused (text : String)
  | lost (text : String)
  | pending (text : String)

def Fault.happens : Fault → Bool
  | .none => true
  | .lost _ => true
  | _ => false

def Fault.later : Fault → Bool
  | .pending _ => true
  | _ => false

def Fault.answer {Value : Type} (fault : Fault) (value : Value) : Except String Value :=
  match fault with
  | .none => .ok value
  | .refused text => .error text
  | .lost text => .error text
  | .pending text => .error text

def Shared.execute (now : Nat) (shared : Shared) : Call → Shared
  | .record intent => { shared with ledger := (shared.ledger.record intent now).getD shared.ledger }
  | .renew storageKey workspaceID leaseToken => { shared with
      ledger := shared.ledger.change storageKey workspaceID leaseToken (LedgerRow.renew now) }
  | .tombstone storageKey workspaceID leaseToken delay pass => { shared with
      ledger := shared.ledger.change storageKey workspaceID leaseToken (LedgerRow.tombstone now delay pass)
      history := if shared.ledger.owned storageKey workspaceID leaseToken then
          .tombstoned storageKey pass :: shared.history else shared.history }
  | .release storageKey workspaceID leaseToken backoff => { shared with
      ledger := shared.ledger.change storageKey workspaceID leaseToken (LedgerRow.release now backoff) }
  | .clear storageKey workspaceID leaseToken => { shared with
      ledger := shared.ledger.change storageKey workspaceID leaseToken LedgerRow.drop }
  | _ => shared

/-- `ClaimChannelMediaPendingObjectsForReconcile`, on the due rows that no bind has locked. The order and the
choice within the limit are left to the environment. -/
def Shared.claimable (shared : Shared) (locked proposed : List String) (now : Nat) : List String :=
  (proposed.dedup.filter fun key =>
    decide (key ∉ locked) && (shared.ledger key).any fun row => row.due now).take batchLimit

def Shared.claimRows (shared : Shared) (taken : List String) (leaseToken now : Nat) : Shared :=
  { shared with
    ledger := fun key => if key ∈ taken then (shared.ledger key).map fun row => row.claim leaseToken now
      else shared.ledger key
    history := taken.map Event.claimed ++ shared.history }

def Shared.rows (shared : Shared) (taken : List String) : List ClaimedRow :=
  taken.filterMap fun key => (shared.ledger key).map fun row => ⟨key, row⟩

def Shared.put (shared : Shared) (storageKey : String) : Shared :=
  { shared with objects := storageKey :: shared.objects }

def Shared.remove (shared : Shared) (storageKey : String) : Shared :=
  { shared with
    objects := shared.objects.filter fun other => decide (other ≠ storageKey)
    history := .deleted storageKey :: shared.history }

def Shared.land (shared : Shared) (opened : BindTransaction) : Shared :=
  { shared with
    ledger := shared.ledger.without opened.held
    attachments := opened.attachments ++ shared.attachments }

def Shared.isReferenced (shared : Shared) (chatMessageID workspaceID storageURL : String) : Bool :=
  shared.attachments.any fun attachment =>
    decide (attachment.chatMessageID = some chatMessageID) && decide (attachment.workspaceID = workspaceID) &&
      decide (attachment.url = storageURL)

structure Served (request : Call) where
  answer : Answer request
  shared : Shared
  transaction : Option BindTransaction
  orphans : List BindTransaction := []
  late : List Call := []

/-- The answer to a call and what it changes. `locked` are the rows that other binds have locked. What a
thread leaves open becomes an orphan that the server has to end, and a statement that may take effect later is
kept. -/
def serve (environment : (request : Call) → Answer request) (fault : Fault) (now : Nat) (locked : List String)
    (shared : Shared) (transaction : Option BindTransaction) : (request : Call) → Served request
  | .record intent =>
      { answer := fault.answer (shared.ledger.record intent now).isSome
        shared := if fault.happens then shared.execute now (.record intent) else shared
        transaction := transaction
        late := if fault.later then [.record intent] else [] }
  | .upload storageKey =>
      { answer := fault.answer ()
        shared :=
          if fault.happens then shared.put storageKey
          else if fault.later then { shared with puts := storageKey :: shared.puts }
          else shared
        transaction := transaction }
  | .begin =>
      match environment .begin with
      | .ok _ => ⟨.ok (), shared, some ⟨[], [], false⟩, transaction.toList, []⟩
      | .error text => ⟨.error text, shared, transaction, [], []⟩
  | .claimForBind storageKeys workspaceID =>
      match transaction with
      | none => ⟨.error "no transaction in progress", shared, none, [], []⟩
      | some opened =>
          let claimed := (shared.ledger.without opened.held).bindable storageKeys workspaceID
          { answer := fault.answer claimed
            shared := shared
            transaction := if fault.happens then some { opened with held := opened.held ++ claimed }
              else some opened }
  | .createAttachment workspaceID url =>
      match environment (.createAttachment workspaceID url), transaction with
      | .ok _, some opened => ⟨.ok (), shared,
          some { opened with attachments := opened.attachments ++ [⟨workspaceID, none, url⟩] }, [], []⟩
      | .ok _, none => ⟨.error "no transaction in progress", shared, none, [], []⟩
      | .error text, _ => ⟨.error text, shared, transaction, [], []⟩
  | .linkAttachments chatMessageID =>
      match environment (.linkAttachments chatMessageID), transaction with
      | .ok _, some opened => ⟨.ok (), shared, some { opened with
          attachments := opened.attachments.map fun attachment =>
            { attachment with chatMessageID := some chatMessageID } }, [], []⟩
      | .ok _, none => ⟨.error "no transaction in progress", shared, none, [], []⟩
      | .error text, _ => ⟨.error text, shared, transaction, [], []⟩
  | .commit =>
      match transaction with
      | none => ⟨.failed "no transaction in progress", shared, none, [], []⟩
      | some opened =>
          match fault with
          | .none => ⟨.committed, shared.land opened, none, [], []⟩
          | .lost text => ⟨.failed text, shared.land opened, none, [], []⟩
          | .refused text => ⟨.failed text, shared, none, [], []⟩
          | .pending text => ⟨.failed text, shared, none, [{ opened with committing := true }], []⟩
  | .rollback => ⟨(), shared, none, if fault.happens then [] else transaction.toList, []⟩
  | .claimForReconcile leaseToken =>
      match environment (.claimForReconcile leaseToken) with
      | .error text => ⟨.error text, shared, transaction, [], []⟩
      | .ok proposed =>
          let taken := shared.claimable locked (proposed.map ClaimedRow.storageKey) now
          let claimed := shared.claimRows taken leaseToken now
          { answer := fault.answer (claimed.rows taken)
            shared := if fault.happens then claimed else shared
            transaction := transaction }
  | .renew storageKey workspaceID leaseToken =>
      { answer := fault.answer (if shared.ledger.owned storageKey workspaceID leaseToken then 1 else 0)
        shared := if fault.happens then shared.execute now (.renew storageKey workspaceID leaseToken)
          else shared
        transaction := transaction
        late := if fault.later then [.renew storageKey workspaceID leaseToken] else [] }
  | .isReferenced chatMessageID workspaceID storageURL =>
      { answer := fault.answer (shared.isReferenced chatMessageID workspaceID storageURL)
        shared := shared
        transaction := transaction }
  | .deleteObject storageKey =>
      { answer := fault.answer ()
        shared :=
          if fault.happens then shared.remove storageKey
          else if fault.later then { shared with deletes := storageKey :: shared.deletes }
          else shared
        transaction := transaction }
  | .tombstone storageKey workspaceID leaseToken delay pass =>
      { answer := ()
        shared := if fault.happens then
            shared.execute now (.tombstone storageKey workspaceID leaseToken delay pass) else shared
        transaction := transaction
        late := if fault.later then [.tombstone storageKey workspaceID leaseToken delay pass] else [] }
  | .release storageKey workspaceID leaseToken backoff =>
      { answer := ()
        shared := if fault.happens then
            shared.execute now (.release storageKey workspaceID leaseToken backoff) else shared
        transaction := transaction
        late := if fault.later then [.release storageKey workspaceID leaseToken backoff] else [] }
  | .clear storageKey workspaceID leaseToken =>
      { answer := ()
        shared := if fault.happens then shared.execute now (.clear storageKey workspaceID leaseToken)
          else shared
        transaction := transaction
        late := if fault.later then [.clear storageKey workspaceID leaseToken] else [] }
  | request => ⟨environment request, shared, transaction, [], []⟩

/-- The ledger rows that a statement waits for, where another transaction has locked them. -/
def Call.rows : Call → List String
  | .record intent => [intent.storageKey]
  | .claimForBind storageKeys _ => storageKeys
  | .renew storageKey _ _ => [storageKey]
  | .tombstone storageKey _ _ _ _ => [storageKey]
  | .release storageKey _ _ _ => [storageKey]
  | .clear storageKey _ _ => [storageKey]
  | _ => []

structure Thread where
  program : Program Unit
  transaction : Option BindTransaction

structure Attempt where
  workspaceID : String
  installationID : String
  chatMessageID : String
  resource : Resource
  deriving DecidableEq

def Attempt.subject (attempt : Attempt) : String × Resource := (attempt.chatMessageID, attempt.resource)

def Attempt.storageKey (store : Store) (attempt : Attempt) : String :=
  mediaObjectKey store attempt.workspaceID attempt.installationID attempt.chatMessageID attempt.resource

def Ingest.attempts (ingest : Ingest) : List Attempt :=
  ingest.resources.map fun res =>
    ⟨ingest.workspaceID, ingest.installationID, ingest.chatMessageID, res⟩

structure World where
  clock : Nat
  shared : Shared
  threads : List Thread
  orphans : List BindTransaction
  late : List Call
  attempts : List Attempt

def initial : World :=
  { clock := 0, shared := ⟨fun _ => none, [], [], [], [], []⟩, threads := [], orphans := [], late := [],
    attempts := [] }

inductive Action
  | ingest (ingest : Ingest)
  | sweep (leaseToken : Nat)
  | serve (index : Nat) (environment : (request : Call) → Answer request) (fault : Fault) (started : Nat)
  | crash (index : Nat) (sent : Bool)
  | settle (index : Nat) (commits : Bool)
  | finish (index started : Nat)
  | materialise (index : Nat)
  | expunge (index : Nat)
  | wait (time : Nat)

def Thread.held (thread : Thread) : List String :=
  match thread.transaction with
  | none => []
  | some opened => opened.held

def World.locked (world : World) (index : Nat) : List String :=
  (world.threads.eraseIdx index).flatMap Thread.held ++ world.orphans.flatMap BindTransaction.held

def World.serve (world : World) (index : Nat) (environment : (request : Call) → Answer request)
    (fault : Fault) (started : Nat) : World :=
  match world.threads[index]? with
  | none => world
  | some thread =>
      match thread.program with
      | .done _ => world
      | .call request next =>
          if fault.happens && (request.rows.any fun key => decide (key ∈ world.locked index)) then world
          else
            let served := Media.serve environment fault (min started world.clock) (world.locked index)
              world.shared thread.transaction request
            { world with
              shared := served.shared
              threads := world.threads.set index ⟨next served.answer, served.transaction⟩
              orphans := served.orphans ++ world.orphans
              late := served.late ++ world.late }

def Thread.commits (thread : Thread) : Bool :=
  match thread.program with
  | .call .commit _ => true
  | _ => false

def World.crash (world : World) (index : Nat) (sent : Bool) : World :=
  match world.threads[index]? with
  | none => world
  | some thread =>
      { world with
        threads := world.threads.set index ⟨.done (), none⟩
        orphans := (thread.transaction.toList.map fun opened =>
          { opened with committing := sent && thread.commits }) ++ world.orphans }

def World.settle (world : World) (index : Nat) (commits : Bool) : World :=
  match world.orphans[index]? with
  | none => world
  | some orphan =>
      { world with
        shared := if commits && orphan.committing then world.shared.land orphan else world.shared
        orphans := world.orphans.eraseIdx index }

def World.finish (world : World) (index started : Nat) : World :=
  match world.late[index]? with
  | none => world
  | some statement =>
      if statement.rows.any fun key => decide (key ∈ world.locked world.threads.length) then world
      else
        { world with
          shared := world.shared.execute (min started world.clock) statement
          late := world.late.eraseIdx index }

def World.materialise (world : World) (index : Nat) : World :=
  match world.shared.puts[index]? with
  | none => world
  | some storageKey => { world with
      shared := { world.shared.put storageKey with puts := world.shared.puts.eraseIdx index } }

def World.expunge (world : World) (index : Nat) : World :=
  match world.shared.deletes[index]? with
  | none => world
  | some storageKey => { world with
      shared := { world.shared.remove storageKey with deletes := world.shared.deletes.eraseIdx index } }

def step (store : Store) (world : World) : Action → World
  | .ingest ingest => { world with
      threads := world.threads ++ [⟨resolveAndBindMedia store ingest, none⟩]
      attempts := ingest.attempts ++ world.attempts }
  | .sweep leaseToken => { world with threads := world.threads ++ [⟨runOnce leaseToken, none⟩] }
  | .serve index environment fault started => world.serve index environment fault started
  | .crash index sent => world.crash index sent
  | .settle index commits => world.settle index commits
  | .finish index started => world.finish index started
  | .materialise index => world.materialise index
  | .expunge index => world.expunge index
  | .wait time => { world with clock := world.clock + time }

abbrev runFrom (store : Store) (world : World) (actions : List Action) : World :=
  RunLib.run (step store) world actions

end MulticaOS.Media
