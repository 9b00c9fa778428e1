import MulticaOS.Lib.Runs
import MulticaOS.Channels.Phases

/-!
Workers that dispatch one message over a shared database: the dedup row with its three
statements, append transactions that hold the row's lock from their mark to their end,
statements that fail with or without an effect, and crashes.
-/

namespace MulticaOS.Channels

open ProgramLib

structure DedupRow where
  claimToken : ID
  receivedAt : Nat
  processed : Bool
  deriving DecidableEq

def claimWindow : Nat := 60 * 1000000

/-- The committed state, as far as the message is concerned. Tokens are minted in order. -/
structure Database where
  row : Option DedupRow
  minted : ID
  messages : Nat
  issues : Nat
  deriving DecidableEq

structure Transaction where
  messages : Nat
  marks : Bool
  committing : Bool
  deriving DecidableEq

def DedupRow.stale (row : DedupRow) (started : Nat) : Bool :=
  !row.processed && decide (row.receivedAt + claimWindow < started)

def Database.claim (database : Database) (started : Nat) : Database × ClaimAnswer :=
  let claimed : Database :=
    { database with row := some ⟨database.minted, started, false⟩, minted := database.minted + 1 }
  match database.row with
  | none => (claimed, .claimed database.minted)
  | some row => if row.stale started then (claimed, .claimed database.minted) else (database, .duplicate)

def DedupRow.ownedBy (row : DedupRow) (token : ID) : Bool :=
  decide (row.claimToken = token) && !row.processed

def Database.owned (database : Database) (token : ID) : Bool :=
  database.row.any fun row => row.ownedBy token

def DedupRow.process (row : DedupRow) : DedupRow := { row with processed := true }

def Database.mark (database : Database) (token : ID) : Database :=
  if database.owned token then { database with row := database.row.map DedupRow.process } else database

def Database.release (database : Database) (token : ID) : Database :=
  if database.owned token then { database with row := none } else database

def Database.land (database : Database) (transaction : Transaction) : Database :=
  { database with
    row := if transaction.marks then database.row.map DedupRow.process else database.row
    messages := database.messages + transaction.messages }

/-- What goes wrong with a statement: it is refused, or it takes effect and its answer is lost, or it is a
commit whose outcome is settled later. -/
inductive Fault
  | none
  | refused (text : String)
  | lost (text : String)
  | pending (text : String)

def Fault.happens : Fault → Bool
  | .none => true
  | .lost _ => true
  | _ => false

def Fault.report : Fault → Option String
  | .none => .none
  | .refused text => some text
  | .lost text => some text
  | .pending text => some text

structure Served (request : Call) where
  answer : Answer request
  database : Database
  transaction : Option Transaction
  orphans : List Transaction

/-- The answer to a call of a worker and what it changes. A statement outside a transaction commits by
itself; what a worker leaves open becomes an orphan that the server still has to end. -/
def serve (delivery : Delivery) (environment : (request : Call) → Answer request) (fault : Fault)
    (started : Nat) (database : Database) (transaction : Option Transaction) :
    (request : Call) → Served request
  | .claim installationID messageID =>
      if installationID = delivery.installationID ∧ messageID = delivery.messageID then
        let claimed := database.claim started
        { answer := match fault.report with
            | none => claimed.2
            | some text => .failed text
          database := if fault.happens then claimed.1 else database
          transaction := transaction, orphans := [] }
      else ⟨environment (.claim installationID messageID), database, transaction, []⟩
  | .begin =>
      match environment .begin with
      | .ok _ => ⟨.ok (), database, some ⟨0, false, false⟩, transaction.toList⟩
      | .error text => ⟨.error text, database, transaction, []⟩
  | .createChatMessage sessionID content mediaPending =>
      match environment (.createChatMessage sessionID content mediaPending) with
      | .error text => ⟨.error text, database, transaction, []⟩
      | .ok messageID =>
          match transaction with
          | some opened =>
              ⟨.ok messageID, database, some { opened with messages := opened.messages + 1 }, []⟩
          | none => ⟨.ok messageID, { database with messages := database.messages + 1 }, none, []⟩
  | .markProcessed installationID messageID token =>
      if installationID = delivery.installationID ∧ messageID = delivery.messageID then
        match transaction with
        | some opened =>
            let owned := database.owned token && !opened.marks
            { answer := match fault.report with
                | none => .ok (if owned then 1 else 0)
                | some text => .error text
              database := database
              transaction := some (if fault.happens && owned then { opened with marks := true } else opened)
              orphans := [] }
        | none =>
            { answer := match fault.report with
                | none => .ok (if database.owned token then 1 else 0)
                | some text => .error text
              database := if fault.happens then database.mark token else database
              transaction := none, orphans := [] }
      else ⟨environment (.markProcessed installationID messageID token), database, transaction, []⟩
  | .commit =>
      match transaction with
      | none => ⟨.failed "no transaction in progress" false, database, none, []⟩
      | some opened =>
          match fault with
          | .none => ⟨.committed, database.land opened, none, []⟩
          | .lost text => ⟨.failed text true, database.land opened, none, []⟩
          | .refused text => ⟨.failed text false, database, none, []⟩
          | .pending text => ⟨.failed text false, database, none, [{ opened with committing := true }]⟩
  | .rollback => ⟨(), database, none, if fault.happens then [] else transaction.toList⟩
  | .createIssue params =>
      match environment (.createIssue params) with
      | .error text => ⟨.error text, database, transaction, []⟩
      | .ok issue =>
          { answer := match fault.report with
              | none => .ok issue
              | some text => .error text
            database := if fault.happens then { database with issues := database.issues + 1 } else database
            transaction := transaction, orphans := [] }
  | .mark installationID messageID token =>
      if installationID = delivery.installationID ∧ messageID = delivery.messageID then
        ⟨(), if fault.happens then database.mark token else database, transaction, []⟩
      else ⟨(), database, transaction, []⟩
  | .release installationID messageID token =>
      if installationID = delivery.installationID ∧ messageID = delivery.messageID then
        ⟨(), if fault.happens then database.release token else database, transaction, []⟩
      else ⟨(), database, transaction, []⟩
  | request => ⟨environment request, database, transaction, []⟩

def waits : Call → Bool
  | .claim _ _ => true
  | .markProcessed _ _ _ => true
  | .mark _ _ _ => true
  | .release _ _ _ => true
  | _ => false

structure Worker where
  program : Program (Except Failure Result)
  transaction : Option Transaction
  crashed : Bool

structure World where
  clock : Nat
  database : Database
  workers : List Worker
  orphans : List Transaction

inductive Action
  | receive (message : InboundMessage)
  | serve (index : Nat) (environment : (request : Call) → Answer request) (fault : Fault) (started : Nat)
  | crash (index : Nat) (sent : Bool)
  | settle (index : Nat) (commits : Bool)
  | wait (time : Nat)

def Worker.locks (worker : Worker) : Bool := worker.transaction.any Transaction.marks

/-- A transaction of another worker, or one that the server has not ended yet, holds the row's lock. -/
def World.lockedFor (world : World) (index : Nat) : Bool :=
  (world.workers.eraseIdx index).any Worker.locks || world.orphans.any Transaction.marks

def resolves (delivery : Delivery) (environment : (request : Call) → Answer request) : Bool :=
  match environment .resolveInstallation with
  | .found installation => decide (installation.id = delivery.installationID)
  | _ => true

def initial : World :=
  { clock := 0, database := { row := none, minted := 0, messages := 0, issues := 0 }
    workers := [], orphans := [] }

def Worker.commits (worker : Worker) : Bool :=
  match worker.program with
  | .call .commit _ => true
  | _ => false

def World.receive (delivery : Delivery) (world : World) (message : InboundMessage) : World :=
  if message.messageID = delivery.messageID then
    { world with workers := world.workers ++ [⟨dispatch message, none, false⟩] }
  else world

def World.serve (delivery : Delivery) (world : World) (index : Nat)
    (environment : (request : Call) → Answer request) (fault : Fault) (started : Nat) : World :=
  match world.workers[index]? with
  | none => world
  | some worker =>
      match worker.program with
      | .done _ => world
      | .call request next =>
          if worker.crashed || !resolves delivery environment ||
            (fault.happens && waits request && world.lockedFor index) then world
          else
            let served := Channels.serve delivery environment fault (min started world.clock)
              world.database worker.transaction request
            { world with
              database := served.database
              workers := world.workers.set index ⟨next served.answer, served.transaction, false⟩
              orphans := served.orphans ++ world.orphans }

def World.crash (world : World) (index : Nat) (sent : Bool) : World :=
  match world.workers[index]? with
  | none => world
  | some worker =>
      { world with
        workers := world.workers.set index { worker with transaction := none, crashed := true }
        orphans := (worker.transaction.toList.map fun opened =>
          { opened with committing := sent && worker.commits }) ++ world.orphans }

def World.settle (world : World) (index : Nat) (commits : Bool) : World :=
  match world.orphans[index]? with
  | none => world
  | some orphan =>
      { world with
        database := if commits && orphan.committing then world.database.land orphan else world.database
        orphans := world.orphans.eraseIdx index }

def step (delivery : Delivery) (world : World) : Action → World
  | .receive message => world.receive delivery message
  | .serve index environment fault started => world.serve delivery index environment fault started
  | .crash index sent => world.crash index sent
  | .settle index commits => world.settle index commits
  | .wait time => { world with clock := world.clock + time }

abbrev runFrom (delivery : Delivery) (world : World) (actions : List Action) : World :=
  RunLib.run (step delivery) world actions

end MulticaOS.Channels
