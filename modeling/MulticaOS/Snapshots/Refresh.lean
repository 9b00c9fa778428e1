import Mathlib.Data.List.Count

/-!
The refresh pipeline of pull request snapshots, translated from `refresh.go`.  Every call of
`Enqueue`, every timer and every worker is a goroutine; each critical section and each channel
operation of one is an action.  What a fetch brings is an argument of the action that ends it.
-/

namespace MulticaOS.Snapshots

structure Address where
  installationID : Int
  owner : String
  repo : String
  number : Int
  deriving DecidableEq

inductive Phase where
  | idle
  | took (address : Address)
  | cleared (address : Address)
  | jittering (address : Address)
  | fetching (address : Address)
  | ended (address : Address)
  | sending (worker : Bool) (address : Address)
  | releasing (worker full : Bool) (address : Address)
  | deferred (due : Nat) (address : Address)
  | retrying (due : Nat) (address : Address)
  | returned
  deriving DecidableEq

inductive Event where
  | enqueued (address : Address)
  | fetched (address : Address)
  | dropped (address : Address)
  deriving DecidableEq

/-- The manager while its workers run, with the goroutines and, latest first, what has happened.
Times are in seconds. -/
structure Manager where
  capacity : Nat
  queue : List Address
  active : Address → Bool
  inFlight : Address → Bool
  trailing : Address → Bool
  attempts : Address → Nat
  rateUntil : Int → Option Nat
  now : Nat
  cancelled : Bool
  goroutines : List Phase
  history : List Event

def start (capacity concurrency : Nat) : Manager :=
  ⟨capacity, [], fun _ => false, fun _ => false, fun _ => false, fun _ => 0, fun _ => none, 0, false,
    List.replicate concurrency .idle, []⟩

def chaseBackoff : List Nat := [30, 60, 120, 300]

def maxChaseAttempts : Nat := 12

def become (manager : Manager) (index : Nat) (phase : Phase) : Manager :=
  { manager with goroutines := manager.goroutines.set index phase }

def go (manager : Manager) (phase : Phase) : Manager :=
  { manager with goroutines := manager.goroutines ++ [phase] }

def rest (worker : Bool) : Phase := if worker then .idle else .returned

def enqueue (manager : Manager) (address : Address) : Manager × Phase :=
  let called := { manager with history := .enqueued address :: manager.history }
  if manager.active address then
    if manager.inFlight address then
      ({ called with trailing := Function.update manager.trailing address true }, .returned)
    else (called, .returned)
  else ({ called with active := Function.update manager.active address true }, .sending false address)

def send (manager : Manager) (index : Nat) (worker : Bool) (address : Address) : Manager :=
  if manager.queue.length < manager.capacity then
    become { manager with queue := manager.queue ++ [address] } index (rest worker)
  else become manager index (.releasing worker true address)

/-- A drop at a full queue is logged, a release at shutdown is not. -/
def release (manager : Manager) (full : Bool) (address : Address) : Manager :=
  { manager with
    active := Function.update manager.active address false
    inFlight := Function.update manager.inFlight address false
    trailing := Function.update manager.trailing address false
    history := if full then .dropped address :: manager.history else manager.history }

def pause (manager : Manager) (installationID : Int) : Nat :=
  match manager.rateUntil installationID with
  | none => 0
  | some expiry => expiry - manager.now

def rateLimitPause (manager : Manager) (installationID : Int) : Manager × Nat :=
  if pause manager installationID = 0 then
    ({ manager with rateUntil := Function.update manager.rateUntil installationID none }, 0)
  else (manager, pause manager installationID)

def extendRateLimit (manager : Manager) (installationID : Int) (retryAfter : Nat) : Manager :=
  let expiry := manager.now + retryAfter
  if (manager.rateUntil installationID).all (· < expiry) then
    { manager with rateUntil := Function.update manager.rateUntil installationID (some expiry) }
  else manager

/-- What became of a fetch. `undecided` says that a snapshot without a verdict was applied to an
open pull request. -/
inductive Outcome where
  | limited (retryAfter : Nat)
  | failed
  | undecided
  | settled
  deriving DecidableEq

def clearAttempts (manager : Manager) (address : Address) : Manager :=
  { manager with attempts := Function.update manager.attempts address 0 }

def scheduleChase (manager : Manager) (address : Address) : Manager :=
  let attempt := manager.attempts address
  if maxChaseAttempts ≤ attempt then clearAttempts manager address
  else
    let delay := chaseBackoff.getD (min attempt (chaseBackoff.length - 1)) 0
    go { manager with attempts := Function.update manager.attempts address (attempt + 1) }
      (.retrying (manager.now + delay) address)

def process (manager : Manager) (address : Address) : Outcome → Manager
  | .limited retryAfter => extendRateLimit manager address.installationID retryAfter
  | .failed => manager
  | .undecided => scheduleChase manager address
  | .settled => clearAttempts manager address

def finish (manager : Manager) (index : Nat) (address : Address) : Manager :=
  let landed := { manager with inFlight := Function.update manager.inFlight address false }
  if manager.trailing address then
    become { landed with trailing := Function.update manager.trailing address false } index
      (.sending true address)
  else become { landed with active := Function.update manager.active address false } index .idle

inductive Action where
  | enqueue (address : Address)
  | proceed (index : Nat)
  | stop (index : Nat)
  | wake (index : Nat)
  | respond (index : Nat) (outcome : Outcome)
  | tick (seconds : Nat)
  | cancel
  deriving DecidableEq

def proceed (manager : Manager) (index : Nat) : Manager :=
  match manager.goroutines[index]? with
  | some .idle =>
      match manager.queue with
      | [] => manager
      | address :: others => become { manager with queue := others } index (.took address)
  | some (.took address) =>
      let checked := rateLimitPause manager address.installationID
      if checked.2 = 0 then become checked.1 index (.cleared address)
      else go (become checked.1 index .idle) (.deferred (manager.now + checked.2) address)
  | some (.cleared address) =>
      become { manager with inFlight := Function.update manager.inFlight address true } index
        (.jittering address)
  | some (.jittering address) =>
      become { manager with history := .fetched address :: manager.history } index (.fetching address)
  | some (.ended address) => finish manager index address
  | some (.sending worker address) => send manager index worker address
  | some (.releasing worker full address) =>
      become (release manager full address) index (rest worker)
  | some (.deferred due address) =>
      if manager.now < due then manager
      else if manager.cancelled then become manager index (.releasing false false address)
      else become manager index (.sending false address)
  | some (.retrying due address) =>
      if manager.now < due then manager
      else if manager.cancelled then become manager index .returned
      else
        let entered := enqueue manager address
        become entered.1 index entered.2
  | _ => manager

def step (manager : Manager) : Action → Manager
  | .enqueue address =>
      let entered := enqueue manager address
      go entered.1 entered.2
  | .proceed index => proceed manager index
  | .stop index =>
      match manager.goroutines[index]? with
      | some .idle => if manager.cancelled then become manager index .returned else manager
      | _ => manager
  | .wake index =>
      match manager.goroutines[index]? with
      | some (.jittering address) =>
          if manager.cancelled then become manager index (.ended address) else manager
      | _ => manager
  | .respond index outcome =>
      match manager.goroutines[index]? with
      | some (.fetching address) => become (process manager address outcome) index (.ended address)
      | _ => manager
  | .tick seconds => { manager with now := manager.now + seconds }
  | .cancel => { manager with cancelled := true }

end MulticaOS.Snapshots
